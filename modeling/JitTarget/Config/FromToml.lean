/-
  JitTarget.Config.FromToml
  ────────────────────────────────
  **CONFIGURATION FILES, READ.**

  A text has to be a document before its keys are looked at; they are then
  visited in the order of the document, depth first, and the first that does
  not fit is reported.  Where it stands in the text is looked up afterwards, so
  a configuration depends on the data of its document alone.

      parse  — the configuration a text describes, or why it does not
-/
import JitTarget.Config.Basic
import JitTarget.Schema.Record
import JitTarget.Toml.Location

namespace JitTarget.Config

open Schema

/-! ## §1. What a value is. -/

/-- The only key a date or time has where a map is wanted. -/
def datetimeKey : String := "$__toml_private_datetime"

/-- A value as messages about the wrong kind show it. -/
def foundIn : Toml.Value → Found
  | .atom (.string s) => .string s
  | .atom (.integer n) => .integer n
  | .atom (.float x) => .float (x.numeral Toml.numerals)
  | .atom (.boolean b) => .boolean b
  | .atom (.datetime _) | .table _ => .map
  | .array _ | .series _ => .sequence

/-- The name of a value's kind. -/
def kindOf : Toml.Value → String
  | .atom (.string _) => "string"
  | .atom (.integer _) => "integer"
  | .atom (.float _) => "float"
  | .atom (.boolean _) => "boolean"
  | .atom (.datetime _) => "datetime"
  | .array _ => "array"
  | .series _ => "array of tables"
  | .table _ => "table"

/-! ## §2. Settings. -/

/-- The cause of a name that is no family's. -/
def unknownFamily (name : String) : Mismatch := .unknownVariant name Family.names

/-- Accepts nothing under the name of a choice: an empty table or array. -/
def nothingOfToml : Toml.Value → Except Flaw Unit
  | .table [] | .array [] | .series [] => .ok ()
  | .table _ | .array _ => refuse .notEmptyTable
  | .series _ => refuse .notEmptyArray
  | v => refuse (.notTable (kindOf v))

/-- Reads the family: its exact name, or a table with the name as its only key
and nothing under it. -/
def familyOfToml : Toml.Value → Except Flaw Family
  | .atom (.string s) =>
      match Named.ofName? s with
      | some f => .ok f
      | none => refuse (unknownFamily s)
  | .table [] => refuse .noChoice
  | .table [(k, v)] =>
      -- the name is looked at before what stands under it
      match Named.ofName? k with
      | some f => (within (.choice k) (nothingOfToml v)).map (fun _ => f)
      | none => refuseKey k (unknownFamily k)
  | .table _ => refuse .manyChoices
  | _ => refuse .notStringOrTable

/-- Reads the fastcall setting. -/
def fastcallOfToml : Toml.Value → Except Flaw Bool
  | .atom (.boolean b) => .ok b
  | v => refuse (.invalidType (foundIn v) "a boolean")

/-! ## §3. Sections. -/

/-- Reads a section with one setting. An array stands for it by position, and
what goes beyond it does not count. -/
def sectionOfToml {α : Type} (name key : String)
    (read : Toml.Value → Except Flaw α) : Toml.Value → Except Flaw (Option α)
  | .table entries => oneField key read entries
  | .array items | .series items => element read 0 items
  | .atom (.datetime _) => refuseKey datetimeKey (.unknownField datetimeKey [key])
  | v => refuse (.invalidType (foundIn v) name)

/-- Reads the section about the target. -/
def targetOfToml (v : Toml.Value) : Except Flaw (Option Family) :=
  sectionOfToml targetName familyKey familyOfToml v

/-- Reads the section about the toolchain. -/
def toolchainOfToml (v : Toml.Value) : Except Flaw (Option Bool) :=
  sectionOfToml toolchainName fastcallKey fastcallOfToml v

/-- **Reads a configuration** out of a document. -/
def ofToml (document : Toml.Table) : Except Flaw Config := do
  let (family, fastcall) ←
    twoFields targetKey toolchainKey targetOfToml toolchainOfToml document
  return { family := family.join, fastcall := fastcall.join }

/-! ## §4. Texts. -/

/-- Why a text is no configuration, with the passage that shows it. -/
inductive ParseError where
  /-- It is no document. -/
  | malformed (passage : Text.Excerpt)
  /-- It is a document that says something else. -/
  | mismatch (cause : Mismatch) (passage : Text.Excerpt)
  deriving Repr, DecidableEq

namespace ParseError

/-- The reason alone. -/
def reason : ParseError → String
  | malformed _ => "not a TOML document"
  | mismatch cause _ => cause.message

/-- The passage that shows it. -/
def passage : ParseError → Text.Excerpt
  | malformed passage | mismatch _ passage => passage

/-- The text of a parse error: where it is, the line, and the reason, each on
lines of their own. -/
def message (e : ParseError) : String :=
  String.join ((["TOML parse error at " ++ e.passage.position] ++ e.passage.lines
    ++ [e.reason]).map (· ++ "\n"))

end ParseError

/-- **The configuration a text describes.** -/
def parse (text : String) : Except ParseError Config :=
  match Toml.read text with
  | .error extent => .error (.malformed (extent.excerpt text))
  | .ok document =>
      (ofToml document.data).mapError (fun flaw =>
        .mismatch flaw.cause ((document.locate flaw.place).excerpt text))

end JitTarget.Config
