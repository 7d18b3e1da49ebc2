/-
  JitTarget.Schema.Mismatch
  ────────────────────────────────
  **WHY A DOCUMENT DOES NOT FIT ITS SCHEMA.**

  Configurations and facts are read from JSON values and from TOML documents.
  Either way a value that does not fit is refused with a `Mismatch`: the cause,
  and its text in `message`.
-/
import JitTarget.Text.Quoted

namespace JitTarget

/-! ## §1. What was found. -/

/-- A value where another was expected, as far as a message shows it. -/
inductive Found where
  | boolean (b : Bool)
  | integer (n : Int)
  /-- A floating-point number, spelt as its document's format spells it. -/
  | float (numeral : String)
  | string (s : String)
  | null
  | sequence
  | map
  deriving Repr, DecidableEq

/-- The wording for what was found. -/
def Found.describe : Found → String
  | boolean b => "boolean `" ++ (if b then "true" else "false") ++ "`"
  | integer n => "integer `" ++ toString n ++ "`"
  | float numeral => "floating point `" ++ numeral ++ "`"
  | string s => "string " ++ Text.quoted s
  | null => "null"
  | sequence => "sequence"
  | map => "map"

/-! ## §2. Causes. -/

/-- Why a value does not fit. -/
inductive Mismatch where
  /-- A value of the wrong kind. -/
  | invalidType (found : Found) (expected : String)
  /-- A map with no key or with several stands for a choice. -/
  | notSingleKey
  /-- A name that is none of the known ones. -/
  | unknownVariant (name : String) (known : List String)
  /-- A key the schema does not have. -/
  | unknownField (name : String) (known : List String)
  /-- A required key is absent. -/
  | missingField (name : String)
  /-- A list ends before a required element. -/
  | missingElement (length : Nat) (expected : String)
  /-- A list goes on behind the last element. -/
  | extraElements (length : Nat)
  /-- Neither a string nor a table stands for a choice. -/
  | notStringOrTable
  /-- An empty table stands for a choice. -/
  | noChoice
  /-- A table with several keys stands for a choice. -/
  | manyChoices
  /-- A choice without content has a value that is no table. -/
  | notTable (kind : String)
  /-- A choice without content has content. -/
  | notEmptyTable
  /-- A choice without content has tables under headers of their own. -/
  | notEmptyArray
  deriving Repr, DecidableEq

/-- The known names in backticks: one alone, two with "or", more as a list. -/
def expectedNames : List String → String
  | [a] => "`" ++ a ++ "`"
  | [a, b] => "`" ++ a ++ "` or `" ++ b ++ "`"
  | names => "one of " ++ String.intercalate ", " (names.map (fun n => "`" ++ n ++ "`"))

/-- The text of a mismatch. -/
def Mismatch.message : Mismatch → String
  | invalidType found expected =>
      "invalid type: " ++ found.describe ++ ", expected " ++ expected
  | notSingleKey => "invalid value: map, expected map with a single key"
  | unknownVariant name known =>
      "unknown variant `" ++ name ++ "`, expected " ++ expectedNames known
  | unknownField name known =>
      "unknown field `" ++ name ++ "`, expected " ++ expectedNames known
  | missingField name => "missing field `" ++ name ++ "`"
  | missingElement length expected =>
      "invalid length " ++ toString length ++ ", expected " ++ expected
  | extraElements length =>
      "invalid length " ++ toString length ++ ", expected fewer elements in array"
  | notStringOrTable => "wanted string or table"
  | noChoice => "wanted exactly 1 element, found 0 elements"
  | manyChoices => "wanted exactly 1 element, more than 1 element"
  | notTable kind => "expected table, found " ++ kind
  | notEmptyTable => "expected empty table"
  | notEmptyArray => "expected empty array"

end JitTarget
