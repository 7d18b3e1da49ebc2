/-
  JitTarget.Toml.Line
  ────────────────────────────────
  **PLAIN DOCUMENTS, LINE BY LINE.**

  What a program writes is plainer than what may be read: bare keys, one setting a
  line, sections with undotted names.  Such a document is a list of lines:

      text  — the characters of a line, its newline included
      Says  — the statement a line comes to, wherever it stands
-/
import JitTarget.Toml.Reader

namespace JitTarget.Toml

/-! ## §1. Words. -/

/-- A key that needs no quotes. -/
def IsBare (key : String) : Prop := key ≠ "" ∧ ∀ c ∈ key.toList, isBareChar c = true

instance (key : String) : Decidable (IsBare key) :=
  decidable_of_iff (key ≠ "" ∧ key.toList.all isBareChar = true)
    (and_congr_right (fun _ => List.all_eq_true))

/-- A text that needs no escapes between quotes. -/
def IsUnescaped (text : String) : Prop :=
  ∀ c ∈ text.toList, isStringChar c = true ∧ c ≠ '"' ∧ c ≠ '\\'

instance (text : String) : Decidable (IsUnescaped text) :=
  decidable_of_iff (text.toList.all (fun c => isStringChar c && c != '"' && c != '\\') = true)
    (by simp [IsUnescaped, and_assoc])

/-- **A text spells a value**: read at the end of a line, it is that value and
nothing is left of it. -/
structure Spells (text : String) (a : Atom) : Prop where
  /-- The text starts no array and no inline table, and with no blank. -/
  opens : ∃ c r, text.toList = c :: r ∧ isBlank c = false ∧ c ≠ '[' ∧ c ≠ '\x7b'
  reads : ∀ rest, atom? (text.toList ++ '\n' :: rest) = some (a, '\n' :: rest)

/-! ## §2. Lines. -/

/-- A setting: its key, and its value with the text that spells it. -/
structure Setting where
  key : String
  text : String
  value : Atom
  deriving Repr, DecidableEq

/-- A line of a plain document. -/
inductive Line where
  /-- Nothing. -/
  | blank
  /-- A comment, without the sign it opens with. -/
  | comment (text : String)
  /-- The header of a section. -/
  | header (name : String)
  | setting (s : Setting)
  deriving Repr, DecidableEq

namespace Line

/-- The characters of a line. -/
def text : Line → List Char
  | blank => ['\n']
  | comment text => '#' :: text.toList ++ ['\n']
  | header name => '[' :: name.toList ++ [']', '\n']
  | setting s => s.key.toList ++ ' ' :: '=' :: ' ' :: s.text.toList ++ ['\n']

/-- Whether a line is more than a blank one or a comment. -/
def isStatement : Line → Bool
  | blank | comment _ => false
  | header _ | setting _ => true

/-- What a line has to be to be read as it is meant. -/
def WellFormed : Line → Prop
  | blank => True
  | comment text => ∀ c ∈ text.toList, isCommentChar c = true
  | header name => IsBare name
  | setting s => IsBare s.key ∧ Spells s.text s.value

/-- **What a line says**, wherever it stands in the document. -/
inductive Says : Line → Statement → Prop where
  | header (name : String) (e e' : Extent) :
      Says (header name) (.header ⟨[], ⟨name, e⟩⟩ e')
  | setting (s : Setting) (e e' : Extent) :
      Says (setting s) (.entry ⟨[], ⟨s.key, e⟩⟩ (.atom s.value e'))

/-- What lines say, one by one. -/
inductive SayAll : List Line → List Statement → Prop where
  | nil : SayAll [] []
  | cons {line : Line} {s : Statement} {lines : List Line} {ss : List Statement}
      (hline : line.Says s) (hlines : SayAll lines ss) : SayAll (line :: lines) (s :: ss)

end Line

/-- The text of a plain document. -/
def unlines (lines : List Line) : String := String.ofList (lines.flatMap Line.text)

/-- A section of a plain document. -/
structure Section where
  name : String
  settings : List Setting
  deriving Repr, DecidableEq

/-- What a plain document says: settings that are in no section, then sections. -/
structure Outline where
  settings : List Setting := []
  sections : List Section := []
  deriving Repr, DecidableEq

/-- Settings as the entries of a table. -/
def settingTable (settings : List Setting) : Table :=
  settings.map (fun s => (s.key, .atom s.value))

/-- Sections as the entries of a table. -/
def sectionTable (sections : List Section) : Table :=
  sections.map (fun s => (s.name, .table (settingTable s.settings)))

namespace Outline

/-- The lines that say something. -/
def lines (o : Outline) : List Line :=
  o.settings.map .setting
    ++ o.sections.flatMap (fun s => .header s.name :: s.settings.map .setting)

/-- **The table a plain document describes.** -/
def table (o : Outline) : Table := settingTable o.settings ++ sectionTable o.sections

/-- No key is set twice. -/
structure Distinct (o : Outline) : Prop where
  keys : (o.table.map Prod.fst).Nodup
  within : ∀ s ∈ o.sections, ((settingTable s.settings).map Prod.fst).Nodup

end Outline

end JitTarget.Toml
