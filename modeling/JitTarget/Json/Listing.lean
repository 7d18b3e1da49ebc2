/-
  JitTarget.Json.Listing
  ────────────────────────────────
  **THE FIELDS OF AN OBJECT AS ITS TEXT LISTS THEM.**

  A value does not tell in which order its text listed the fields of an object, or
  whether a key was listed twice.  Where that matters the text itself is looked at:

      listing?  — the fields a text lists, in its order
      inPlaces  — the same fields in their places, as a value holds them
      unlines   — a text that lists fields, with a line for each
-/
import JitTarget.Json.Reader

namespace JitTarget.Json

/-! ## §1. What a text lists. -/

/-- The fields of an object, up to its closing brace, as they come. -/
def entries? : Nat → List Char → Option (List (String × Json) × List Char)
  | 0, _ => none
  | n + 1, cs =>
      match skipSpace cs with
      | '"' :: r =>
          match string? r with
          | none => none
          | some (k, r) =>
              match skipSpace r with
              | ':' :: r =>
                  match value? n r with
                  | none => none
                  | some (v, r) =>
                      match skipSpace r with
                      | ',' :: r => (entries? n r).map (fun (fs, r) => ((k, v) :: fs, r))
                      | '\x7d' :: r => some ([(k, v)], r)
                      | _ => none
              | _ => none
      | _ => none

/-- **The fields a text lists**, if it holds one object and nothing else. -/
def listing? (s : String) : Option (List (String × Json)) :=
  match skipSpace s.toList with
  | '\x7b' :: r =>
      match skipSpace r with
      | '\x7d' :: r => if (skipSpace r).isEmpty then some [] else none
      | r =>
          match entries? s.toList.length r with
          | some (fs, r) => if (skipSpace r).isEmpty then some fs else none
          | none => none
  | _ => none

/-- Fields in their places, each added before the later ones. -/
def inPlaces (fs : List (String × Json)) : List (String × Json) :=
  fs.foldr (fun field later => addField field.1 field.2 later) []

/-! ## §2. A line for each field. -/

/-- A text that needs no escapes between quotes. -/
def IsUnescaped (text : String) : Prop :=
  ∀ c ∈ text.toList, 32 ≤ c.toNat ∧ c ≠ '"' ∧ c ≠ '\\'

/-- **A text spells a value**: read in front of a comma or a newline, it is that value
and nothing is left of it. -/
def Spells (text : String) (v : Json) : Prop :=
  ∀ (n : Nat) {c : Char} (rest : List Char), c = ',' ∨ c = '\n' →
    value? (n + 1) (text.toList ++ c :: rest) = some (v, c :: rest)

/-- A field: its key, and its value with the text that spells it. -/
structure Field where
  key : String
  text : String
  value : Json

namespace Field

/-- The line of a field, without what ends it. -/
def line (f : Field) : String := "  \"" ++ f.key ++ "\": " ++ f.text

/-- What a field has to be to be read as it is meant. -/
structure WellFormed (f : Field) : Prop where
  key : IsUnescaped f.key
  value : Spells f.text f.value

end Field

/-- The lines of fields, with what ends each but the last. -/
def lines (fields : List Field) : List Char :=
  (String.intercalate ",\n" (fields.map Field.line)).toList

/-- **The text of an object** with a line for each field. -/
def unlines (fields : List Field) : String :=
  "\x7b\n" ++ String.intercalate ",\n" (fields.map Field.line) ++ "\n\x7d"

end JitTarget.Json
