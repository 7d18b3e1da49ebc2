/-
  JitTarget.Json.Codec
  ────────────────────────────────
  **TYPES WITH A JSON FORM.**

  `Codec` pairs writing a value as JSON with reading it back.  Reading accepts
  more than writing produces:

      a choice   — its name, or an object with the name as its only key and
                   null under it
      an option  — null, or the content
-/
import JitTarget.Json.Basic
import JitTarget.Schema.Record
import JitTarget.Named

namespace JitTarget.Json

open Schema

/-! ## §1. The class. -/

/-- A type whose values are written as JSON and read back. -/
class Codec (α : Type) where
  toJson : α → Json
  ofJson : Json → Except Flaw α

/-- A value as messages about the wrong kind show it. -/
def found : Json → Found
  | .null => .null
  | .bool b => .boolean b
  | .int n => .integer n
  | .float x => .float (x.numeral numerals)
  | .string s => .string s
  | .array _ => .sequence
  | .object _ => .map

/-- Refuses a value of the wrong kind. -/
def wrongKind {α : Type} (v : Json) (expected : String) : Except Flaw α :=
  refuse (.invalidType v.found expected)

/-! ## §2. Flags and options. -/

/-- Reads a flag. -/
def toFlag : Json → Except Flaw Bool
  | .bool b => .ok b
  | v => wrongKind v "a boolean"

instance : Codec Bool := ⟨.bool, toFlag⟩

instance {α : Type} [Codec α] : Codec (Option α) where
  toJson
    | some a => Codec.toJson a
    | none => .null
  ofJson
    | .null => .ok none
    | v => (Codec.ofJson v).map some

/-! ## §3. Choices. -/

/-- The cause of a name that is no choice's. -/
def unknownName (α : Type) [Named α] (name : String) : Mismatch :=
  .unknownVariant name (Named.names α)

/-- Reads a choice: by its name, or as a map from the name to nothing. -/
def toChoice {α : Type} [Named α] : Json → Except Flaw α
  | .string s =>
      match Named.ofName? s with
      | some a => .ok a
      | none => refuse (unknownName α s)
  | .object [(k, v)] =>
      -- the name is looked at before what stands under it
      match Named.ofName? k, v with
      | some a, .null => .ok a
      | some _, v => within (.choice k) (wrongKind v "unit")
      | none, _ => refuseKey k (unknownName α k)
  | .object _ => refuse .notSingleKey
  | v => wrongKind v "string or map"

/-- A choice is written as its name. -/
def ofChoice {α : Type} [Named α] (a : α) : Json :=
  .string (Named.name a)

end JitTarget.Json
