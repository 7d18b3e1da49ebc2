/-
  JitTarget.Json.Respelling
  ────────────────────────────────
  **OTHER SPELLINGS OF A JSON VALUE.**

  A choice is spelt by its name or as the name alone over null, and a record in which
  no field is left out by key or by position.  A respelling is one step from the former
  to the latter, at any depth of what a type reads; how deep that is, the types say.
  Reading is canonical where all spellings are read alike, and the one that is written
  is among them:

      RespellsChoice, RespellsFlag — what holds no other values
      RespellsRecord               — a record, or what is in one of its fields
      canonical?                   — a value as its type writes it
      Canonical                    — types that do not tell spellings apart
-/
import JitTarget.Json.Codec
import Mathlib.Data.List.Forall2
import Mathlib.Logic.Relation

namespace JitTarget.Json

open Schema

/-! ## §1. Respellings. -/

/-- Pairs of a value and another spelling of it, one step apart. -/
abbrev Respelling := Json → Json → Prop

/-- A name, and the name alone over null. -/
inductive RespellsChoice : Respelling where
  | key (name : String) : RespellsChoice (.string name) (.object [(name, .null)])

/-- A flag has one spelling only. -/
def RespellsFlag : Respelling := fun _ _ => False

/-- **A record respelt**, as a whole or in one field. The fields are listed in the order
of their positions, each with the respellings of what is in it. -/
inductive RespellsRecord (parts : List (String × Respelling)) : Respelling where
  /-- No field is left out, so they may be listed. -/
  | positions {fields : List (String × Json)} {items : List Json}
      (h : List.Forall₂ (fun part item => fields.lookup part.1 = some item) parts items) :
      RespellsRecord parts (.object fields) (.array items)
  /-- What stands under a key. -/
  | field {key : String} {respells : Respelling} {v v' : Json}
      {front back : List (String × Json)} (hpart : (key, respells) ∈ parts)
      (h : respells v v') :
      RespellsRecord parts (.object (front ++ (key, v) :: back))
        (.object (front ++ (key, v') :: back))
  /-- What stands in a place. -/
  | item {key : String} {respells : Respelling} {v v' : Json} {items : List Json}
      {position : Nat} (hpart : parts[position]? = some (key, respells))
      (hitem : items[position]? = some v) (h : respells v v') :
      RespellsRecord parts (.array items) (.array (items.set position v'))

/-! ## §2. Canonical spellings. -/

/-- **A value as its type writes it**: read, and written again. -/
def canonical? (α : Type) [Codec α] (v : Json) : Except Flaw Json :=
  (Codec.ofJson v : Except Flaw α).map Codec.toJson

/-- **Reading is canonical.** What is written is read as what it was, so writing it
again changes nothing any more; and however often a value is respelt, it is read as
before. -/
structure Canonical (α : Type) [Codec α] (respells : Respelling) : Prop where
  /-- What was read of any value is read of its writing. -/
  readsBack : ∀ v (a : α), Codec.ofJson v = .ok a → Codec.ofJson (Codec.toJson a) = .ok a
  /-- What is canonical stays as it is. -/
  settles : ∀ v w, canonical? α v = .ok w → canonical? α w = .ok w
  /-- Another spelling is read alike. -/
  respelt : ∀ v v' (a : α), Relation.ReflTransGen respells v v' →
    Codec.ofJson v = .ok a → Codec.ofJson v' = .ok a

end JitTarget.Json
