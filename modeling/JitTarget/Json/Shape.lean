/-
  JitTarget.Json.Shape
  ────────────────────────────────
  **SHAPES OF JSON VALUES.**

  One thing may be written in several shapes: a record as an object or, by position, as
  an array; a choice by its name or as an object with the name as its only key.  What may
  stand for what is said here shape by shape, without an order in which keys are visited:

      Keyed                    — every key stands once in its object
      IsRecord, part?          — a record, and what it has for a field
      IsChoice, IsFlag         — a choice and a flag
      IsSetting, IsPart        — what null leaves open, and what may be left out
-/
import JitTarget.Json.Basic
import JitTarget.Named

namespace JitTarget.Json

/-! ## §1. Keys. -/

/-- **Every key stands once** in its object, at any depth. -/
inductive Keyed : Json → Prop where
  | null : Keyed .null
  | bool (b : Bool) : Keyed (.bool b)
  | int (n : Int) : Keyed (.int n)
  | float (x : Binary64) : Keyed (.float x)
  | string (s : String) : Keyed (.string s)
  | array {items : List Json} (h : ∀ item ∈ items, Keyed item) : Keyed (.array items)
  | object {fields : List (String × Json)} (hkeys : (fields.map Prod.fst).Nodup)
      (h : ∀ field ∈ fields, Keyed field.2) : Keyed (.object fields)

/-- An object has a key. -/
def HasKey (v : Json) (key : String) : Prop :=
  ∃ fields, v = .object fields ∧ key ∈ fields.map Prod.fst

/-! ## §2. Records. -/

/-- **A record with these keys**: an object with no other key, or an array with no
more elements. -/
inductive IsRecord (keys : List String) : Json → Prop where
  | object {fields : List (String × Json)} (h : ∀ k ∈ fields.map Prod.fst, k ∈ keys) :
      IsRecord keys (.object fields)
  | array {items : List Json} (h : items.length ≤ keys.length) : IsRecord keys (.array items)

/-- What a record has for a field: what stands under its key, or in its place. -/
def part? (key : String) (position : Nat) : Json → Option Json
  | .object fields => fields.lookup key
  | .array items => items[position]?
  | _ => none

/-! ## §3. Parts. -/

variable {α : Type}

/-- **A choice**: its name, or an object with the name as its only key and null
under it. -/
inductive IsChoice [Named α] : Json → α → Prop where
  | name (a : α) : IsChoice (.string (Named.name a)) a
  | key (a : α) : IsChoice (.object [(Named.name a, .null)]) a

/-- A flag. -/
inductive IsFlag : Json → Bool → Prop where
  | flag (b : Bool) : IsFlag (.bool b) b

/-- **A setting**, which null leaves open. -/
inductive IsSetting (is : Json → α → Prop) : Json → Option α → Prop where
  | null : IsSetting is .null none
  | given {v : Json} {a : α} (h : is v a) : IsSetting is v (some a)

/-- **A part that may be left out**; that leaves it open, too. -/
inductive IsPart (is : Json → Option α → Prop) : Option Json → Option α → Prop where
  | absent : IsPart is none none
  | present {v : Json} {a : Option α} (h : is v a) : IsPart is (some v) a

end JitTarget.Json
