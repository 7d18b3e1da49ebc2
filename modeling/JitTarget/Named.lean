/-
  JitTarget.Named
  ────────────────────────────────
  **FINITE TYPES WHOSE VALUES HAVE NAMES.**

  Families, word widths, byte orders and the other facts about a machine are
  small closed types, each value written by one fixed name.  `Named` holds the
  values in their documented order and their names; `ofName?` looks a name up,
  exactly as it is spelled.  Looking a name up inverts giving it:

      ofName? s = some a  ↔  name a = s
-/

namespace JitTarget

/-- A finite type with a distinct name for each value. -/
class Named (α : Type) where
  /-- Every value, in the documented order. -/
  all : List α
  /-- The name of a value. -/
  name : α → String
  /-- No value is missing from `all`. -/
  mem_all : ∀ a, a ∈ all
  /-- No two values share a name. -/
  name_injective : ∀ a b, name a = name b → a = b

namespace Named

variable {α : Type} [Named α]

/-- The names of all values, in the documented order. -/
def names (α : Type) [Named α] : List String :=
  (all : List α).map name

/-- The value a name stands for, if any; the spelling must match exactly. -/
def ofName? (s : String) : Option α :=
  (all : List α).find? (fun a => name a == s)

/-- **Look-up inverts naming**: a name finds the value it belongs to and no
other text finds it. -/
theorem ofName?_eq_some_iff (s : String) (a : α) :
    ofName? s = some a ↔ name a = s := by
  constructor
  · intro h
    have := List.find?_some h
    simpa using this
  · intro h
    subst h
    unfold ofName?
    cases hf : (all : List α).find? (fun b => name b == name a) with
    | none =>
        rw [List.find?_eq_none] at hf
        exact absurd (hf a (mem_all a)) (by simp)
    | some b =>
        have hb : name b = name a := by simpa using List.find?_some hf
        rw [name_injective b a hb]

/-- The name of a value finds that value. -/
theorem ofName?_name (a : α) : ofName? (name a) = some a :=
  (ofName?_eq_some_iff (name a) a).mpr rfl

end Named

end JitTarget
