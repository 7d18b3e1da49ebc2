/-
  JitTarget.Proofs.JsonShapes
  ────────────────────────────────
  **WHAT THE READERS OF JSON VALUES ACCEPT.**

  Each reader accepts its own shapes and nothing else, and reads what they stand for:

      toChoice_eq_ok_iff, toFlag_eq_ok_iff — choices and flags
      ofJson_option_eq_ok_iff              — settings that null leaves open
      reads_join_iff                       — parts that may be left out
      element_eq_ok_iff, atMost_eq_ok_iff  — records by position
-/
import JitTarget.Json.Codec
import JitTarget.Json.Shape
import JitTarget.Proofs.Records

namespace JitTarget

open Schema

/-! ## §1. Positions. -/

section Positions

variable {V α : Type} {read : V → Except Flaw α} {items : List V}

/-- **An element** is read where the list is that long. -/
theorem Schema.element_eq_ok_iff {position : Nat} {a : Option α} :
    element read position items = .ok a ↔ Reads read items[position]? a := by
  unfold element
  cases hfound : items[position]? with
  | none =>
      constructor
      · intro h
        cases h
        exact .absent
      · intro h
        cases h
        rfl
  | some v =>
      simp only [map_eq_ok_iff, within_eq_ok_iff]
      constructor
      · rintro ⟨a', hread, rfl⟩
        exact .present hread
      · intro h
        cases h with
        | present hread => exact ⟨_, hread, rfl⟩

theorem Schema.atMost_eq_ok_iff {size : Nat} {u : Unit} :
    atMost size items = .ok u ↔ items.length ≤ size := by
  unfold atMost
  split
  next h => exact iff_of_true rfl h
  next h => exact iff_of_false nofun h

end Positions

namespace Json

variable {α : Type}

/-! ## §2. Choices, flags and settings. -/

/-- **A choice is read** by its name or as the name alone over nothing. -/
theorem toChoice_eq_ok_iff [Named α] {v : Json} {a : α} : toChoice v = .ok a ↔ IsChoice v a := by
  constructor
  · intro h
    unfold toChoice at h
    split at h
    next s =>
      split at h
      next b hname =>
        cases h
        rw [← (Named.ofName?_eq_some_iff s a).mp hname]
        exact .name a
      next => cases h
    next k w =>
      split at h
      next b hname =>
        cases h
        rw [← (Named.ofName?_eq_some_iff k a).mp hname]
        exact .key a
      next => cases h
      next => cases h
    next => cases h
    next => cases h
  · intro h
    cases h with
    | name => simp only [toChoice, Named.ofName?_name]
    | key => simp only [toChoice, Named.ofName?_name]

theorem toFlag_eq_ok_iff {v : Json} {b : Bool} : toFlag v = .ok b ↔ IsFlag v b := by
  constructor
  · intro h
    unfold toFlag at h
    split at h
    next b' =>
      cases h
      exact .flag b
    next => cases h
  · intro h
    cases h
    rfl

/-- **A setting is read** as open where it is null, and else as its content, which is
never null. -/
theorem ofJson_option_eq_ok_iff [Codec α] {is : Json → α → Prop}
    (hread : ∀ v a, (Codec.ofJson v : Except Flaw α) = .ok a ↔ is v a)
    (hnull : ∀ a, ¬ is .null a) (v : Json) (a : Option α) :
    (Codec.ofJson v : Except Flaw (Option α)) = .ok a ↔ IsSetting is v a := by
  by_cases hv : v = .null
  · subst hv
    constructor
    · intro h
      cases h
      exact .null
    · intro h
      cases h with
      | null => rfl
      | given h => exact absurd h (hnull _)
  · have hcontent : (Codec.ofJson v : Except Flaw (Option α)) = (Codec.ofJson v).map some := by
      cases v with
      | null => exact absurd rfl hv
      | _ => rfl
    rw [hcontent, map_eq_ok_iff]
    constructor
    · rintro ⟨a', h, rfl⟩
      exact .given ((hread v a').mp h)
    · intro h
      cases h with
      | null => exact absurd rfl hv
      | given h => exact ⟨_, (hread v _).mpr h, rfl⟩

/-- Null stands for no choice and for no flag. -/
theorem not_isChoice_null [Named α] (a : α) : ¬ IsChoice .null a := nofun

theorem not_isFlag_null (b : Bool) : ¬ IsFlag .null b := nofun

/-! ## §3. Parts. -/

/-- **A part that may be left out** is read, whether it leaves itself open or not. -/
theorem reads_join_iff {read : Json → Except Flaw (Option α)} {is : Json → Option α → Prop}
    {o : Option Json} (hread : ∀ v, o = some v → ∀ a, read v = .ok a ↔ is v a)
    {a : Option α} : (∃ part, Reads read o part ∧ part.join = a) ↔ IsPart is o a := by
  constructor
  · rintro ⟨part, hpart, rfl⟩
    cases hpart with
    | absent => exact .absent
    | present h => exact .present ((hread _ rfl _).mp h)
  · intro h
    cases h with
    | absent => exact ⟨none, .absent, rfl⟩
    | present h => exact ⟨some a, .present ((hread _ rfl a).mpr h), rfl⟩

end Json

end JitTarget
