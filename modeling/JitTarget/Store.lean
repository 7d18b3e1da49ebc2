/-
  JitTarget.Store
  ────────────────────────────────
  **VALUES UNDER KEYS.**

  A finite table of values.  Putting a value under a key takes out the one that
  was there:

      get? k (put k v s) = some v        get? k (erase k s) = none

  and no other key notices either.
-/

namespace JitTarget

/-- A finite table of values under keys. -/
structure Store (κ α : Type) where
  entries : List (κ × α) := []
  deriving Repr, DecidableEq, Inhabited

namespace Store

variable {κ α : Type} [BEq κ]

/-- The value under a key. -/
def get? (k : κ) (s : Store κ α) : Option α := s.entries.lookup k

/-- Takes a key out. -/
def erase (k : κ) (s : Store κ α) : Store κ α :=
  ⟨s.entries.filter (fun e => !(e.1 == k))⟩

/-- Puts a value under a key. -/
def put (k : κ) (v : α) (s : Store κ α) : Store κ α :=
  ⟨(k, v) :: (s.erase k).entries⟩

variable [LawfulBEq κ]

/-- Looking up in a filtered list of pairs, for a key the filter lets through. -/
private theorem lookup_filter_ne {k k' : κ} (h : k' ≠ k) (entries : List (κ × α)) :
    (entries.filter (fun e => !(e.1 == k))).lookup k' = entries.lookup k' := by
  induction entries with
  | nil => rfl
  | cons e rest ih =>
      obtain ⟨a, v⟩ := e
      by_cases hk : a = k
      · subst hk
        have hb : (k' == a) = false := by simpa using h
        simp [List.lookup_cons, hb, ih]
      · simp [hk, List.lookup_cons, ih]

/-- A key that was taken out is gone. -/
theorem get?_erase_self (k : κ) (s : Store κ α) : (s.erase k).get? k = none := by
  simp only [get?, erase, List.lookup_eq_none_iff, List.mem_filter, Bool.not_eq_eq_eq_not,
    Bool.not_true, bne_iff_ne]
  intro e he hk
  simp [hk] at he

/-- Taking a key out leaves the other keys alone. -/
theorem get?_erase_of_ne {k k' : κ} (h : k' ≠ k) (s : Store κ α) :
    (s.erase k).get? k' = s.get? k' :=
  lookup_filter_ne h s.entries

/-- A value that was put under a key is found there. -/
theorem get?_put_self (k : κ) (v : α) (s : Store κ α) : (s.put k v).get? k = some v := by
  simp [get?, put]

/-- Putting a value under a key leaves the other keys alone. -/
theorem get?_put_of_ne {k k' : κ} (h : k' ≠ k) (v : α) (s : Store κ α) :
    (s.put k v).get? k' = s.get? k' := by
  have hb : (k' == k) = false := by simpa using h
  have := get?_erase_of_ne h s
  simpa [get?, put, List.lookup_cons, hb] using this

/-- Looking up after a value was put. -/
theorem get?_put (k k' : κ) (v : α) (s : Store κ α) :
    (s.put k v).get? k' = if k' == k then some v else s.get? k' := by
  by_cases h : k' = k
  · subst h
    rw [get?_put_self, beq_self_eq_true, if_pos rfl]
  · rw [get?_put_of_ne h, beq_false_of_ne h]
    rfl

/-- Looking up after a key was taken out. -/
theorem get?_erase (k k' : κ) (s : Store κ α) :
    (s.erase k).get? k' = if k' == k then none else s.get? k' := by
  by_cases h : k' = k
  · subst h
    rw [get?_erase_self, beq_self_eq_true, if_pos rfl]
  · rw [get?_erase_of_ne h, beq_false_of_ne h]
    rfl

end Store

end JitTarget
