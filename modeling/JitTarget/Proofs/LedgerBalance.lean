/-
  JitTarget.Proofs.LedgerBalance
  ────────────────────────────────
  **THE COUNTERS BALANCE.**

  Two counters are all an allocator knows.  Over every run of allocations and
  releases, of regions in any state and from anywhere,

      regions + released = allocated        (how many)
      bytes   + released = allocated        (how many bytes)

  as long as everything that was allocated fits an address.  A call that fails
  leaves both counters alone, whether they wrapped before or not.
-/
import JitTarget.Code.Ledger

namespace JitTarget

/-- **An ordinary fault** is neither about the counters of an allocator nor about
facts a profile lacks. -/
structure CodeFault.Ordinary (fault : CodeFault) : Prop where
  ne_unknownRegion : ∀ n, fault ≠ .unknownRegion n
  ne_unsupported : ∀ cause, fault ≠ .unsupported cause

namespace Ledger

/-! ## §1. The calls, one law each. -/

/-- Numbers that fit an address are counted as they are. -/
theorem wrap_of_lt {n : Nat} (h : n < 2 ^ 64) : wrap n = n := Nat.mod_eq_of_lt h

/-- A counter always fits an address. -/
theorem wrap_lt (n : Nat) : wrap n < 2 ^ 64 := Nat.mod_lt n (by decide)

/-- **An allocation** fails and changes nothing, or it makes a new region and
counts it. -/
theorem allocate_cases (os : Platform) (size : Nat) (l : Ledger) :
    (∃ fault, l.allocate os size = (.error fault, l) ∧ fault.Ordinary)
      ∨ (0 < size ∧ l.allocate os size
          = (.ok (Region.fresh size), ⟨wrap (l.regions + 1), wrap (l.bytes + size)⟩)) := by
  unfold allocate Region.map
  by_cases hz : size = 0
  · rw [if_pos hz]
    exact Or.inl ⟨.emptyRegion, rfl, fun n => nofun, fun cause => nofun⟩
  · rw [if_neg hz]
    cases os.mapRefusal size with
    | some cause =>
        exact Or.inl ⟨.notMapped size cause, rfl, fun n => nofun, fun cause => nofun⟩
    | none => exact Or.inr ⟨Nat.pos_of_ne_zero hz, rfl⟩

/-- **A release** is refused and changes nothing exactly when no region is
counted or too few bytes are. -/
theorem release_eq (l : Ledger) (size : Nat) (h : l.regions < 2 ^ 64) :
    l.release size
      = if l.regions = 0 ∨ l.bytes < size then (.error (.unknownRegion size), l)
        else (.ok (), ⟨l.regions - 1, l.bytes - size⟩) := by
  unfold release discountRegion?
  by_cases hr : l.regions = 0
  · rw [if_pos hr, if_pos (Or.inl hr)]
  · rw [if_neg hr]
    by_cases hb : l.bytes < size
    · -- the region was discounted and is counted again
      have hback : wrap (l.regions - 1 + 1) = l.regions := by
        rw [Nat.sub_add_cancel (Nat.pos_of_ne_zero hr)]
        exact wrap_of_lt h
      simp only [discountBytes?, hb, if_true, countRegion, hback, or_true]
    · simp only [discountBytes?, hb, hr, if_false, or_self]

/-- Both counters fit an address. -/
structure Fits (l : Ledger) : Prop where
  regions_lt : l.regions < 2 ^ 64
  bytes_lt : l.bytes < 2 ^ 64

theorem fits_empty : Fits empty := ⟨by decide, by decide⟩

/-- Releasing keeps the counters within an address. -/
theorem Fits.release {l : Ledger} (h : Fits l) (size : Nat) : Fits (l.release size).2 := by
  rw [release_eq l size h.regions_lt]
  split
  · exact h
  · exact ⟨Nat.lt_of_le_of_lt (Nat.sub_le _ _) h.regions_lt,
      Nat.lt_of_le_of_lt (Nat.sub_le _ _) h.bytes_lt⟩

/-- Allocating keeps the counters within an address. -/
theorem Fits.allocate {l : Ledger} (h : Fits l) (os : Platform) (size : Nat) :
    Fits (l.allocate os size).2 := by
  rcases allocate_cases os size l with ⟨fault, heq, -⟩ | ⟨-, heq⟩ <;> rw [heq]
  · exact h
  · exact ⟨wrap_lt _, wrap_lt _⟩

/-- Every call keeps the counters within an address. -/
theorem Fits.serve {l : Ledger} (h : Fits l) (call : Call) : Fits (l.serve call).2 := by
  cases call with
  | allocate os size => exact h.allocate os size
  | release region => exact h.release region.size

/-- Every run keeps the counters within an address. -/
theorem Fits.serveAll {l : Ledger} (h : Fits l) (calls : List Call) :
    Fits (l.serveAll calls) := by
  induction calls generalizing l with
  | nil => exact h
  | cons call rest ih => exact ih (h.serve call)

/-- What is allocated has bytes. -/
theorem allocate_pos {l : Ledger} {os : Platform} {size : Nat} {u : Unit}
    (h : (l.serve (.allocate os size)).1 = .ok u) : 0 < size := by
  rcases allocate_cases os size l with ⟨fault, heq, -⟩ | ⟨hpos, -⟩
  · simp [serve, heq, Except.map] at h
  · exact hpos

/-- A release that is refused leaves both counters as they were. -/
theorem release_of_ne_ok {l : Ledger} (h : Fits l) {size : Nat}
    (hne : (l.release size).1 ≠ .ok ()) : (l.release size).2 = l := by
  rw [release_eq l size h.regions_lt] at hne ⊢
  split at hne
  next hc => rw [if_pos hc]
  next => exact absurd rfl hne

/-! ## §2. Runs in parts. -/

theorem serveAll_append (l : Ledger) (first rest : List Call) :
    l.serveAll (first ++ rest) = (l.serveAll first).serveAll rest := by
  induction first generalizing l with
  | nil => rfl
  | cons call first ih => exact ih (l.serve call).2

theorem history_append (l : Ledger) (first rest : List Call) :
    l.history (first ++ rest) = l.history first ++ (l.serveAll first).history rest := by
  induction first generalizing l with
  | nil => rfl
  | cons call first ih => exact congrArg ((call, (l.serve call).1) :: ·) (ih (l.serve call).2)

variable (es fs : List (Call × Except CodeFault Unit))

@[simp] theorem allocated_append : allocated (es ++ fs) = allocated es ++ allocated fs :=
  List.filterMap_append

@[simp] theorem released_append : released (es ++ fs) = released es ++ released fs :=
  List.filterMap_append

@[simp] theorem refused_append : refused (es ++ fs) = refused es ++ refused fs :=
  List.filterMap_append

variable {es fs}

/-- The part of a run allocates no more than the run. -/
theorem sum_allocated_le (l : Ledger) {part calls : List Call} (h : part <+: calls) :
    (allocated (l.history part)).sum ≤ (allocated (l.history calls)).sum := by
  obtain ⟨rest, rfl⟩ := h
  rw [history_append, allocated_append, List.sum_append]
  exact Nat.le_add_right _ _

/-! ## §3. The balance. -/

/-- The counters agree with a history. -/
structure Balances (l : Ledger) (es : List (Call × Except CodeFault Unit)) : Prop where
  regions_eq : l.regions + (released es).length = (allocated es).length
  bytes_eq : l.bytes + (released es).sum = (allocated es).sum
  /-- A region has at least one byte. -/
  counted : (allocated es).length ≤ (allocated es).sum

theorem balances_empty : Balances empty [] := ⟨rfl, rfl, Nat.le_refl 0⟩

/-- **A call counts within an address**: what fails leaves both counters alone, and
what succeeds adds to them or takes off them without starting over. -/
def CountsInRange (l : Ledger) (call : Call) : Prop :=
  match call, (l.serve call).1 with
  | _, .error _ => (l.serve call).2 = l
  | .allocate _ size, .ok () =>
      l.regions + 1 < 2 ^ 64 ∧ l.bytes + size < 2 ^ 64
        ∧ (l.serve call).2 = ⟨l.regions + 1, l.bytes + size⟩
  | .release region, .ok () =>
      0 < l.regions ∧ region.size ≤ l.bytes
        ∧ (l.serve call).2 = ⟨l.regions - 1, l.bytes - region.size⟩

/-- **Counters that balance stay in range**, if what is allocated fits an
address. -/
theorem Balances.countsInRange {l : Ledger} (h : Balances l es) (call : Call)
    (hfit : (allocated (es ++ [(call, (l.serve call).1)])).sum < 2 ^ 64) :
    CountsInRange l call := by
  obtain ⟨hr, hb, hc⟩ := h
  rw [allocated_append, List.sum_append] at hfit
  cases call with
  | allocate os size =>
      rcases allocate_cases os size l with ⟨fault, heq, -⟩ | ⟨hpos, heq⟩
      · simp only [CountsInRange, serve, heq, Except.map]
      · -- the counters never exceed what was allocated before
        have hsize : allocated [(.allocate os size, (l.serve (.allocate os size)).1)]
            = [size] := by
          simp only [serve, heq, Except.map]
          rfl
        rw [hsize, List.sum_singleton] at hfit
        have hone : l.regions + 1 < 2 ^ 64 := by omega
        have hadd : l.bytes + size < 2 ^ 64 := by omega
        simp only [CountsInRange, serve, heq, Except.map, wrap_of_lt hone, wrap_of_lt hadd]
        exact ⟨hone, hadd, trivial⟩
  | release region =>
      have hrelease := release_eq l region.size (by omega)
      split at hrelease
      next => simp only [CountsInRange, serve, hrelease]
      next hin =>
        simp only [CountsInRange, serve, hrelease]
        exact ⟨by omega, by omega, trivial⟩

/-- **Every call keeps the balance**, if what is allocated fits an address. -/
theorem Balances.append_call {l : Ledger} (h : Balances l es) (call : Call)
    (hfit : (allocated (es ++ [(call, (l.serve call).1)])).sum < 2 ^ 64) :
    Balances (l.serve call).2 (es ++ [(call, (l.serve call).1)]) := by
  have hcall := h.countsInRange call hfit
  obtain ⟨hr, hb, hc⟩ := h
  rw [allocated_append, List.sum_append] at hfit
  cases hres : (l.serve call).1 with
  | error fault =>
      -- nothing is counted, and the history is longer by a failure
      have hl : (l.serve call).2 = l := by
        cases call <;> simpa only [CountsInRange, hres] using hcall
      have hnone : allocated [(call, .error fault)] = []
          ∧ released [(call, .error fault)] = [] := by
        cases call <;> exact ⟨rfl, rfl⟩
      rw [hl]
      constructor <;> simpa only [allocated_append, released_append, hnone, List.append_nil]
  | ok u =>
      cases call with
      | allocate os size =>
          simp only [CountsInRange, hres] at hcall
          obtain ⟨-, -, hl⟩ := hcall
          have hpos := allocate_pos hres
          have hmore : allocated (es ++ [(.allocate os size, .ok u)]) = allocated es ++ [size] :=
            allocated_append es _
          have hsame : released (es ++ [(.allocate os size, .ok u)]) = released es :=
            (released_append es _).trans (List.append_nil _)
          rw [hl]
          constructor <;>
            simp only [hmore, hsame, List.length_append, List.sum_append, List.length_singleton,
              List.sum_singleton] <;> omega
      | release region =>
          simp only [CountsInRange, hres] at hcall
          obtain ⟨hregions, hbytes, hl⟩ := hcall
          have hmore : released (es ++ [(.release region, .ok u)])
              = released es ++ [region.size] := released_append es _
          have hsame : allocated (es ++ [(.release region, .ok u)]) = allocated es :=
            (allocated_append es _).trans (List.append_nil _)
          rw [hl]
          constructor <;>
            simp only [hmore, hsame, List.length_append, List.sum_append, List.length_singleton,
              List.sum_singleton] <;> omega

/-- **Every run keeps the balance**, whatever was served before it. -/
theorem Balances.append_history {l : Ledger} (h : Balances l es) (calls : List Call)
    (hfit : (allocated (es ++ l.history calls)).sum < 2 ^ 64) :
    Balances (l.serveAll calls) (es ++ l.history calls) := by
  induction calls generalizing l es with
  | nil =>
      show Balances l (es ++ [])
      rw [List.append_nil]
      exact h
  | cons call rest ih =>
      -- the call joins the history it is balanced against
      have hsplit : es ++ l.history (call :: rest)
          = (es ++ [(call, (l.serve call).1)]) ++ (l.serve call).2.history rest := by
        rw [List.append_assoc]
        rfl
      rw [hsplit] at hfit ⊢
      refine ih (h.append_call call ?_) hfit
      rw [allocated_append, List.sum_append] at hfit
      omega

/-- The counters of an allocator that was new balance after every run. -/
theorem balances_serveAll (calls : List Call)
    (hfit : (allocated (empty.history calls)).sum < 2 ^ 64) :
    Balances (empty.serveAll calls) (empty.history calls) := by
  have hrun := balances_empty.append_history calls
  exact hrun hfit

end Ledger

end JitTarget
