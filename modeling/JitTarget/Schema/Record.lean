/-
  JitTarget.Schema.Record
  ────────────────────────────────
  **RECORDS READ OUT OF MAPS AND LISTS.**

  A map stands for a record when its keys are among the record's.  The entries
  are visited in the order in which they are listed, so the first entry that
  does not fit is the one reported; a key that is left out reads as nothing.
  A list stands for a record by position.
-/
import JitTarget.Schema.Place

namespace JitTarget.Schema

variable {V α β : Type}

/-! ## §1. Maps. -/

/-- Reads a record with a single key. -/
def oneField (key : String) (read : V → Except Flaw α) :
    List (String × V) → Except Flaw (Option α)
  | [] => .ok none
  | (k, v) :: rest =>
      if k = key then do
        let a ← within (.field k) (read v)
        let _ ← oneField key read rest
        return some a
      else refuseKey k (.unknownField k [key])

/-- Reads a record with two keys. -/
def twoFields (key₁ key₂ : String) (read₁ : V → Except Flaw α)
    (read₂ : V → Except Flaw β) :
    List (String × V) → Except Flaw (Option α × Option β)
  | [] => .ok (none, none)
  | (k, v) :: rest =>
      if k = key₁ then do
        let a ← within (.field k) (read₁ v)
        -- the keys of a map are distinct, so nothing is lost here
        let (_, b) ← twoFields key₁ key₂ read₁ read₂ rest
        return (some a, b)
      else if k = key₂ then do
        let b ← within (.field k) (read₂ v)
        let (a, _) ← twoFields key₁ key₂ read₁ read₂ rest
        return (a, some b)
      else refuseKey k (.unknownField k [key₁, key₂])

/-! ## §2. Lists. -/

/-- Reads the element at a position, if the list is that long. -/
def element (read : V → Except Flaw α) (position : Nat) (items : List V) :
    Except Flaw (Option α) :=
  match items[position]? with
  | some v => (within (.item position) (read v)).map some
  | none => .ok none

/-- Refuses a list longer than the record it stands for. -/
def atMost (size : Nat) (items : List V) : Except Flaw Unit :=
  if items.length ≤ size then .ok () else refuse (.extraElements items.length)

end JitTarget.Schema
