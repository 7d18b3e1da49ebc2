/-
  JitTarget.Code.Ledger
  ────────────────────────────────
  **WHAT AN ALLOCATOR ACCOUNTS FOR.**

  An allocator knows its regions by two counters alone: how many are out, and
  how many bytes they have.  Every call changes the counters in indivisible
  steps, so that callers may run side by side:

      allocation  — count the region, then its bytes
      release     — discount the region, then its bytes; if the bytes cannot
                    be discounted, count the region again and refuse

  A run of calls is served one call after another; its history tells which of
  them succeeded.
-/
import JitTarget.Code.Region

namespace JitTarget

/-! ## §1. Counters and their steps. -/

/-- The counters of an allocator. -/
structure Ledger where
  regions : Nat := 0
  bytes : Nat := 0
  deriving Repr, DecidableEq, Inhabited

namespace Ledger

/-- The counters of an allocator nobody has used. -/
def empty : Ledger := {}

/-- A counter starts over when an address cannot hold it. -/
def wrap (n : Nat) : Nat := n % 2 ^ 64

/-- Counts one more region. -/
def countRegion (l : Ledger) : Ledger := { l with regions := wrap (l.regions + 1) }

/-- Counts the bytes of a region. -/
def countBytes (size : Nat) (l : Ledger) : Ledger := { l with bytes := wrap (l.bytes + size) }

/-- Discounts a region, if one is out. -/
def discountRegion? (l : Ledger) : Option Ledger :=
  if l.regions = 0 then none else some { l with regions := l.regions - 1 }

/-- Discounts the bytes of a region, if as many are out. -/
def discountBytes? (size : Nat) (l : Ledger) : Option Ledger :=
  if l.bytes < size then none else some { l with bytes := l.bytes - size }

/-! ## §2. Calls. -/

/-- **Allocates a region** of at least one byte. -/
def allocate (os : Platform) (size : Nat) (l : Ledger) : Except CodeFault Region × Ledger :=
  if size = 0 then (.error .emptyRegion, l)
  else
    match Region.map os size with
    | .error e => (.error e, l)
    | .ok r => (.ok r, (l.countRegion).countBytes size)

/-- **Releases a region**, known by its size alone. -/
def release (size : Nat) (l : Ledger) : Except CodeFault Unit × Ledger :=
  match l.discountRegion? with
  | none => (.error (.unknownRegion size), l)
  | some discounted =>
      match discounted.discountBytes? size with
      | some settled => (.ok (), settled)
      -- the region was discounted too early
      | none => (.error (.unknownRegion size), discounted.countRegion)

/-! ## §3. Runs of calls. -/

/-- One call on an allocator. -/
inductive Call where
  | allocate (os : Platform) (size : Nat)
  /-- Any region may be given back, whoever made it and whatever became of it. -/
  | release (region : Region)

/-- One call: whether it succeeds, and the counters it leaves. -/
def serve (l : Ledger) : Call → Except CodeFault Unit × Ledger
  | .allocate os size => (((l.allocate os size).1).map (fun _ => ()), (l.allocate os size).2)
  | .release region => l.release region.size

/-- The counters a list of calls leaves. -/
def serveAll (l : Ledger) : List Call → Ledger
  | [] => l
  | call :: rest => serveAll (l.serve call).2 rest

/-- Every call of a list with its result. -/
def history (l : Ledger) : List Call → List (Call × Except CodeFault Unit)
  | [] => []
  | call :: rest => (call, (l.serve call).1) :: history (l.serve call).2 rest

/-- The sizes of the allocations that succeeded. -/
def allocated (es : List (Call × Except CodeFault Unit)) : List Nat :=
  es.filterMap fun
    | (.allocate _ size, .ok ()) => some size
    | _ => none

/-- The sizes of the regions that were taken back. -/
def released (es : List (Call × Except CodeFault Unit)) : List Nat :=
  es.filterMap fun
    | (.release region, .ok ()) => some region.size
    | _ => none

/-- The sizes of the regions that were refused. -/
def refused (es : List (Call × Except CodeFault Unit)) : List Nat :=
  es.filterMap fun
    | (.release region, .error _) => some region.size
    | _ => none

/-- The counters as a diagnostic dump. -/
def dump (l : Ledger) : String :=
  "AllocatorStats \x7b live_regions: " ++ toString l.regions ++ ", live_bytes: "
    ++ toString l.bytes ++ " \x7d"

end Ledger

end JitTarget
