/-
  JitTarget.Code.Custody
  ────────────────────────────────
  **WHAT AN ALLOCATOR HAS REALLY HANDED OUT.**

  An allocator keeps two counters and cannot tell regions apart.  Seen from
  outside, a session tells which regions an allocator handed out and has not
  taken back.  Of every step of a session this module says, for one allocator:

      dealings  — the calls the step makes on it
      custody   — the regions it has out after the step
      foreign   — the regions it is given that are not among them
-/
import JitTarget.Code.Session

namespace JitTarget

/-! ## §1. Custody. -/

/-- A region an allocator handed out and has not taken back. -/
structure Holding where
  size : Nat
  /-- The name it is under; none once it is gone without being taken back. -/
  name : Option String
  deriving Repr, DecidableEq

/-- The regions an allocator has out. -/
abbrev Custody := List Holding

namespace Custody

/-- Their total size. -/
def total (c : Custody) : Nat := (c.map Holding.size).sum

/-- Whether the region under a name is among them. -/
def holds (c : Custody) (name : String) : Bool := c.any (fun h => h.name == some name)

/-- The region under a name is gone, but was not taken back. -/
def forget (name : String) (c : Custody) : Custody :=
  c.map (fun h => if h.name = some name then { h with name := none } else h)

/-- The region under a name is taken back. -/
def takeBack (name : String) (c : Custody) : Custody :=
  c.eraseP (fun h => h.name == some name)

/-- A region is put under a name, and whatever was there is gone. The allocator
has it out if it counted it; it has it out for good if it could not be given
back again. -/
def receive (counted : Bool) (name : String) (made : Except CodeFault Region)
    (c : Custody) : Custody :=
  match made with
  | .ok r => if counted then ⟨r.size, some name⟩ :: c.forget name else c.forget name
  | .error (.unknownRegion size) => if counted then ⟨size, none⟩ :: c else c
  | .error _ => c

end Custody

/-! ## §2. One call of a session. -/

/-- The calls an installation makes on its ledger. -/
def Environment.dealings (e : Environment) (os : Platform) (code : Array UInt8) (l : Ledger) :
    List Ledger.Call :=
  (if e.allocator.counts then [.allocate os (code.size - e.allocator.shrink)] else [])
    ++ match (e.allocator.allocate os code.size l).1 with
      | .error _ => []
      | .ok r =>
          match e.fill os code r with
          | .ok _ => []
          | .error _ => [.release r]

namespace Session

/-- The same call without the environment it goes through. -/
def plain (s : Session) (a : Action) : Action :=
  match a with
  | .envAllocate env region size =>
      match s.tenants.get? env with
      | none => a
      | some t =>
          if t.environment.allocator.counts
          then .allocate region t.ledger (size - t.environment.allocator.shrink)
          else .map region (size - t.environment.allocator.shrink)
  | .envRelease env region =>
      match s.tenants.get? env with
      | none => a
      | some t => .release region t.ledger
  | .envMakeExecutable env region =>
      match s.tenants.get? env with
      | none => a
      | some t => .makeExecutable region t.environment.profile
  | _ => a

/-- The calls one step makes on an allocator. -/
def dealings (i : Nat) (os : Platform) (s : Session) (a : Action) : List Ledger.Call :=
  match s.plain a with
  | .allocate _ j size => if j = i then [.allocate os size] else []
  | .release region j => if j = i then (s.regions.get? region).toList.map .release else []
  | .install env _ code =>
      match s.tenants.get? env with
      | none => []
      | some t => if t.ledger = i then t.environment.dealings os code (s.ledger i) else []
  | _ => []

/-- The regions an allocator has out after one step. -/
def custody (i : Nat) (os : Platform) (s : Session) (a : Action) (c : Custody) : Custody :=
  match s.plain a with
  | .allocate region j size => c.receive (j == i) region ((s.ledger j).allocate os size).1
  | .map region size => c.receive false region (Region.map os size)
  | .release region j =>
      match s.regions.get? region with
      | none => c
      | some r =>
          match ((s.ledger j).release r.size).1 with
          | .ok () => if j = i then c.takeBack region else c.forget region
          | .error _ => c.forget region
  | .drop region => c.forget region
  | .install env region code =>
      match s.tenants.get? env with
      | none => c
      | some t =>
          c.receive (t.ledger == i && t.environment.allocator.counts) region
            (t.environment.install os code (s.ledger t.ledger)).1
  | _ => c

/-- The regions that calls on an allocator give back. -/
def givenBack (calls : List Ledger.Call) : List Region :=
  calls.filterMap fun
    | .release region => some region
    | .allocate _ _ => none

/-- The regions one step gives to an allocator that are not its own. -/
def foreign (i : Nat) (os : Platform) (s : Session) (a : Action) (c : Custody) :
    List Region :=
  let own :=
    match s.plain a with
    | .release region _ => c.holds region
    | .install env _ _ =>
        match s.tenants.get? env with
        | none => true
        | some t => t.environment.allocator.counts
    | _ => true
  if own then [] else givenBack (s.dealings i os a)

/-! ## §3. Runs. -/

/-- The calls a run makes on an allocator. -/
def traffic (i : Nat) (s : Session) : List (Platform × Action) → List Ledger.Call
  | [] => []
  | (os, a) :: rest => s.dealings i os a ++ traffic i (s.step os a).2 rest

/-- The regions an allocator has out after a run. -/
def custodyAfter (i : Nat) (s : Session) (c : Custody) : List (Platform × Action) → Custody
  | [] => c
  | (os, a) :: rest => custodyAfter i (s.step os a).2 (s.custody i os a c) rest

/-- **Only its own regions** are given to an allocator in a run. -/
def OwnOnly (i : Nat) (s : Session) (c : Custody) : List (Platform × Action) → Prop
  | [] => True
  | (os, a) :: rest =>
      s.foreign i os a c = [] ∧ OwnOnly i (s.step os a).2 (s.custody i os a c) rest

/-- **Every region that is not its own** is refused by an allocator in a run. -/
def ForeignRefused (i : Nat) (s : Session) (c : Custody) : List (Platform × Action) → Prop
  | [] => True
  | (os, a) :: rest =>
      (∀ r ∈ s.foreign i os a c, ((s.ledger i).release r.size).1 ≠ .ok ())
        ∧ ForeignRefused i (s.step os a).2 (s.custody i os a c) rest

end Session

end JitTarget
