/-
  JitTarget.Code.Session
  ────────────────────────────────
  **RUNS OF CALLS ON CODE MEMORY.**

  A session keeps allocators, regions and environments apart by name and lets
  them be used in any order.  A call that yields a region stores it under its
  name; a region that was there before is dropped, and nobody is told.  A
  release takes the region out whether or not the allocator accepts it.

      step  — one call, with its answer
      run   — a list of calls, with their answers
-/
import JitTarget.Code.Environment
import JitTarget.Store

namespace JitTarget

/-! ## §1. State. -/

/-- An environment together with the ledger it settles with. -/
structure Tenant where
  environment : Environment
  /-- Which ledger of the session. -/
  ledger : Nat

/-- Everything that is in use. -/
structure Session where
  /-- The counters of each allocator. -/
  ledgers : List Ledger
  regions : Store String Region
  tenants : Store String Tenant
  /-- The build-time override in force. -/
  override : Option String

namespace Session

/-- A session with so many allocators and nothing out. -/
def start (allocators : Nat) (override : Option String) : Session :=
  ⟨List.replicate allocators .empty, {}, {}, override⟩

/-- The counters of an allocator. -/
def ledger (s : Session) (i : Nat) : Ledger := s.ledgers.getD i .empty

/-- The session with the counters of an allocator changed. -/
def withLedger (s : Session) (i : Nat) (l : Ledger) : Session :=
  { s with ledgers := s.ledgers.set i l }

/-- The session with a region under a name. -/
def withRegion (s : Session) (name : String) (r : Region) : Session :=
  { s with regions := s.regions.put name r }

/-- The session without the region under a name. -/
def withoutRegion (s : Session) (name : String) : Session :=
  { s with regions := s.regions.erase name }

/-! ## §2. Calls and answers. -/

/-- One call. -/
inductive Action where
  /-- Takes a region from an allocator. -/
  | allocate (region : String) (ledger size : Nat)
  /-- Makes a region of memory no allocator accounts for. -/
  | map (region : String) (size : Nat)
  /-- Gives a region back to an allocator. -/
  | release (region : String) (ledger : Nat)
  /-- Forgets a region. -/
  | drop (region : String)
  | write (region : String) (offset : Nat) (bytes : Array UInt8)
  | read (region : String) (span : Span)
  | synchronize (region : String) (profile : Profile) (span : Span)
  | makeExecutable (region : String) (profile : Profile)
  | makeWritable (region : String)
  | entryAddress (region : String) (offset : Nat)
  /-- Makes an environment that settles with an allocator. -/
  | create (env : String) (profile : Profile) (allocator : Allocator) (ledger : Nat)
  /-- Makes an environment for the configured host, with its own allocator. -/
  | createHost (env : String)
  /-- Makes an environment for this machine, with its own allocator. -/
  | createNative (env : String)
  | envAllocate (env region : String) (size : Nat)
  | envRelease (env region : String)
  | install (env region : String) (code : Array UInt8)
  | envMakeExecutable (env region : String)
  | envSynchronize (env : String) (code : Array UInt8)
  | callTarget (env region : String) (toc : UInt64)

/-- What a call that succeeds answers. -/
inductive Answer where
  | done
  | bytes (bytes : List UInt8)
  | address (offset : Nat)
  | environment (e : Environment)
  | callTarget (target : CallTarget)

/-- Why a call fails. -/
inductive SessionFault where
  /-- There is no region under the name. -/
  | noRegion
  /-- There is no environment under the name. -/
  | noEnvironment
  /-- The call itself fails. -/
  | code (fault : CodeFault)
  deriving Repr, DecidableEq

/-- The outcome of one call. -/
abbrev Outcome := Except SessionFault Answer

/-- The outcome of a call with nothing to tell. -/
def silently : Except CodeFault Unit → Outcome
  | .ok () => .ok .done
  | .error fault => .error (.code fault)

/-- The outcome of a call that answers something. -/
def answering {α : Type} (answer : α → Answer) : Except CodeFault α → Outcome
  | .ok a => .ok (answer a)
  | .error fault => .error (.code fault)

/-! ## §3. Steps. -/

/-- A call on a region, which may change. -/
def onRegion (s : Session) (name : String) (call : Region → Outcome × Region) :
    Outcome × Session :=
  match s.regions.get? name with
  | none => (.error .noRegion, s)
  | some r =>
      let (outcome, r) := call r
      (outcome, s.withRegion name r)

/-- A call on a region that only looks at it. -/
def lookingAt (s : Session) (name : String) (call : Region → Outcome) : Outcome × Session :=
  match s.regions.get? name with
  | none => (.error .noRegion, s)
  | some r => (call r, s)

/-- A call within an environment. -/
def within (s : Session) (name : String) (call : Tenant → Outcome × Session) :
    Outcome × Session :=
  match s.tenants.get? name with
  | none => (.error .noEnvironment, s)
  | some t => call t

/-- Stores a region that was made, and settles its ledger. -/
def storing (s : Session) (name : String) (i : Nat) (made : Except CodeFault Region × Ledger) :
    Outcome × Session :=
  let s := s.withLedger i made.2
  match made.1 with
  | .ok r => (.ok .done, s.withRegion name r)
  | .error fault => (.error (.code fault), s)

/-- Takes a region out and releases it to an allocator. -/
def releasing (s : Session) (name : String) (i : Nat) : Outcome × Session :=
  match s.regions.get? name with
  | none => (.error .noRegion, s)
  | some r =>
      let (result, l) := (s.ledger i).release r.size
      (silently result, (s.withoutRegion name).withLedger i l)

/-- Makes an environment that settles with a ledger. -/
def creating (s : Session) (name : String) (p : Profile) (a : Allocator) (i : Nat) :
    Outcome × Session :=
  match Environment.create p a with
  | .ok e => (.ok (.environment e), { s with tenants := s.tenants.put name ⟨e, i⟩ })
  | .error fault => (.error (.code fault), s)

/-- Makes an environment with an allocator of its own. -/
def creatingAlone (s : Session) (name : String) (p : Profile) : Outcome × Session :=
  let opened := { s with ledgers := s.ledgers ++ [Ledger.empty] }
  opened.creating name p {} s.ledgers.length

/-- Writes bytes; the region stays as it is when they do not fit. -/
def writing (offset : Nat) (bytes : Array UInt8) (r : Region) : Outcome × Region :=
  match r.write offset bytes with
  | .ok r => (.ok .done, r)
  | .error fault => (.error (.code fault), r)

/-- Makes a region executable. -/
def activating (os : Platform) (p : Profile) (r : Region) : Outcome × Region :=
  let (result, r) := r.makeExecutable os p
  (silently result, r)

/-- Makes a region writable. -/
def reopening (os : Platform) (r : Region) : Outcome × Region :=
  let (result, r) := r.makeWritable os
  (silently result, r)

/-- **One call**, on a platform that may refuse. Of an environment and a region
that are both missing, the environment is reported. -/
def step (os : Platform) (s : Session) : Action → Outcome × Session
  | .allocate region i size => s.storing region i ((s.ledger i).allocate os size)
  | .map region size =>
      match Region.map os size with
      | .ok r => (.ok .done, s.withRegion region r)
      | .error fault => (.error (.code fault), s)
  | .release region i => s.releasing region i
  | .drop region =>
      match s.regions.get? region with
      | none => (.error .noRegion, s)
      | some _ => (.ok .done, s.withoutRegion region)
  | .write region offset bytes => s.onRegion region (writing offset bytes)
  | .read region span => s.lookingAt region (fun r => answering .bytes (r.read span))
  | .synchronize region p span =>
      s.lookingAt region (fun r => silently (r.synchronize p span))
  | .makeExecutable region p => s.onRegion region (activating os p)
  | .makeWritable region => s.onRegion region (reopening os)
  | .entryAddress region offset =>
      s.lookingAt region (fun r => answering .address (r.entryAddress offset))
  | .create env p a i => s.creating env p a i
  | .createHost env => s.creatingAlone env (Profile.host s.override)
  | .createNative env => s.creatingAlone env Profile.native
  | .envAllocate env region size =>
      s.within env fun t =>
        s.storing region t.ledger
          (t.environment.allocator.allocate os size (s.ledger t.ledger))
  | .envRelease env region => s.within env fun t => s.releasing region t.ledger
  | .install env region code =>
      s.within env fun t =>
        s.storing region t.ledger (t.environment.install os code (s.ledger t.ledger))
  | .envMakeExecutable env region =>
      s.within env fun t => s.onRegion region (activating os t.environment.profile)
  | .envSynchronize env code =>
      s.within env fun t => (silently (t.environment.synchronize code), s)
  | .callTarget env region toc =>
      s.within env fun t =>
        s.lookingAt region (fun r => answering .callTarget (t.environment.callTarget r toc))

/-- A list of calls, each with what the platform does meanwhile. -/
def run (s : Session) : List (Platform × Action) → List Outcome × Session
  | [] => ([], s)
  | (os, action) :: rest =>
      let (outcome, s) := s.step os action
      let (outcomes, s) := run s rest
      (outcome :: outcomes, s)

end Session

end JitTarget
