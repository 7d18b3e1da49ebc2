/-
  JitTarget.Code.Trace
  ────────────────────────────────
  **WHO MADE A REGION EXECUTABLE.**

  The trace of a run keeps every call with the session before and after it.
  Of a region under a name it tells which call switched it last, and for which
  profile that call was made:

      profile?    — the profile a call is gated by
      target?     — the region a call makes executable
      lastSwitch  — the last call after which the region was executable, and
                    was not before
-/
import JitTarget.Code.Session

namespace JitTarget

namespace Session

/-! ## §1. Gated calls. -/

/-- The profile a call is made for, if only this machine's will do. -/
def profile? (s : Session) : Action → Option Profile
  | .makeExecutable _ p => some p
  | .synchronize _ p _ => some p
  | .install env _ _ | .envMakeExecutable env _ | .envSynchronize env _ =>
      (s.tenants.get? env).map (fun t => t.environment.profile)
  | _ => none

namespace Action

/-- The region a call makes executable. -/
def target? : Action → Option String
  | .makeExecutable region _ | .install _ region _ | .envMakeExecutable _ region => some region
  | _ => none

/-- The name a call puts a region under. -/
def puts? : Action → Option String
  | .allocate region _ _ | .map region _ => some region
  | .envAllocate _ region _ | .install _ region _ => some region
  | _ => none

/-- The environment a call goes through. -/
def environment? : Action → Option String
  | .envAllocate env _ _ | .envRelease env _ | .install env _ _ => some env
  | .envMakeExecutable env _ | .envSynchronize env _ | .callTarget env _ _ => some env
  | _ => none

end Action

/-- Whether there is a region under a name, and it is executable. -/
def isExecutable (s : Session) (name : String) : Bool :=
  (s.regions.get? name).any (fun r => r.phase == .executable)

/-! ## §2. Traces. -/

/-- A call with the session before and after it. -/
structure Event where
  before : Session
  action : Action
  outcome : Outcome
  after : Session

/-- A call of a session as an event. -/
def event (os : Platform) (s : Session) (a : Action) : Event :=
  ⟨s, a, (s.step os a).1, (s.step os a).2⟩

/-- Every call of a run, the oldest first. -/
def trace (s : Session) : List (Platform × Action) → List Event
  | [] => []
  | (os, a) :: rest => s.event os a :: trace (s.step os a).2 rest

/-- Whether a call succeeds. -/
def Event.succeeds (e : Event) : Bool := e.outcome.isOk

/-- **Whether a call switched the region under a name to executable**: it is
executable now, and it was not, or it is another region. -/
def Event.switches (name : String) (e : Event) : Bool :=
  e.after.isExecutable name
    && (!e.before.isExecutable name || (e.succeeds && e.action.puts? == some name))

/-- **The call makes the region under a name executable**, for this machine, and
succeeds. -/
structure Event.Native (name : String) (e : Event) : Prop where
  target_eq : e.action.target? = some name
  profile_native : ∃ p, e.before.profile? e.action = some p ∧ p.family = Profile.native.family
  outcome_eq : e.outcome = .ok .done

/-- The last call that switched the region under a name to executable. -/
def lastSwitch (name : String) (es : List Event) : Option Event :=
  (es.filter (fun e => e.switches name)).getLast?

/-! ## §3. Refused installations. -/

/-- Whether the counters of an allocator come back when an installation fails:
counting its region passes no address, or, where it is not counted, the
allocator refuses it. -/
def Settles (s : Session) : Action → Prop
  | .install env _ code =>
      ∀ t, s.tenants.get? env = some t →
        let l := s.ledger t.ledger
        let size := code.size - t.environment.allocator.shrink
        if t.environment.allocator.counts = true
        then l.regions + 1 < 2 ^ 64 ∧ l.bytes + size < 2 ^ 64
        else l.regions = 0 ∨ l.bytes < size
  | _ => True

end Session

end JitTarget
