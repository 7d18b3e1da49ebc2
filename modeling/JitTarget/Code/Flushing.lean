/-
  JitTarget.Code.Flushing
  ────────────────────────────────
  **CALLS OF A FLUSH, AND WHAT KEEPS THEM FROM BEING MADE.**

  A flush acts on the machine, so it matters how often it is called and with what.
  Synchronizing is written here for a flush that may do anything besides answering;
  one that notes its calls shows which were made.  A region looks at itself before it
  lets its bytes be synchronized, and the first obstacle is the one it reports:

      synchronizeBy — synchronizing by a flush that acts
      noting        — a flush that notes what it is called with
      NeedsFlush    — the spans a flush has to be called for
      obstacles     — why a region refuses, in the order in which it counts
-/
import JitTarget.Code.History

namespace JitTarget

/-! ## §1. Calls of a flush. -/

/-- A flush that notes every span it is called with, the latest last. -/
def noting (flush : Span → Except CodeFault Unit) (span : Span) :
    StateM (List Span) (Except CodeFault Unit) := do
  modify (fun calls => calls ++ [span])
  return flush span

namespace Profile

/-- **Synchronizes a span by a flush that acts** on the machine, in any way. -/
def synchronizeBy {m : Type → Type} [Monad m] (p : Profile) (span : Span)
    (flush : Span → m (Except CodeFault Unit)) : m (Except CodeFault Unit) :=
  match p.cacheModel with
  | .error e => return .error (.unsupported e)
  | .ok .unified => return .ok ()
  | .ok .split => if span.isEmpty then return .ok () else flush span

/-- **A flush is needed** where the facts tell of a split cache and there are bytes. -/
def NeedsFlush (p : Profile) (span : Span) : Prop :=
  (∃ facts, p.facts? = some facts ∧ facts.cacheModel = .split) ∧ span.start < span.stop

end Profile

/-! ## §2. Obstacles. -/

/-- The first fault whose condition is met; without one, success. -/
def firstFault (obstacles : List (Bool × CodeFault)) : Except CodeFault Unit :=
  match obstacles.find? Prod.fst with
  | some (_, fault) => .error fault
  | none => .ok ()

namespace Region

/-- **What keeps a span of a region from being synchronized**, in the order in which it
counts: whether it does, and how it is reported. -/
def obstacles (r : Region) (p : Profile) (span : Span) : List (Bool × CodeFault) :=
  [(r.phase = .lost, .lostMapping),
    (¬ (span.start ≤ span.stop ∧ span.stop ≤ r.length),
      .outOfBounds span.start span.stop r.length),
    (!p.isSupported, .unsupported ⟨"target profile"⟩),
    (p.family ≠ Profile.native.family, .foreignTarget p.family Profile.native.family)]

/-- Whether a call synchronizes. -/
def Call.synchronizes : Call → Bool
  | .synchronize .. => true
  | _ => false

end Region

end JitTarget
