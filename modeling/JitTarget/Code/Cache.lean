/-
  JitTarget.Code.Cache
  ────────────────────────────────
  **SYNCHRONIZING THE INSTRUCTION CACHE.**

  Instructions that were just written must be made visible to instruction
  fetch.  A unified cache needs nothing; a split one is flushed over exactly
  the bytes in question.  Only code for this machine is synchronized.

      Span         — a range of bytes, up to and not including its stop
      Span.hull    — the least span that covers two
      synchronize  — the flush of a span, for code of this machine
-/
import JitTarget.Code.Fault

namespace JitTarget

/-! ## §1. Ranges of bytes. -/

/-- A range of bytes. -/
structure Span where
  start : Nat
  stop : Nat
  deriving Repr, DecidableEq, Inhabited

namespace Span

/-- The least span that covers both. -/
def hull (a b : Span) : Span := ⟨min a.start b.start, max a.stop b.stop⟩

/-- The least span that covers a span and the one before it, if there is one. -/
def extend (before : Option Span) (s : Span) : Span :=
  match before with
  | some b => b.hull s
  | none => s

/-- Whether a span has no bytes. -/
def isEmpty (s : Span) : Bool := s.stop ≤ s.start

/-- Whether a span lies within so many bytes. -/
def isWithin (s : Span) (length : Nat) : Bool := s.start ≤ s.stop && s.stop ≤ length

end Span

/-! ## §2. Synchronization. -/

/-- What came of a synchronization: the bytes the flush was given, if it was
called, and the result. -/
structure Synchronization where
  flushed : Option Span
  result : Except CodeFault Unit

/-- A way to make a span of code for a profile visible to instruction fetch. -/
abbrev Synchronizer := Profile → Span → Except CodeFault Unit

namespace Profile

/-- Refuses a profile without facts, and one for another machine. -/
def ensureNative (p : Profile) : Except CodeFault Unit :=
  match p.ensureSupported with
  | .error e => .error (.unsupported e)
  | .ok () =>
      if p.family = native.family then .ok ()
      else .error (.foreignTarget p.family native.family)

/-- **Synchronizes a span** with a given way to flush, for any profile. -/
def synchronizeWith (p : Profile) (span : Span) (flush : Span → Except CodeFault Unit) :
    Synchronization :=
  match p.cacheModel with
  | .error e => ⟨none, .error (.unsupported e)⟩
  | .ok .unified => ⟨none, .ok ()⟩
  | .ok .split => if span.isEmpty then ⟨none, .ok ()⟩ else ⟨some span, flush span⟩

/-- This machine's flush, which has nothing to do. -/
def hostFlush (_ : Span) : Except CodeFault Unit := .ok ()

/-- Synchronizes a span of code for this machine. -/
def synchronize : Synchronizer := fun p span => do
  p.ensureNative
  (p.synchronizeWith span hostFlush).result

end Profile

end JitTarget
