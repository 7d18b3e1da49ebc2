/-
  JitTarget.Code.History
  ────────────────────────────────
  **RUNS OF CALLS ON ONE REGION.**

  A region is used by one call after another, on a platform that may refuse
  each time anew.  Its history keeps every call with the region before and
  after, so that what the region should have noted can be said of the calls
  alone:

      after         — the region a list of calls leaves
      history       — every call of the list, with its result
      writtenSince  — the spans written since the region last became writable
      baseline      — the bytes as they were when it last became writable
      replay        — the bytes the accepted writes put there, the last one counting
-/
import JitTarget.Code.Region

namespace JitTarget

namespace Region

/-! ## §1. Calls. -/

/-- One call on a region. -/
inductive Call where
  | write (offset : Nat) (bytes : Array UInt8)
  | read (span : Span)
  | synchronize (profile : Profile) (span : Span)
  | makeExecutable (profile : Profile)
  | makeWritable
  | entryAddress (offset : Nat)

/-- **One call**: whether it succeeds, and the region it leaves. -/
def call (sync : Synchronizer) (os : Platform) (r : Region) :
    Call → Except CodeFault Unit × Region
  | .write offset bytes =>
      match r.write offset bytes with
      | .ok written => (.ok (), written)
      | .error fault => (.error fault, r)
  | .read span => ((r.read span).map (fun _ => ()), r)
  | .synchronize p span => (r.synchronizeWith sync p span, r)
  | .makeExecutable p => r.makeExecutableWith sync os p
  | .makeWritable => r.makeWritable os
  | .entryAddress offset => ((r.entryAddress offset).map (fun _ => ()), r)

/-- The region a list of calls leaves. -/
def after (sync : Synchronizer) (r : Region) : List (Platform × Call) → Region
  | [] => r
  | (os, c) :: rest => after sync (r.call sync os c).2 rest

/-! ## §2. Histories. -/

/-- A call with what came of it. -/
structure Event where
  before : Region
  call : Call
  result : Except CodeFault Unit
  after : Region

/-- A call on a region as an event. -/
def event (sync : Synchronizer) (os : Platform) (r : Region) (c : Call) : Event :=
  ⟨r, c, (r.call sync os c).1, (r.call sync os c).2⟩

/-- Every call of a list as an event, the oldest first. -/
def history (sync : Synchronizer) (r : Region) : List (Platform × Call) → List Event
  | [] => []
  | (os, c) :: rest => r.event sync os c :: history sync (r.call sync os c).2 rest

/-- The span a call wrote, if it was a write and succeeded; a write of no bytes
is the point at its offset. -/
def Event.written? (e : Event) : Option Span :=
  match e.call, e.result with
  | .write offset bytes, .ok () => some ⟨offset, offset + bytes.size⟩
  | _, _ => none

/-- Whether a call really switched the region from executable to writable. -/
def Event.reopens (e : Event) : Bool :=
  e.before.phase == .executable && e.after.phase == .writable

/-- **What was written** since the region was made or last reopened, the newest
span first. -/
def writtenSince (es : List Event) : List Span :=
  (es.reverse.takeWhile (fun e => !e.reopens)).filterMap Event.written?

/-- **The bytes to compare with**: those at the end of the last executable
phase, or zero if there was none. -/
def baseline (es : List Event) : Memory :=
  match es.reverse.find? Event.reopens with
  | some e => e.before.memory
  | none => fun _ => 0

/-! ## §3. Contents. -/

/-- The byte a call put at an offset of the region, if it was a write that
succeeded and covers the offset. -/
def Event.supplied? (i : Nat) (e : Event) : Option UInt8 :=
  match e.call, e.result with
  | .write offset bytes, .ok () => if offset ≤ i then bytes[i - offset]? else none
  | _, _ => none

/-- **The replay of the accepted writes**: at each offset the byte of the last
write that covers it, or zero if none does. -/
def replay (es : List Event) : Memory :=
  fun i => (es.reverse.findSome? (Event.supplied? i)).getD 0

end Region

end JitTarget
