/-
  JitTarget.Code.Region
  ────────────────────────────────
  **CODE REGIONS.**

  A region is a block of memory that is either written or executed, never both
  at once.  While it is written it keeps the span of everything written since
  it last became writable; that span is synchronized before the region becomes
  executable.  A refused change of protection loses the memory for good.

      write           — puts bytes at an offset
      makeExecutable  — ends the writable phase
      makeWritable    — ends the executable phase
-/
import JitTarget.Code.Cache

namespace JitTarget

/-! ## §1. Regions. -/

/-- The bytes of a region, by offset. -/
abbrev Memory := Nat → UInt8

/-- Memory with bytes put at an offset. -/
def Memory.overwrite (m : Memory) (offset : Nat) (bytes : Array UInt8) : Memory :=
  fun i => if offset ≤ i then bytes.getD (i - offset) (m i) else m i

/-- Where a region stands. -/
inductive Phase where
  | writable
  | executable
  /-- The memory is gone. -/
  | lost
  deriving Repr, DecidableEq

/-- A block of code memory. -/
structure Region where
  phase : Phase
  /-- The bytes it was created with, even once the memory is gone. -/
  size : Nat
  memory : Memory
  /-- What was written since the region last became writable. -/
  dirty : Option Span

namespace Region

/-- A new region: writable, and zero everywhere. -/
def fresh (size : Nat) : Region := ⟨.writable, size, fun _ => 0, none⟩

/-- A new region, as the platform grants it. -/
def map (os : Platform) (size : Nat) : Except CodeFault Region :=
  match os.mapRefusal size with
  | some cause => .error (.notMapped size cause)
  | none => .ok (fresh size)

/-- The number of bytes that are there. -/
def length (r : Region) : Nat :=
  match r.phase with
  | .writable | .executable => r.size
  | .lost => 0

/-- The bytes in a span, as far as the region goes. -/
def read (r : Region) (span : Span) : Except CodeFault (List UInt8) :=
  match r.phase with
  | .lost => .error .lostMapping
  | .writable | .executable =>
      let stop := min span.stop r.size
      .ok ((List.range (stop - span.start)).map (fun i => r.memory (span.start + i)))

/-- All bytes. -/
def bytes (r : Region) : Except CodeFault (List UInt8) := r.read ⟨0, r.size⟩

/-! ## §2. Writing. -/

/-- **Puts bytes at an offset**; the region must be writable and have room. -/
def write (r : Region) (offset : Nat) (bytes : Array UInt8) : Except CodeFault Region :=
  match r.phase with
  | .executable => .error .notWritable
  | .lost => .error .lostMapping
  | .writable =>
      let stop := offset + bytes.size
      if stop ≤ r.size then
        .ok { r with
          memory := r.memory.overwrite offset bytes
          dirty := some (Span.extend r.dirty ⟨offset, stop⟩) }
      else .error (.outOfBounds offset (capped stop) r.size)

/-! ## §3. Changing the phase. -/

/-- Synchronizes what was written, if anything was. -/
def synchronizeDirty (sync : Synchronizer) (r : Region) (p : Profile) :
    Except CodeFault Unit :=
  match r.dirty with
  | some span => sync p span
  | none => .ok ()

/-- **Ends the writable phase**, with a given way to synchronize. The profile
must be this machine's; a region that is executable already stays as it is. -/
def makeExecutableWith (sync : Synchronizer) (os : Platform) (r : Region) (p : Profile) :
    Except CodeFault Unit × Region :=
  match p.ensureNative with
  | .error e => (.error e, r)
  | .ok () =>
      match r.phase with
      | .executable => (.ok (), r)
      | .lost => (.error .lostMapping, r)
      | .writable =>
          match r.synchronizeDirty sync p with
          | .error e => (.error e, r)
          | .ok () =>
              match os.protectRefusal with
              -- the memory goes with the change that failed
              | some cause =>
                  (.error (.notProtected .executable cause), { r with phase := .lost })
              | none => (.ok (), { r with phase := .executable, dirty := none })

/-- Ends the writable phase with this machine's synchronization. -/
def makeExecutable (os : Platform) (r : Region) (p : Profile) :
    Except CodeFault Unit × Region :=
  r.makeExecutableWith Profile.synchronize os p

/-- **Ends the executable phase**; a region that is writable already stays as it
is. -/
def makeWritable (os : Platform) (r : Region) : Except CodeFault Unit × Region :=
  match r.phase with
  | .writable => (.ok (), r)
  | .lost => (.error .lostMapping, r)
  | .executable =>
      match os.protectRefusal with
      | some cause => (.error (.notProtected .writable cause), { r with phase := .lost })
      | none => (.ok (), { r with phase := .writable })

/-! ## §4. Using a region. -/

/-- Synchronizes a span of the region, in a given way. -/
def synchronizeWith (sync : Synchronizer) (r : Region) (p : Profile) (span : Span) :
    Except CodeFault Unit :=
  match r.phase with
  | .lost => .error .lostMapping
  | .writable | .executable =>
      if span.isWithin r.size then sync p span
      else .error (.outOfBounds span.start span.stop r.size)

/-- Synchronizes a span of the region for this machine. -/
def synchronize (r : Region) (p : Profile) (span : Span) : Except CodeFault Unit :=
  r.synchronizeWith Profile.synchronize p span

/-- The address of the instruction at an offset, counted from the start of the
region, which must be executable. -/
def entryAddress (r : Region) (offset : Nat) : Except CodeFault Nat :=
  match r.phase with
  | .writable => .error .notExecutable
  | .lost => .error .lostMapping
  | .executable =>
      if offset < r.size then .ok offset
      else .error (.outOfBounds offset (capped (offset + 1)) r.size)

end Region

end JitTarget
