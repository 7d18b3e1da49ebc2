/-
  JitTarget.Code.Environment
  ────────────────────────────────
  **WHAT A CODE GENERATOR IS HANDED.**

  An environment is a supported profile with a source of code memory.  Because
  the profile is supported, no later question to it can fail for want of facts.

      install  — a region with given code, executable, or nothing at all
-/
import JitTarget.Code.Ledger
import JitTarget.Profile.Text

namespace JitTarget

/-! ## §1. Sources of memory. -/

/-- How an environment gets its regions. It may hand out less than it is asked
for, and it may hand out regions its ledger does not count; what comes back is
always settled with the ledger. -/
structure Allocator where
  /-- How many bytes fewer it hands out. -/
  shrink : Nat := 0
  /-- Whether its ledger counts what it hands out. -/
  counts : Bool := true
  deriving Repr, DecidableEq, Inhabited

/-- Hands out a region. -/
def Allocator.allocate (a : Allocator) (os : Platform) (size : Nat) (l : Ledger) :
    Except CodeFault Region × Ledger :=
  if a.counts then l.allocate os (size - a.shrink)
  else (Region.map os (size - a.shrink), l)

/-! ## §2. Environments. -/

/-- A supported profile with a source of code memory. -/
structure Environment where
  profile : Profile
  allocator : Allocator
  supported : profile.isSupported = true

namespace Environment

/-- An environment for a profile, if it has facts. -/
def create (p : Profile) (a : Allocator) : Except CodeFault Environment :=
  match h : p.ensureSupported with
  | .error e => .error (.unsupported e)
  | .ok () => .ok ⟨p, a, Profile.isSupported_of_ensureSupported h⟩

/-- Whether code for this profile runs on this machine, whatever override is in
force. -/
def isNative (e : Environment) : Bool := e.profile.family == Profile.native.family

/-- The environment as a diagnostic dump. -/
def dump (e : Environment) : String :=
  "ExecutionEnv \x7b profile: " ++ e.profile.dump ++ ", .. \x7d"

/-- Makes code visible to instruction fetch. -/
def synchronize (e : Environment) (code : Array UInt8) : Except CodeFault Unit :=
  e.profile.synchronize ⟨0, code.size⟩

/-- Writes code to the start of a region and makes it executable. -/
def fill (e : Environment) (os : Platform) (code : Array UInt8) (r : Region) :
    Except CodeFault Region :=
  match r.write 0 code with
  | .error fault => .error fault
  | .ok r =>
      match r.makeExecutable os e.profile with
      | (.ok (), r) => .ok r
      | (.error fault, _) => .error fault

/-- **Installs code**: a region of its own, filled and executable. When that
fails the region is released again. -/
def install (e : Environment) (os : Platform) (code : Array UInt8) (l : Ledger) :
    Except CodeFault Region × Ledger :=
  match e.allocator.allocate os code.size l with
  | (.error fault, l) => (.error fault, l)
  | (.ok r, l) =>
      match e.fill os code r with
      | .ok r => (.ok r, l)
      | .error fault =>
          match l.release r.size with
          | (.ok (), l) => (.error fault, l)
          -- a release that fails hides why the installation did
          | (.error unsettled, l) => (.error unsettled, l)

/-- How host code calls the code at the start of a region; addresses count from
there. -/
def callTarget (e : Environment) (r : Region) (toc : UInt64) :
    Except CodeFault CallTarget := do
  let entry ← r.entryAddress 0
  (e.profile.callTarget (UInt64.ofNat entry) toc).mapError .unsupported

end Environment

end JitTarget
