/-
  JitTarget.Code.Fault
  ────────────────────────────────
  **WHAT CAN GO WRONG WITH CODE MEMORY.**

  Causes, and their texts.  Offsets and sizes are counted in bytes and fit a
  machine address; a sum that does not is shown as the greatest address.
-/
import JitTarget.Number.Natural
import JitTarget.Profile.Basic

namespace JitTarget

/-! ## §1. Faults. -/

/-- Why the platform refuses memory. -/
inductive Refusal where
  /-- There is no memory for it. -/
  | noMemory
  /-- No object can be that large. -/
  | tooLong
  deriving Repr, DecidableEq

/-- The platform's wording. -/
def Refusal.message : Refusal → String
  | noMemory => "Cannot allocate memory (os error 12)"
  | tooLong => "memory map length overflows isize"

/-- The protection a code region has. -/
inductive Protection where
  | writable
  | executable
  deriving Repr, DecidableEq

/-- The wording for a protection. -/
def Protection.name : Protection → String
  | writable => "writable"
  | executable => "executable"

/-- What can go wrong with code memory. -/
inductive CodeFault where
  /-- A fact was asked of a profile without facts. -/
  | unsupported (cause : Unsupported)
  /-- A region of no bytes was asked for. -/
  | emptyRegion
  /-- The platform gives no memory. -/
  | notMapped (size : Nat) (cause : Refusal)
  /-- The platform refuses to change the protection. -/
  | notProtected (wanted : Protection) (cause : Refusal)
  /-- A range is not within the region. -/
  | outOfBounds (start stop length : Nat)
  /-- The region is executable, so nothing can be written. -/
  | notWritable
  /-- The region is writable, so nothing can be called. -/
  | notExecutable
  /-- The region has lost its memory. -/
  | lostMapping
  /-- The profile is for another machine than this one. -/
  | foreignTarget (family host : Family)
  /-- The allocator does not account for the region. -/
  | unknownRegion (length : Nat)
  /-- The caches cannot be synchronized. -/
  | cacheSync (detail : String)
  deriving Repr, DecidableEq

/-- The text of a fault. -/
def CodeFault.message : CodeFault → String
  | unsupported cause => cause.message
  | emptyRegion => "cannot allocate an empty code region"
  | notMapped size cause =>
      "failed to map " ++ toString size ++ " bytes of code memory: " ++ cause.message
  | notProtected wanted cause =>
      "failed to make code region " ++ wanted.name ++ ": " ++ cause.message
  | outOfBounds start stop length =>
      "range " ++ toString start ++ ".." ++ toString stop ++ " is outside a "
        ++ toString length ++ "-byte code region"
  | notWritable => "code region is executable; make it writable before writing"
  | notExecutable => "code region is writable; make it executable before calling into it"
  | lostMapping => "code region lost its mapping after a failed protection change"
  | foreignTarget family host =>
      "profile targets " ++ family.name ++ " but this host is " ++ host.name
        ++ "; generated code cannot run here"
  | unknownRegion length =>
      "released a " ++ toString length
        ++ "-byte code region this allocator does not account for"
  | cacheSync detail => "instruction cache synchronization unavailable: " ++ detail

/-! ## §2. The platform. -/

/-- What the platform does when it is asked for memory. -/
structure Platform where
  /-- Why a mapping of that many bytes is refused, if it is. -/
  mapRefusal : Nat → Option Refusal
  /-- Why a change of protection is refused, if it is. -/
  protectRefusal : Option Refusal

/-- The platform as it is: addresses have 47 bits, and no object is larger than
half of all addresses. -/
def Platform.standard : Platform where
  mapRefusal size :=
    if 2 ^ 63 ≤ size then some .tooLong
    else if 2 ^ 47 ≤ size then some .noMemory
    else none
  protectRefusal := none

/-- The same platform with every change of protection refused. -/
def Platform.guarded : Platform :=
  { Platform.standard with protectRefusal := some .noMemory }

end JitTarget
