/-
  JitTarget.Profile.Basic
  ────────────────────────────────
  **RESOLVED TARGET PROFILES.**

  A profile is a family and, where the family is supported, the facts derived
  from it.  Resolution never fails: the sentinel's profile has no facts, and
  every question that needs one is refused with `Unsupported`, which names
  what was asked for.  Resolution looks every fact up in a table by family, so a
  question to a profile that was resolved comes to a look in one table.

      resolve  — the profile of a family under a toolchain
      detect   — the profile of the family the signals select
      native   — the profile of this machine, whatever override is in force
-/
import JitTarget.Signals
import JitTarget.Machine.Caches
import JitTarget.Machine.Calls

namespace JitTarget

/-! ## §1. Facts and profiles. -/

/-- The facts derived from a supported family. -/
structure Facts where
  /-- Bytes in a machine word. -/
  wordWidthBytes : UInt32
  /-- Base-two logarithm of `wordWidthBytes`. -/
  wordShift : UInt32
  /-- Base-two logarithm of the size of a double. -/
  floatShift : UInt32
  byteOrder : ByteOrder
  callingConvention : CallingConvention
  /-- Whether functions are reached through descriptors. -/
  indirectCallRequired : Bool
  /-- Whether one instruction may touch a misaligned integer. -/
  unalignedAccessAllowed : Bool
  cacheModel : CacheModel
  vectorFp : VectorFp
  deriving Repr, DecidableEq

/-- Words of eight bytes are 64-bit words; all others count as 32-bit words. -/
def Facts.wordWidth (f : Facts) : WordWidth :=
  if f.wordWidthBytes = 8 then .w64 else .w32

/-- What is known about an execution target. -/
structure Profile where
  family : Family
  facts? : Option Facts
  deriving Repr, DecidableEq

/-- A fact was asked of a target that has none. -/
structure Unsupported where
  /-- What was asked for. -/
  fact : String
  deriving Repr, DecidableEq

/-- The message names what could not be read. -/
def Unsupported.message (e : Unsupported) : String :=
  "target architecture is unsupported: cannot read " ++ e.fact

/-! ## §2. Resolution. -/

/-- The facts of a family under a toolchain; none for the sentinel. -/
def Family.facts? (f : Family) (toolchain : Toolchain) : Option Facts := do
  let width ← f.wordWidth?
  let byteOrder ← f.byteOrder?
  let convention ← f.callingConvention? toolchain
  let indirect ← f.indirectCalls?
  let unaligned ← f.unalignedAccess?
  let caches ← f.cacheModel?
  let vector ← f.vectorFp?
  return {
    wordWidthBytes := width.bytes
    wordShift := width.shift
    floatShift := JitTarget.floatShift
    byteOrder := byteOrder
    callingConvention := convention
    indirectCallRequired := indirect
    unalignedAccessAllowed := unaligned
    cacheModel := caches
    vectorFp := vector }

namespace Profile

/-- The profile of a family under a toolchain. -/
def resolve (f : Family) (toolchain : Toolchain) : Profile :=
  ⟨f, f.facts? toolchain⟩

/-- The profile of the family the signals select. -/
def detect (s : Signals) (toolchain : Toolchain) : Profile :=
  resolve s.detect toolchain

/-- The notices of detecting and resolving, in order. -/
def detectNotices (s : Signals) : List Notice :=
  s.examine.notices ++ [.resolved s.detect]

/-- The profile of this machine under a build-time override. -/
def host (override : Option String) : Profile :=
  detect (Signals.host override) Toolchain.standard

/-- The profile of the machine that runs, ignoring any override: only code for
its family may be executed. -/
def native : Profile :=
  detect Signals.hostIdentity Toolchain.standard

/-! ## §3. Reading a profile. -/

/-- Whether the profile has facts. -/
def isSupported (p : Profile) : Bool := p.facts?.isSome

/-- The facts, or a refusal that names what was asked for. -/
def require (p : Profile) (fact : String) : Except Unsupported Facts :=
  match p.facts? with
  | some f => .ok f
  | none => .error ⟨fact⟩

/-- All facts at once. -/
def facts (p : Profile) : Except Unsupported Facts :=
  p.require "target facts"

/-- Refuses a profile without facts. -/
def ensureSupported (p : Profile) : Except Unsupported Unit :=
  (p.require "target profile").map (fun _ => ())

/-- A profile that is not refused has facts. -/
theorem isSupported_of_ensureSupported {p : Profile} (h : p.ensureSupported = .ok ()) :
    p.isSupported = true := by
  obtain ⟨family, facts⟩ := p
  cases facts with
  | none => exact absurd h (by simp [ensureSupported, require, Except.map])
  | some f => rfl

/-- The width of a machine word. -/
def wordWidth (p : Profile) : Except Unsupported WordWidth :=
  (p.require "word width").map Facts.wordWidth

/-- The number of bytes in a machine word. -/
def wordWidthBytes (p : Profile) : Except Unsupported UInt32 :=
  (p.require "word width").map Facts.wordWidthBytes

/-- The binary logarithm of the bytes in a machine word. -/
def wordShift (p : Profile) : Except Unsupported UInt32 :=
  (p.require "word shift").map Facts.wordShift

/-- The binary logarithm of the bytes in a floating-point number. -/
def floatShift (p : Profile) : Except Unsupported UInt32 :=
  (p.require "float shift").map Facts.floatShift

/-- The order of bytes in memory. -/
def byteOrder (p : Profile) : Except Unsupported ByteOrder :=
  (p.require "endianness").map Facts.byteOrder

/-- How code calls functions of the host. -/
def callingConvention (p : Profile) : Except Unsupported CallingConvention :=
  (p.require "calling convention").map Facts.callingConvention

/-- Whether calls go through function descriptors. -/
def indirectCallRequired (p : Profile) : Except Unsupported Bool :=
  (p.require "indirect call requirement").map Facts.indirectCallRequired

/-- Whether an access need not be aligned. -/
def unalignedAccessAllowed (p : Profile) : Except Unsupported Bool :=
  (p.require "unaligned access permission").map Facts.unalignedAccessAllowed

/-- How the instruction cache sees what was written. -/
def cacheModel (p : Profile) : Except Unsupported CacheModel :=
  (p.require "instruction cache model").map Facts.cacheModel

/-- How the vector unit is found. -/
def vectorFp (p : Profile) : Except Unsupported VectorFp :=
  (p.require "vector FP mode").map Facts.vectorFp

/-- Whether an access of `size` bytes at an address aligned to `align` has to
be split into aligned pieces. -/
def needsSplitAccess (p : Profile) (size align : UInt32) : Except Unsupported Bool :=
  (p.require "unaligned access permission").map
    (fun f => !f.unalignedAccessAllowed && align < size)

/-- How host code calls code that starts at `entry`. -/
def callTarget (p : Profile) (entry toc : UInt64) : Except Unsupported CallTarget :=
  (p.require "indirect call requirement").map
    (fun f => CallTarget.forCode f.indirectCallRequired entry toc)

/-! ## §4. What a resolved profile answers. -/

section Resolved

variable (f : Family) (toolchain : Toolchain)

/-- **Supported families are the ones with facts.** -/
@[simp] theorem isSupported_resolve : (resolve f toolchain).isSupported = f.isSupported := by
  cases f <;> rfl

@[simp] theorem byteOrder_resolve :
    (resolve f toolchain).byteOrder.toOption = f.byteOrder? := by
  cases f <;> rfl

/-- The width that is read back from the bytes of a word is the one of the table. -/
@[simp] theorem wordWidth_resolve :
    (resolve f toolchain).wordWidth.toOption = f.wordWidth? := by
  cases f <;> rfl

@[simp] theorem callingConvention_resolve :
    (resolve f toolchain).callingConvention.toOption = f.callingConvention? toolchain := by
  cases f <;> rfl

end Resolved

end Profile

end JitTarget
