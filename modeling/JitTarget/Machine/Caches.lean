/-
  JitTarget.Machine.Caches
  ────────────────────────────────
  **INSTRUCTION CACHES AND VECTOR UNITS.**

  Two facts a code generator asks about the hardware itself: how instruction
  fetch sees code that was just written, and whether doubles may go through a
  vector unit.
-/
import JitTarget.Family

namespace JitTarget

/-! ## §1. The instruction cache. -/

/-- How instruction fetch sees freshly written code. -/
inductive CacheModel where
  /-- The hardware keeps both caches coherent. -/
  | unified
  /-- Written code must be flushed before it is executed. -/
  | split
  deriving Repr, DecidableEq, Inhabited

namespace CacheModel

/-- The canonical name. -/
def name : CacheModel → String
  | unified => "unified"
  | split => "split"

instance : Named CacheModel where
  all := [unified, split]
  name := name
  mem_all := by intro a; cases a <;> decide
  name_injective := by intro a b; cases a <;> cases b <;> simp [name]

/-- The bare tag used in reports and diagnostic dumps. -/
def tag : CacheModel → String
  | unified => "Unified"
  | split => "Split"

end CacheModel

/-- The cache model of a family; none for the sentinel. -/
def Family.cacheModel? : Family → Option CacheModel
  | .x86_32 | .x86_64 => some .unified
  | .armV5 | .armV7 | .armThumb2 | .ppc32 | .ppc64 | .mips32 => some .split
  | .unsupported => none

/-! ## §2. The vector unit. -/

/-- Whether doubles may go through a vector unit. -/
inductive VectorFp where
  /-- There is none: doubles go through the scalar unit. -/
  | absent
  /-- Every machine of the family has one. -/
  | assumed
  /-- Some machines of the family have one; a probe at start-up tells. -/
  | probeAtStartup
  deriving Repr, DecidableEq, Inhabited

namespace VectorFp

/-- The canonical name. -/
def name : VectorFp → String
  | absent => "absent"
  | assumed => "assumed"
  | probeAtStartup => "probe-at-startup"

instance : Named VectorFp where
  all := [absent, assumed, probeAtStartup]
  name := name
  mem_all := by intro a; cases a <;> decide
  name_injective := by intro a b; cases a <;> cases b <;> simp [name]

/-- The bare tag used in reports and diagnostic dumps. -/
def tag : VectorFp → String
  | absent => "Absent"
  | assumed => "Assumed"
  | probeAtStartup => "ProbeAtStartup"

/-- Whether the unit is expected to be usable, pending a probe. -/
def available : VectorFp → Bool
  | absent => false
  | assumed | probeAtStartup => true

/-- Whether a probe has to decide. -/
def autodetect : VectorFp → Bool
  | probeAtStartup => true
  | absent | assumed => false

end VectorFp

/-- The vector unit of a family; none for the sentinel. -/
def Family.vectorFp? : Family → Option VectorFp
  | .x86_64 => some .assumed
  | .x86_32 => some .probeAtStartup
  | .armV5 | .armV7 | .armThumb2 | .ppc32 | .ppc64 | .mips32 => some .absent
  | .unsupported => none

end JitTarget
