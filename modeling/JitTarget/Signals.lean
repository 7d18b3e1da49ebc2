/-
  JitTarget.Signals
  ────────────────────────────────
  **DETECTION: FROM TARGET SIGNALS TO ONE FAMILY.**

  A toolchain reports an architecture name and, at times, an instruction-set
  level, a byte order and a pointer width.  `examine` turns these signals into
  exactly one family and the notices of how it got there:

      explicit choice  — always wins
      candidate        — the family the architecture name stands for
      byte order       — a contradicting order leaves `unsupported`
      pointer width    — a contradicting width leaves `unsupported`

  Detection never fails: what matches nothing is `unsupported`.
-/
import JitTarget.Machine.WordWidth
import JitTarget.Machine.ByteOrder

namespace JitTarget

/-! ## §1. Signals. -/

/-- The ARM instruction-set level, where the toolchain reports one. -/
inductive ArmIsa where
  /-- ARMv7-A, the application profile. -/
  | v7a
  /-- ARMv7-R, the real-time profile. -/
  | v7r
  /-- Any other ARMv7 profile, which runs Thumb-2 only. -/
  | v7
  deriving Repr, DecidableEq, Inhabited

namespace ArmIsa

/-- The canonical name. -/
def name : ArmIsa → String
  | v7a => "v7a"
  | v7r => "v7r"
  | v7 => "v7"

instance : Named ArmIsa where
  all := [v7a, v7r, v7]
  name := name
  mem_all := by intro a; cases a <;> decide
  name_injective := by intro a b; cases a <;> cases b <;> simp [name]

end ArmIsa

/-- What is known about a target before a family is chosen. -/
structure Signals where
  /-- The family somebody asked for. -/
  explicit : Option Family := none
  /-- The architecture name the toolchain reports. -/
  arch : String := ""
  /-- The ARM instruction-set level. -/
  armIsa : Option ArmIsa := none
  /-- The reported byte order. -/
  byteOrder : Option ByteOrder := none
  /-- The reported width of a pointer, in bits. -/
  pointerWidth : Option UInt32 := none
  deriving Repr, DecidableEq, Inhabited

/-- A step of detection or resolution worth logging. -/
inductive Notice where
  /-- A family was asked for. -/
  | forced (family : Family)
  /-- The candidate's byte order is not the reported one. -/
  | byteOrderMismatch (candidate : Family) (fixed reported : ByteOrder)
  /-- The candidate's word width is not the reported pointer width. -/
  | pointerWidthMismatch (candidate : Family) (width : WordWidth) (reported : UInt32)
  /-- Detection ended. -/
  | detected (family : Family) (arch : String)
  /-- A profile was resolved. -/
  | resolved (family : Family)
  /-- A configuration file was loaded. -/
  | loaded (path : String)
  deriving Repr, DecidableEq

/-- The text of a notice. -/
def Notice.message : Notice → String
  | forced f => "architecture family forced to " ++ f.name
  | byteOrderMismatch c fixed reported =>
      c.name ++ " requires " ++ fixed.display ++ " byte order but the target is "
        ++ reported.display
  | pointerWidthMismatch c w reported =>
      c.name ++ " has " ++ toString w.bits ++ "-bit words but the target has "
        ++ toString reported ++ "-bit pointers"
  | detected f arch =>
      "detected architecture family " ++ f.name ++ " from arch '" ++ arch ++ "'"
  | resolved f => "resolved target profile for " ++ f.name
  | loaded path => "loaded " ++ path

namespace Signals

/-- Signals that ask for a family and say nothing else. -/
def forcing (family : Family) : Signals :=
  { explicit := some family }

/-! ## §2. Detection. -/

/-- Whether an architecture name stands for ARM, of whatever level. -/
def namesArm (arch : String) : Bool :=
  arch == "arm" || "armv".toList.isPrefixOf arch.toList
    || "thumbv".toList.isPrefixOf arch.toList

/-- The family an architecture name stands for, before any other signal is
looked at. -/
def candidate (arch : String) (armIsa : Option ArmIsa) : Family :=
  if arch == "x86" || arch == "i386" || arch == "i586" || arch == "i686" then .x86_32
  else if arch == "x86_64" then .x86_64
  else if namesArm arch then
    match armIsa with
    | some .v7a | some .v7r => .armV7
    | some .v7 => .armThumb2
    | none => .armV5
  else if arch == "powerpc64" || arch == "ppc64" then .ppc64
  else if arch == "powerpc" || arch == "ppc" then .ppc32
  else if arch == "mips" then .mips32
  else .unsupported

/-- A family and the notices of how it was chosen. -/
structure Detection where
  family : Family
  notices : List Notice
  deriving Repr, DecidableEq

/-- Rejects a candidate whose byte order is not the reported one. -/
def checkByteOrder (reported : Option ByteOrder) (f : Family) : Detection :=
  match reported, f.byteOrder? with
  | some r, some fixed =>
      if r = fixed then ⟨f, []⟩ else ⟨.unsupported, [.byteOrderMismatch f fixed r]⟩
  | _, _ => ⟨f, []⟩

/-- Rejects a candidate whose word width is not the reported pointer width. -/
def checkPointerWidth (reported : Option UInt32) (f : Family) : Detection :=
  match reported, f.wordWidth? with
  | some r, some w =>
      if r = w.bits then ⟨f, []⟩ else ⟨.unsupported, [.pointerWidthMismatch f w r]⟩
  | _, _ => ⟨f, []⟩

/-- **Detection**: one family for every combination of signals, with the
notices in the order they arise. -/
def examine (s : Signals) : Detection :=
  match s.explicit with
  | some f => ⟨f, [.forced f]⟩
  | none =>
      let ordered := checkByteOrder s.byteOrder (candidate s.arch s.armIsa)
      -- a family the byte order left out has no width to contradict
      let sized := checkPointerWidth s.pointerWidth ordered.family
      ⟨sized.family, ordered.notices ++ sized.notices ++ [.detected sized.family s.arch]⟩

/-- The family the signals select. -/
def detect (s : Signals) : Family := s.examine.family

/-! ## §3. This machine. -/

/-- The machine everything runs on: 64-bit x86. -/
def hostIdentity : Signals :=
  { arch := "x86_64", byteOrder := some .little, pointerWidth := some 64 }

/-- The family a build-time override asks for. A text that names no family asks
for the sentinel; it is not ignored. -/
def overrideFamily (override : Option String) : Option Family :=
  override.map (fun text => (Family.ofText? text).getD .unsupported)

/-- The signals of this machine under a build-time override. -/
def host (override : Option String) : Signals :=
  { hostIdentity with explicit := overrideFamily override }

end Signals

/-- The build-time variable whose value overrides detection. -/
def overrideVariable : String := "JITCFG_TARGET"

end JitTarget
