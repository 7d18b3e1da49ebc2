/-
  JitTarget.Family
  ────────────────────────────────
  **ARCHITECTURE FAMILIES.**

  The closed list of processor families generated code can be aimed at, and
  the sentinel `unsupported` for every other machine.  Each family has one
  canonical name; names written by people may be padded with blank characters
  and use either case:

      ofText?  — reads a name: trims, folds A to Z, then looks it up
-/
import JitTarget.Named
import JitTarget.Text.Blank

namespace JitTarget

/-! ## §1. The families. -/

/-- A processor family. -/
inductive Family where
  /-- 32-bit x86. -/
  | x86_32
  /-- 64-bit x86. -/
  | x86_64
  /-- ARM with the ARMv5 instruction set. -/
  | armV5
  /-- ARM with the ARMv7-A or ARMv7-R instruction set. -/
  | armV7
  /-- ARM with the Thumb-2 instruction set only. -/
  | armThumb2
  /-- 32-bit PowerPC. -/
  | ppc32
  /-- 64-bit PowerPC. -/
  | ppc64
  /-- 32-bit MIPS. -/
  | mips32
  /-- No family of the list: nothing can be derived for it. -/
  | unsupported
  deriving Repr, DecidableEq, Inhabited

namespace Family

/-- The canonical name. -/
def name : Family → String
  | x86_32 => "x86-32"
  | x86_64 => "x86-64"
  | armV5 => "arm-v5"
  | armV7 => "arm-v7"
  | armThumb2 => "arm-thumb2"
  | ppc32 => "ppc-32"
  | ppc64 => "ppc-64"
  | mips32 => "mips-32"
  | unsupported => "unsupported"

/-- The families that resolve to a usable profile. -/
def supported : List Family :=
  [x86_32, x86_64, armV5, armV7, armThumb2, ppc32, ppc64, mips32]

instance : Named Family where
  all := supported ++ [unsupported]
  name := name
  mem_all := by intro a; cases a <;> decide
  name_injective := by intro a b; cases a <;> cases b <;> simp [name]

instance : ToString Family := ⟨name⟩

/-- The canonical names, the sentinel's last. -/
def names : List String := Named.names Family

/-- The bare tag used in diagnostic dumps. -/
def tag : Family → String
  | x86_32 => "X86_32"
  | x86_64 => "X86_64"
  | armV5 => "ArmV5"
  | armV7 => "ArmV7"
  | armThumb2 => "ArmThumb2"
  | ppc32 => "Ppc32"
  | ppc64 => "Ppc64"
  | mips32 => "Mips32"
  | unsupported => "Unsupported"

/-- A short description for people. -/
def description : Family → String
  | x86_32 => "32-bit x86 (IA-32)"
  | x86_64 => "64-bit x86 (AMD64)"
  | armV5 => "ARM, ARMv5 instruction set (conservative default)"
  | armV7 => "ARM, ARMv7-A/R instruction set"
  | armThumb2 => "ARM, Thumb-2 instruction set"
  | ppc32 => "32-bit PowerPC"
  | ppc64 => "64-bit PowerPC"
  | mips32 => "32-bit MIPS"
  | unsupported => "no supported architecture detected"

/-- Whether the family is one of the supported ones. -/
def isSupported : Family → Bool
  | unsupported => false
  | _ => true

/-- Whether the family is an x86 one. -/
def isX86 : Family → Bool
  | x86_32 | x86_64 => true
  | _ => false

/-- Whether the family is an ARM one. -/
def isArm : Family → Bool
  | armV5 | armV7 | armThumb2 => true
  | _ => false

/-- Whether the family is a PowerPC one. -/
def isPpc : Family → Bool
  | ppc32 | ppc64 => true
  | _ => false

/-! ## §2. Reading a name. -/

/-- A text that names no family, exactly as it was given. -/
structure UnknownName where
  text : String
  deriving Repr, DecidableEq

/-- The message quotes the text untouched and lists the names. -/
def UnknownName.message (e : UnknownName) : String :=
  "unknown architecture family '" ++ e.text ++ "' (expected one of: "
    ++ String.intercalate ", " names ++ ")"

/-- Reads a family name: blank characters around it do not count and the
letters A to Z may be in either case. -/
def ofText? (s : String) : Option Family :=
  Named.ofName? (String.ofList (Text.lowerAscii (Text.trim s.toList)))

/-- **Reading a name** with its error: the text as given. -/
def ofText (s : String) : Except UnknownName Family :=
  match ofText? s with
  | some f => .ok f
  | none => .error ⟨s⟩

end Family

end JitTarget
