/-
  JitTarget.Machine.Calls
  ────────────────────────────────
  **CALLS BETWEEN HOST CODE AND GENERATED CODE.**

  Which convention both sides use, and whether a function pointer is the code
  address itself or the address of a descriptor.
-/
import JitTarget.Family

namespace JitTarget

/-! ## §1. Conventions. -/

/-- The convention used across the boundary. -/
inductive CallingConvention where
  /-- The first two integer arguments in registers; the callee pops the rest. -/
  | fastcall
  /-- All arguments on the stack; the callee pops them. -/
  | stdcall
  /-- The platform's convention for C. -/
  | platformDefault
  deriving Repr, DecidableEq, Inhabited

namespace CallingConvention

/-- The canonical name. -/
def name : CallingConvention → String
  | fastcall => "fastcall"
  | stdcall => "stdcall"
  | platformDefault => "platform-default"

instance : Named CallingConvention where
  all := [fastcall, stdcall, platformDefault]
  name := name
  mem_all := by intro a; cases a <;> decide
  name_injective := by intro a b; cases a <;> cases b <;> simp [name]

/-- The wording for people. -/
def display : CallingConvention → String
  | fastcall => "fastcall"
  | stdcall => "stdcall"
  | platformDefault => "platform default"

/-- The bare tag used in diagnostic dumps. -/
def tag : CallingConvention → String
  | fastcall => "Fastcall"
  | stdcall => "Stdcall"
  | platformDefault => "PlatformDefault"

/-- The ABI name host source code spells the convention with. -/
def abiName : CallingConvention → String
  | fastcall => "fastcall"
  | stdcall => "stdcall"
  | platformDefault => "C"

/-- How many integer arguments go in registers, where the convention itself
fixes it. -/
def registerArguments? : CallingConvention → Option Nat
  | fastcall => some 2
  | stdcall => some 0
  | platformDefault => none

/-- Whether the callee removes the stack arguments. -/
def calleeCleansStack : CallingConvention → Bool
  | fastcall | stdcall => true
  | platformDefault => false

end CallingConvention

/-- What the host's toolchain can express. -/
structure Toolchain where
  /-- Whether it offers the 32-bit x86 fastcall convention. -/
  fastcallAvailable : Bool := true
  deriving Repr, DecidableEq, Inhabited

/-- The key a toolchain's field goes by wherever it is written. -/
def Toolchain.fastcallKey : String := "fastcall-available"

/-- The toolchain assumed when nothing is said about it. -/
def Toolchain.standard : Toolchain := {}

namespace Family

/-- The convention of a family under a toolchain: 32-bit x86 takes fastcall
when it is offered and stdcall otherwise; the sentinel has none. -/
def callingConvention? (f : Family) (toolchain : Toolchain) : Option CallingConvention :=
  match f with
  | x86_32 => some (if toolchain.fastcallAvailable then .fastcall else .stdcall)
  | x86_64 | armV5 | armV7 | armThumb2 | ppc32 | ppc64 | mips32 => some .platformDefault
  | unsupported => none

/-- The convention host call sites are compiled with on a family, whatever the
toolchain settings say. -/
def hostCallConvention? : Family → Option CallingConvention
  | x86_32 => some .fastcall
  | x86_64 | armV5 | armV7 | armThumb2 | ppc32 | ppc64 | mips32 => some .platformDefault
  | unsupported => none

/-- Whether functions are reached through descriptors; only 64-bit PowerPC does
so, and the sentinel has no answer. -/
def indirectCalls? : Family → Option Bool
  | ppc64 => some true
  | x86_32 | x86_64 | armV5 | armV7 | armThumb2 | ppc32 | mips32 => some false
  | unsupported => none

end Family

/-! ## §2. Call targets. -/

/-- What a function pointer points at where functions have descriptors. -/
structure FunctionDescriptor where
  /-- Address of the first instruction. -/
  entry : UInt64 := 0
  /-- Base of the table of contents. -/
  toc : UInt64 := 0
  /-- Environment pointer. -/
  env : UInt64 := 0
  deriving Repr, DecidableEq, Inhabited

/-- How host code reaches generated code. -/
inductive CallTarget where
  /-- The function pointer is the code address. -/
  | direct (entry : UInt64)
  /-- The function pointer is the address of this descriptor. -/
  | descriptor (d : FunctionDescriptor)
  deriving Repr, DecidableEq

namespace CallTarget

/-- The target for code at `entry`; `toc` counts only where functions have
descriptors. -/
def forCode (indirect : Bool) (entry toc : UInt64) : CallTarget :=
  if indirect then .descriptor ⟨entry, toc, 0⟩ else .direct entry

/-- Address of the first instruction. -/
def entry : CallTarget → UInt64
  | direct e => e
  | descriptor d => d.entry

end CallTarget

end JitTarget
