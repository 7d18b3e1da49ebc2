/-
  JitTarget.Machine.WordWidth
  ────────────────────────────────
  **MACHINE WORDS.**

  The word width of a family, and constants seen as words of that width:

      fits      — whether a 64-bit constant is a signed word of the width
      truncate  — the signed word the constant's low bits spell
-/
import JitTarget.Family

namespace JitTarget

/-! ## §1. Widths. -/

/-- The width of a machine word. -/
inductive WordWidth where
  /-- Four-byte words. -/
  | w32
  /-- Eight-byte words. -/
  | w64
  deriving Repr, DecidableEq, Inhabited

namespace WordWidth

/-- The canonical name: the number of bits. -/
def name : WordWidth → String
  | w32 => "32"
  | w64 => "64"

instance : Named WordWidth where
  all := [w32, w64]
  name := name
  mem_all := by intro a; cases a <;> decide
  name_injective := by intro a b; cases a <;> cases b <;> simp [name]

/-- The base-two logarithm of the number of bytes; it scales an index into an
array of words. -/
def shift : WordWidth → UInt32
  | w32 => 2
  | w64 => 3

/-- The number of bytes. -/
def bytes (w : WordWidth) : UInt32 := 1 <<< w.shift

/-- The number of bits. -/
def bits (w : WordWidth) : UInt32 := w.bytes * 8

/-! ## §2. Constants as words. -/

/-- Whether a constant is a signed word of this width. -/
def fits (w : WordWidth) (value : Int64) : Bool :=
  match w with
  | w32 => -2147483648 ≤ value && value ≤ 2147483647
  | w64 => true

/-- Keeps the low bits of a constant and extends their sign back to 64 bits. -/
def truncate (w : WordWidth) (value : Int64) : Int64 :=
  match w with
  | w32 => value.toInt32.toInt64
  | w64 => value

end WordWidth

/-- The shift that scales an index into an array of doubles, which take eight
bytes on every family. -/
def floatShift : UInt32 := 3

/-! ## §3. The width of a family. -/

/-- The word width of a family; none for the sentinel. -/
def Family.wordWidth? : Family → Option WordWidth
  | .x86_64 | .ppc64 => some .w64
  | .x86_32 | .armV5 | .armV7 | .armThumb2 | .ppc32 | .mips32 => some .w32
  | .unsupported => none

end JitTarget
