/-
  JitTarget.Machine.ByteOrder
  ────────────────────────────────
  **BYTE ORDER AND MISALIGNED ACCESS.**

  How a family lays a number out in memory, and whether one instruction may
  touch a misaligned number:

      encode        — the low bytes of a 64-bit number, in an order
      decode        — the number a list of bytes spells, in an order
      decodeSigned  — the same as a signed word
-/
import JitTarget.Family
import JitTarget.Number.Natural

namespace JitTarget

/-! ## §1. The two orders. -/

/-- The order in which the bytes of a number are stored. -/
inductive ByteOrder where
  /-- The least significant byte comes first. -/
  | little
  /-- The most significant byte comes first. -/
  | big
  deriving Repr, DecidableEq, Inhabited

namespace ByteOrder

/-- The canonical name. -/
def name : ByteOrder → String
  | little => "little"
  | big => "big"

instance : Named ByteOrder where
  all := [little, big]
  name := name
  mem_all := by intro a; cases a <;> decide
  name_injective := by intro a b; cases a <;> cases b <;> simp [name]

/-- The wording for people. -/
def display : ByteOrder → String
  | little => "little-endian"
  | big => "big-endian"

/-- The bare tag used in diagnostic dumps. -/
def tag : ByteOrder → String
  | little => "Little"
  | big => "Big"

/-! ## §2. Numbers as bytes. -/

/-- The `count` low bytes of a natural number, the least significant first. -/
def lowBytes : Nat → Nat → List UInt8
  | _, 0 => []
  | value, count + 1 => UInt8.ofNat value :: lowBytes (value / 256) count

/-- All eight bytes of a 64-bit number, the least significant first. -/
def allBytes (value : UInt64) : List UInt8 :=
  lowBytes value.toNat 8

/-- The low `count` bytes of a 64-bit number in this order; there are only
eight to give. -/
def encode (order : ByteOrder) (value : UInt64) (count : Nat) : Option (List UInt8) :=
  if 8 < count then none
  else some <|
    match order with
    | little => (allBytes value).take count
    | big => (allBytes value).reverse.drop (8 - count)

/-- The number that bytes spell when the least significant comes first. -/
def ofLowBytes : List UInt8 → Nat
  | [] => 0
  | b :: bs => b.toNat + 256 * ofLowBytes bs

/-- The number that bytes spell in this order. -/
def decode (order : ByteOrder) (bytes : List UInt8) : Nat :=
  match order with
  | little => ofLowBytes bytes
  | big => ofLowBytes bytes.reverse

/-- The number that bytes spell in this order as a signed word in two's complement:
a word whose top bit is set stands for what it is short of a whole turn. -/
def decodeSigned (order : ByteOrder) (bytes : List UInt8) : Int :=
  if 2 * decode order bytes < 256 ^ bytes.length then decode order bytes
  else decode order bytes - (256 ^ bytes.length : Nat)

end ByteOrder

/-! ## §3. The order and the access rule of a family. -/

/-- The byte order of a family; none for the sentinel. -/
def Family.byteOrder? : Family → Option ByteOrder
  | .ppc32 | .ppc64 => some .big
  | .x86_32 | .x86_64 | .armV5 | .armV7 | .armThumb2 | .mips32 => some .little
  | .unsupported => none

/-- Whether one instruction may read or write a misaligned integer. ARMv5 and
MIPS fault on it or rotate the value; the sentinel has no answer. -/
def Family.unalignedAccess? : Family → Option Bool
  | .x86_32 | .x86_64 | .armV7 | .armThumb2 | .ppc32 | .ppc64 => some true
  | .armV5 | .mips32 => some false
  | .unsupported => none

end JitTarget
