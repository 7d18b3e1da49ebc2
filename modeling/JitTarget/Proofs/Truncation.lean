/-
  JitTarget.Proofs.Truncation
  ────────────────────────────────
  **CONSTANTS CUT DOWN TO A WORD.**

  To cut a constant down to a word is to take its balanced remainder modulo two to
  the number of bits.  What a word of it looks like in memory depends on nothing but
  that remainder, in either order:

      toInt_truncate         — the cut constant as a balanced remainder
      fits_iff               — a constant fits where it is its own remainder
      eq_truncate_iff        — the one constant that fits and is congruent
      decodeSigned_of_encode — a word read back is the remainder of what was written
      truncate_agrees_with_emission
                             — cutting down, fitting and writing, together
-/
import JitTarget.Machine.WordWidth
import JitTarget.Proofs.ByteEncoding

namespace JitTarget

namespace WordWidth

variable (w : WordWidth)

/-! ## §1. The words there are. -/

theorem bytes_le : w.bytes.toNat ≤ 8 := by
  cases w <;> decide

/-- The values of a word, counted by bytes and by bits. -/
theorem pow_bytes : 256 ^ w.bytes.toNat = 2 ^ w.bits.toNat := by
  cases w <;> rfl

/-- A word is no larger than a constant. -/
theorem pow_bits_dvd : 2 ^ w.bits.toNat ∣ 2 ^ 64 := by
  cases w <;> decide

/-! ## §2. Remainders. -/

/-- Two numbers have one balanced remainder where they have one remainder. -/
theorem bmod_eq_bmod_iff {a b : Int} {m : Nat} : a.bmod m = b.bmod m ↔ a % m = b % m := by
  constructor
  · intro h
    rw [← Int.bmod_emod, h, Int.bmod_emod]
  · intro h
    rw [← Int.emod_bmod, h, Int.emod_bmod]

/-- **A cut constant** is the balanced remainder modulo two to the number of bits. -/
theorem toInt_truncate (v : Int64) :
    (w.truncate v).toInt = v.toInt.bmod (2 ^ w.bits.toNat) := by
  cases w with
  | w32 => exact (Int32.toInt_toInt64 v.toInt32).trans (Int64.toInt_toInt32 v)
  | w64 => exact (Int64.toInt_bmod v).symm

/-- **A constant fits** where it is its own balanced remainder. -/
theorem fits_iff (v : Int64) :
    w.fits v = true ↔ v.toInt.bmod (2 ^ w.bits.toNat) = v.toInt := by
  cases w with
  | w32 =>
      have hlow : (-2147483648 ≤ v) ↔ -2147483648 ≤ v.toInt := Int64.le_iff_toInt_le
      have hhigh : (v ≤ 2147483647) ↔ v.toInt ≤ 2147483647 := Int64.le_iff_toInt_le
      have hself : v.toInt.bmod (2 ^ 32) = v.toInt
          ↔ -2147483648 ≤ v.toInt ∧ v.toInt ≤ 2147483647 := by
        rw [Int.bmod_eq_iff (by decide)]
        omega
      show (decide (-2147483648 ≤ v) && decide (v ≤ 2147483647)) = true ↔ _
      rw [Bool.and_eq_true, decide_eq_true_iff, decide_eq_true_iff, hlow, hhigh]
      exact hself.symm
  | w64 => exact iff_of_true rfl (Int64.toInt_bmod v)

/-- So a constant fits where cutting it down leaves it. -/
theorem fits_iff_truncate (v : Int64) : w.fits v = true ↔ w.truncate v = v := by
  rw [fits_iff, ← toInt_truncate, Int64.toInt_inj]

/-- A cut constant fits. -/
theorem fits_truncate (v : Int64) : w.fits (w.truncate v) = true := by
  rw [fits_iff, toInt_truncate, Int.bmod_bmod]

theorem truncate_truncate (v : Int64) : w.truncate (w.truncate v) = w.truncate v :=
  (w.fits_iff_truncate _).mp (w.fits_truncate v)

/-- **Two constants are cut alike** where they are congruent. -/
theorem truncate_eq_iff (a b : Int64) :
    w.truncate a = w.truncate b
      ↔ a.toInt % (2 ^ w.bits.toNat : Nat) = b.toInt % (2 ^ w.bits.toNat : Nat) := by
  rw [← Int64.toInt_inj, toInt_truncate, toInt_truncate, bmod_eq_bmod_iff]

/-- **The cut constant is the only one** that fits and is congruent. -/
theorem eq_truncate_iff (x v : Int64) :
    x = w.truncate v
      ↔ w.fits x = true
        ∧ x.toInt % (2 ^ w.bits.toNat : Nat) = v.toInt % (2 ^ w.bits.toNat : Nat) := by
  rw [← truncate_eq_iff, fits_iff_truncate]
  constructor
  · rintro rfl
    exact ⟨w.truncate_truncate v, w.truncate_truncate v⟩
  · rintro ⟨hx, hv⟩
    exact hx.symm.trans hv

/-! ## §3. Words in memory. -/

/-- The bits of a constant, taken without their sign, are congruent to it. -/
theorem bmod_toUInt64 (v : Int64) :
    (v.toUInt64.toNat : Int).bmod (2 ^ w.bits.toNat) = v.toInt.bmod (2 ^ w.bits.toNat) := by
  have hbits : v.toInt = (v.toUInt64.toNat : Int).bmod (2 ^ 64) :=
    BitVec.toInt_eq_toNat_bmod v.toBitVec
  rw [hbits, Int.bmod_bmod_of_dvd w.pow_bits_dvd]

/-- **Constants are written alike**, as words in either order, where they are cut
alike. -/
theorem encode_eq_encode_iff (order : ByteOrder) (a b : Int64) :
    order.encode a.toUInt64 w.bytes.toNat = order.encode b.toUInt64 w.bytes.toNat
      ↔ w.truncate a = w.truncate b := by
  rw [ByteOrder.encode_eq_encode_iff w.bytes_le, w.pow_bytes, ← Int64.toInt_inj,
      toInt_truncate, toInt_truncate, ← bmod_toUInt64, ← bmod_toUInt64, bmod_eq_bmod_iff]
  norm_cast

variable {w}

/-- **A word read back** is the balanced remainder of what was written. -/
theorem decodeSigned_of_encode {order : ByteOrder} {v : Int64} {bytes : List UInt8}
    (h : order.encode v.toUInt64 w.bytes.toNat = some bytes) :
    order.decodeSigned bytes = (w.truncate v).toInt := by
  obtain ⟨hlength, hdecode⟩ := ByteOrder.decode_encode w.bytes_le h
  rw [ByteOrder.decodeSigned_eq, hlength, hdecode, w.pow_bytes, Int.natCast_emod,
      Int.emod_bmod, bmod_toUInt64, toInt_truncate]

/-! ## §4. Cutting down, fitting and writing. -/

/-- **CUTTING DOWN AGREES WITH WHAT IS WRITTEN.** Of all constants the cut one alone
fits the width and is congruent to the constant modulo two to the number of bits; cut
again it stays, and a constant fits where it is cut to itself.  In either order the
constant and the cut one are written as the same word, which has as many bytes as the
width says, and which reads back, as a signed word, as the cut one.  So a constant
survives being written exactly where it fits, and two are written alike exactly where
they are cut alike. -/
theorem truncate_agrees_with_emission (w : WordWidth) (v : Int64) :
    (∀ x, x = w.truncate v
        ↔ w.fits x = true
          ∧ x.toInt % (2 ^ w.bits.toNat : Nat) = v.toInt % (2 ^ w.bits.toNat : Nat))
      ∧ w.truncate (w.truncate v) = w.truncate v
      ∧ (w.fits v = true ↔ w.truncate v = v)
      ∧ ∀ order : ByteOrder, ∃ bytes,
          order.encode v.toUInt64 w.bytes.toNat = some bytes
          ∧ order.encode (w.truncate v).toUInt64 w.bytes.toNat = some bytes
          ∧ bytes.length = w.bytes.toNat
          ∧ order.decodeSigned bytes = (w.truncate v).toInt
          ∧ (order.decodeSigned bytes = v.toInt ↔ w.fits v = true)
          ∧ ∀ v' : Int64, order.encode v'.toUInt64 w.bytes.toNat = some bytes
              ↔ w.truncate v' = w.truncate v := by
  refine ⟨fun x => w.eq_truncate_iff x v, w.truncate_truncate v, w.fits_iff_truncate v, ?_⟩
  intro order
  obtain ⟨bytes, hbytes⟩ : ∃ bytes, order.encode v.toUInt64 w.bytes.toNat = some bytes :=
    ⟨_, order.encode_eq_some v.toUInt64 w.bytes_le⟩
  have hlength : bytes.length = w.bytes.toNat := (ByteOrder.decode_encode w.bytes_le hbytes).1
  have hread : order.decodeSigned bytes = (w.truncate v).toInt := decodeSigned_of_encode hbytes
  have halike : ∀ v' : Int64, order.encode v'.toUInt64 w.bytes.toNat = some bytes
      ↔ w.truncate v' = w.truncate v := by
    intro v'
    rw [← hbytes]
    exact w.encode_eq_encode_iff order v' v
  refine ⟨bytes, hbytes, (halike _).mpr (w.truncate_truncate v), hlength, hread, ?_, halike⟩
  rw [hread, Int64.toInt_inj]
  exact (w.fits_iff_truncate v).symm

-- one past the largest 32-bit word wraps to the smallest
example : w32.truncate 2147483648 = -2147483648
    ∧ ByteOrder.big.encode (2147483648 : Int64).toUInt64 4 = some [0x80, 0, 0, 0] := by
  decide

end WordWidth

end JitTarget
