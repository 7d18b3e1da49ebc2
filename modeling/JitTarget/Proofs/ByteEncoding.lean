/-
  JitTarget.Proofs.ByteEncoding
  ────────────────────────────────
  **NUMBERS AS BYTES, AND BACK.**

  Both orders write the same low bytes, one from each end.  So a law of the low
  bytes is a law of either order:

      ofLowBytes_lowBytes  — low bytes spell the number modulo a power of 256
      lowBytes_eq_iff      — numbers with the same low bytes
      encode_eq_some       — what either order writes
      decode_encode        — what is written is read back, modulo the same power
      decodeSigned_eq      — a signed reading is the balanced remainder
      encode_reads_back    — every number, every number of bytes, in either order
-/
import JitTarget.Machine.ByteOrder

namespace JitTarget

namespace ByteOrder

/-! ## §1. Low bytes. -/

theorem length_lowBytes (value count : Nat) : (lowBytes value count).length = count := by
  induction count generalizing value with
  | zero => rfl
  | succ count ih => exact congrArg (· + 1) (ih (value / 256))

/-- **Low bytes spell the number** modulo the power of 256 they reach. -/
theorem ofLowBytes_lowBytes (value count : Nat) :
    ofLowBytes (lowBytes value count) = value % 256 ^ count := by
  induction count generalizing value with
  | zero => exact (Nat.mod_one value).symm
  | succ count ih =>
      have hlow : (UInt8.ofNat value).toNat = value % 256 := UInt8.toNat_ofNat'
      show (UInt8.ofNat value).toNat + 256 * ofLowBytes (lowBytes (value / 256) count) = _
      rw [hlow, ih, Nat.pow_succ', Nat.mod_mul]

/-- Bytes are the low bytes of the number they spell. -/
theorem lowBytes_ofLowBytes (bytes : List UInt8) :
    lowBytes (ofLowBytes bytes) bytes.length = bytes := by
  induction bytes with
  | nil => rfl
  | cons b bs ih =>
      have hb : b.toNat < 256 := b.toNat_lt
      have hlow : UInt8.ofNat (b.toNat + 256 * ofLowBytes bs) = b := by
        apply UInt8.toNat_inj.mp
        rw [UInt8.toNat_ofNat', Nat.add_mul_mod_self_left, Nat.mod_eq_of_lt hb]
      have hrest : (b.toNat + 256 * ofLowBytes bs) / 256 = ofLowBytes bs := by omega
      show UInt8.ofNat (b.toNat + 256 * ofLowBytes bs)
          :: lowBytes ((b.toNat + 256 * ofLowBytes bs) / 256) bs.length = _
      rw [hlow, hrest, ih]

/-- Bytes spell less than the power of 256 they reach. -/
theorem ofLowBytes_lt (bytes : List UInt8) : ofLowBytes bytes < 256 ^ bytes.length := by
  have hpow : 0 < 256 ^ bytes.length := Nat.pow_pos (by decide)
  rw [← lowBytes_ofLowBytes bytes, ofLowBytes_lowBytes, length_lowBytes]
  exact Nat.mod_lt _ hpow

/-- **Two numbers have the same low bytes** where they agree modulo the power of 256. -/
theorem lowBytes_eq_iff {a b count : Nat} :
    lowBytes a count = lowBytes b count ↔ a % 256 ^ count = b % 256 ^ count := by
  constructor
  · intro h
    have hspelled := congrArg ofLowBytes h
    rwa [ofLowBytes_lowBytes, ofLowBytes_lowBytes] at hspelled
  · intro h
    have hcut : ∀ n, lowBytes (n % 256 ^ count) count = lowBytes n count := by
      intro n
      have hback := lowBytes_ofLowBytes (lowBytes n count)
      rwa [ofLowBytes_lowBytes, length_lowBytes] at hback
    rw [← hcut a, ← hcut b, h]

/-- The first of the low bytes are the low bytes. -/
theorem take_lowBytes (value : Nat) {n count : Nat} (h : n ≤ count) :
    (lowBytes value count).take n = lowBytes value n := by
  induction n generalizing value count with
  | zero => rfl
  | succ n ih =>
      cases count with
      | zero => exact absurd h (Nat.not_succ_le_zero n)
      | succ count =>
          exact congrArg (UInt8.ofNat value :: ·) (ih (value / 256) (Nat.le_of_succ_le_succ h))

/-! ## §2. Either order. -/

/-- Low bytes laid out in this order; laid out twice they are as they were. -/
def arrange : ByteOrder → List UInt8 → List UInt8
  | little, bytes => bytes
  | big, bytes => bytes.reverse

variable (order : ByteOrder)

@[simp] theorem arrange_arrange (bytes : List UInt8) :
    order.arrange (order.arrange bytes) = bytes := by
  cases order with
  | little => rfl
  | big => exact List.reverse_reverse bytes

@[simp] theorem length_arrange (bytes : List UInt8) :
    (order.arrange bytes).length = bytes.length := by
  cases order with
  | little => rfl
  | big => exact List.length_reverse

theorem arrange_inj {a b : List UInt8} : order.arrange a = order.arrange b ↔ a = b := by
  constructor
  · intro h
    rw [← order.arrange_arrange a, h, order.arrange_arrange]
  · exact congrArg order.arrange

theorem decode_eq (bytes : List UInt8) :
    order.decode bytes = ofLowBytes (order.arrange bytes) := by
  cases order <;> rfl

/-- **What either order writes**: the low bytes, laid out in it. -/
theorem encode_eq_some (value : UInt64) {count : Nat} (h : count ≤ 8) :
    order.encode value count = some (order.arrange (lowBytes value.toNat count)) := by
  have hfew : ¬ 8 < count := Nat.not_lt.mpr h
  unfold encode
  rw [if_neg hfew]
  cases order with
  | little => exact congrArg some (take_lowBytes value.toNat h)
  | big =>
      -- what is dropped in front is what is not taken behind
      have hall : (allBytes value).length = 8 := length_lowBytes value.toNat 8
      have hkept : (allBytes value).length - (8 - count) = count := by omega
      show some ((allBytes value).reverse.drop (8 - count)) = _
      rw [List.drop_reverse, hkept]
      exact congrArg (fun bytes => some bytes.reverse) (take_lowBytes value.toNat h)

variable {order}

/-- **What is written is read back**, modulo the power of 256 it reaches. -/
theorem decode_encode {value : UInt64} {count : Nat} {bytes : List UInt8} (h : count ≤ 8)
    (hbytes : order.encode value count = some bytes) :
    bytes.length = count ∧ order.decode bytes = value.toNat % 256 ^ count := by
  rw [encode_eq_some order value h] at hbytes
  cases hbytes
  rw [length_arrange, length_lowBytes, decode_eq, arrange_arrange, ofLowBytes_lowBytes]
  exact ⟨rfl, rfl⟩

/-- **Two numbers are written alike** where they agree modulo the power of 256. -/
theorem encode_eq_encode_iff {a b : UInt64} {count : Nat} (h : count ≤ 8) :
    order.encode a count = order.encode b count
      ↔ a.toNat % 256 ^ count = b.toNat % 256 ^ count := by
  rw [encode_eq_some order a h, encode_eq_some order b h, Option.some_inj, arrange_inj,
      lowBytes_eq_iff]

/-! ## §3. Signed readings. -/

/-- **A signed reading** is the unsigned one brought between minus a half and a half of
the power of 256. -/
theorem decodeSigned_eq (order : ByteOrder) (bytes : List UInt8) :
    order.decodeSigned bytes = (order.decode bytes : Int).bmod (256 ^ bytes.length) := by
  have hlt : order.decode bytes < 256 ^ bytes.length := by
    rw [decode_eq, ← order.length_arrange bytes]
    exact ofLowBytes_lt _
  have hmod : (order.decode bytes : Int) % (256 ^ bytes.length : Nat) = order.decode bytes :=
    Int.emod_eq_of_lt (Int.natCast_nonneg _) (Int.ofNat_lt.mpr hlt)
  unfold decodeSigned
  by_cases hhalf : 2 * order.decode bytes < 256 ^ bytes.length
  · have hlow : (order.decode bytes : Int) < ((256 ^ bytes.length : Nat) + 1) / 2 := by omega
    rw [if_pos hhalf, Int.bmod_eq_emod_of_lt (hmod.symm ▸ hlow), hmod]
  · have hhigh : (order.decode bytes : Int) ≥ ((256 ^ bytes.length : Nat) + 1) / 2 := by omega
    rw [if_neg hhalf, Int.bmod_neg _ _ (hmod.symm ▸ hhigh), hmod]

/-! ## §4. Every number of bytes. -/

/-- There are eight bytes to give. -/
theorem encode_eq_none_iff (order : ByteOrder) (value : UInt64) (count : Nat) :
    order.encode value count = none ↔ 8 < count := by
  by_cases h : 8 < count
  · have hnone : order.encode value count = none := if_pos h
    exact iff_of_true hnone h
  · rw [encode_eq_some order value (Nat.not_lt.mp h)]
    exact iff_of_false (Option.some_ne_none _) h

/-- The orders are the two ways to read the same bytes. -/
theorem encode_big (value : UInt64) (count : Nat) :
    big.encode value count = (little.encode value count).map List.reverse := by
  by_cases h : 8 < count
  · rw [(encode_eq_none_iff big value count).mpr h, (encode_eq_none_iff little value count).mpr h]
    rfl
  · have hcount := Nat.not_lt.mp h
    rw [encode_eq_some big value hcount, encode_eq_some little value hcount]
    rfl

/-- Fewer low bytes are the front of more. -/
theorem lowBytes_isPrefix (value : Nat) {n count : Nat} (h : n ≤ count) :
    lowBytes value n <+: lowBytes value count := by
  rw [← take_lowBytes value h]
  exact List.take_prefix n _

/-- **A NUMBER IS WRITTEN IN EITHER ORDER AND READ BACK**, whatever it is and however
many of its bytes are asked for.  More than eight are refused; up to eight come as they
were asked for, and they read back as the number modulo two to their number of bits.
The one order writes the bytes of the other from behind; and fewer bytes are the front
of more where the least significant comes first, and their end where it comes last. -/
theorem encode_reads_back (order : ByteOrder) (value : UInt64) (count : Nat) :
    (order.encode value count = none ↔ 8 < count)
      ∧ (∀ bytes, order.encode value count = some bytes →
          bytes.length = count ∧ order.decode bytes = value.toNat % 2 ^ (8 * count))
      ∧ big.encode value count = (little.encode value count).map List.reverse
      ∧ ∀ more, count ≤ more → more ≤ 8 →
          (∃ part whole, little.encode value count = some part
            ∧ little.encode value more = some whole ∧ part <+: whole)
          ∧ ∃ part whole, big.encode value count = some part
            ∧ big.encode value more = some whole ∧ part <:+ whole := by
  refine ⟨encode_eq_none_iff order value count, fun bytes hbytes => ?_,
    encode_big value count, fun more hcount hmore => ?_⟩
  · have hfew : count ≤ 8 := by
      apply Nat.not_lt.mp
      intro hmany
      rw [(encode_eq_none_iff order value count).mpr hmany] at hbytes
      cases hbytes
    have hpow : 256 ^ count = 2 ^ (8 * count) := (Nat.pow_mul 2 8 count).symm
    rw [← hpow]
    exact decode_encode hfew hbytes
  · have hfew : count ≤ 8 := Nat.le_trans hcount hmore
    have hfront := lowBytes_isPrefix value.toNat hcount
    exact ⟨⟨_, _, encode_eq_some little value hfew, encode_eq_some little value hmore, hfront⟩,
      ⟨_, _, encode_eq_some big value hfew, encode_eq_some big value hmore,
        List.reverse_suffix.mpr hfront⟩⟩

/-- Three bytes and five of a number that has more. -/
theorem encode_reads_back_three :
    big.encode 0x0102030405060708 3 = some [0x06, 0x07, 0x08]
      ∧ big.decode [0x06, 0x07, 0x08] = 0x060708
      ∧ ∃ whole, big.encode 0x0102030405060708 5 = some whole ∧ [0x06, 0x07, 0x08] <:+ whole := by
  have hbytes : big.encode 0x0102030405060708 3 = some [0x06, 0x07, 0x08] := by decide
  obtain ⟨-, hread, -, hmore⟩ := encode_reads_back big 0x0102030405060708 3
  refine ⟨hbytes, (hread _ hbytes).2.trans (by decide), ?_⟩
  obtain ⟨-, part, whole, hpart, hwhole, hend⟩ := hmore 5 (by decide) (by decide)
  rw [hbytes] at hpart
  cases hpart
  exact ⟨whole, hwhole, hend⟩

end ByteOrder

end JitTarget
