/-
  JitTarget.Number.Binary64
  ────────────────────────────────
  **FLOATING-POINT NUMBERS OF 64 BITS, EXACTLY.**

  A finite number is an integer mantissa below 2^53 times a power of two.
  Everything is computed on natural numbers:

      ofRatio    — the number nearest to a quotient, a tie to the even mantissa
      ofDecimal  — the number nearest to a decimal
      scale      — a number times a power of ten, each step rounded
-/
import JitTarget.Number.Natural

namespace JitTarget

/-! ## §1. The numbers. -/

/-- A binary floating-point number of 64 bits. -/
inductive Binary64 where
  /-- Not a number. -/
  | nan
  /-- Infinity, with its sign. -/
  | infinite (negative : Bool)
  /-- The mantissa times two to the exponent, with its sign. -/
  | finite (negative : Bool) (mantissa : Nat) (exponent : Int)
  deriving Repr, DecidableEq, Inhabited

namespace Binary64

/-- The least exponent a finite number is written with. -/
def minExponent : Int := -1074

/-- The greatest exponent a finite number is written with. -/
def maxExponent : Int := 971

/-- Zero, with its sign. -/
def zero (negative : Bool) : Binary64 := .finite negative 0 minExponent

/-! ## §2. Rounding. -/

/-- The integer nearest to `num / den`, a tie going to the even one. -/
def roundDiv (num den : Nat) : Nat :=
  let q := num / den
  let r := num % den
  if 2 * r < den then q
  else if 2 * r = den then q + q % 2
  else q + 1

/-- The numerator and denominator of `num / den / 2^e`. -/
def scaleDown (num den : Nat) (e : Int) : Nat × Nat :=
  match e with
  | .ofNat k => (num, den * 2 ^ k)
  | .negSucc k => (num * 2 ^ (k + 1), den)

/-- The exponent that leaves `num / den / 2^e` with 53 bits, if the range
permits: the quotient then lies in `[2^52, 2^53)`. -/
def fitExponent (num den : Nat) : Int :=
  let guess : Int := (num.log2 : Int) - (den.log2 : Int) - 52
  -- the guess is right or one too great
  let (n, d) := scaleDown num den guess
  let e := if n < d * 2 ^ 52 then guess - 1 else guess
  max e minExponent

/-- The number nearest to `num / den`; too great a quotient is infinite. -/
def ofRatio (negative : Bool) (num den : Nat) : Binary64 :=
  if num = 0 then zero negative
  else
    let e := fitExponent num den
    let (n, d) := scaleDown num den e
    let m := roundDiv n d
    -- rounding up may carry into one more bit
    let (m, e) := if m = 2 ^ 53 then (2 ^ 52, e + 1) else (m, e)
    if maxExponent < e then .infinite negative else .finite negative m e

/-- The number nearest to `digits × 10^exponent`. Decimals far outside the range
are settled by their magnitude alone. -/
def ofDecimal (negative : Bool) (digits : Nat) (exponent : Int) : Binary64 :=
  let magnitude : Int := (Nat.toDigits 10 digits).length + exponent
  if digits = 0 then zero negative
  else if 400 < magnitude then .infinite negative
  else if magnitude < -400 then zero negative
  else
    match exponent with
    | .ofNat k => ofRatio negative (digits * 10 ^ k) 1
    | .negSucc k => ofRatio negative digits (10 ^ (k + 1))

/-! ## §3. Powers of ten. -/

/-- The numerator and denominator of `m × 2^e`. -/
def ratio (m : Nat) (e : Int) : Nat × Nat :=
  match e with
  | .ofNat k => (m * 2 ^ k, 1)
  | .negSucc k => (m, 2 ^ (k + 1))

/-- The number nearest to a number times `num / den`. -/
def times (num den : Nat) : Binary64 → Binary64
  | finite negative m e =>
      let (n, d) := ratio m e
      ofRatio negative (n * num) (d * den)
  | x => x

/-- The numerator and denominator of the number nearest to `10^k`, which is
finite up to `10^308`. -/
def tenPower (k : Nat) : Nat × Nat :=
  match ofRatio false (10 ^ k) 1 with
  | finite _ m e => ratio m e
  | _ => (10 ^ k, 1)

/-- A number times `10^exponent`: the power is rounded to a number first, and
the product, or the quotient, is rounded again. -/
def scale (x : Binary64) (exponent : Int) : Binary64 :=
  match exponent with
  | .ofNat k =>
      let (num, den) := tenPower k
      x.times num den
  | .negSucc k =>
      let (num, den) := tenPower (k + 1)
      x.times den num

end Binary64

end JitTarget
