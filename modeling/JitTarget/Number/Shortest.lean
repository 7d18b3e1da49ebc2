/-
  JitTarget.Number.Shortest
  ────────────────────────────────
  **THE SHORTEST DECIMAL OF A NUMBER.**

  A decimal stands for the number it rounds to, so many decimals stand for one
  number.  The one to show has the fewest digits; among several as short it is
  the nearest to the number, and of two equally near ones the format at hand
  chooses:

      even  — the one with the even last digit
      away  — the one further from zero

  The search runs over the multiples of ever smaller powers of ten.  If any
  multiple of a power stands for the number, so does one of the two between
  which the number lies.
-/
import JitTarget.Number.Binary64

namespace JitTarget.Binary64

/-! ## §1. Decimals that stand for a number. -/

/-- A decimal: its digits as one natural number, times a power of ten. -/
structure Decimal where
  digits : Nat
  exponent : Int
  deriving Repr, DecidableEq

/-- The numerator and denominator of a decimal. -/
def Decimal.ratio (d : Decimal) : Nat × Nat :=
  match d.exponent with
  | .ofNat k => (d.digits * 10 ^ k, 1)
  | .negSucc k => (d.digits, 10 ^ (k + 1))

/-- Whether a decimal lies among the reals that round to `m × 2^e`. Their
interval reaches half-way to each neighbour, and holds its ends exactly when `m`
is even; below a power of two the lower neighbour is half as far. -/
def roundsTo (m : Nat) (e : Int) (d : Decimal) : Bool :=
  let (num, den) := d.ratio
  -- the ends of the interval, in quarters of a unit of the mantissa
  let lower := if m = 2 ^ 52 && minExponent < e then 1 else 2
  let (loNum, loDen) := Binary64.ratio (4 * m - lower) (e - 2)
  let (hiNum, hiDen) := Binary64.ratio (4 * m + 2) (e - 2)
  if m % 2 = 0 then
    loNum * den ≤ num * loDen && num * hiDen ≤ hiNum * den
  else
    loNum * den < num * loDen && num * hiDen < hiNum * den

/-! ## §2. The two neighbours on a grid. -/

/-- The decimal exponent of the leading digit of `num / den`, found from a guess
that is right or one too great. -/
def leadingExponent (num den : Nat) : Int :=
  let guess : Int := (Nat.toDigits 10 num).length - (Nat.toDigits 10 den).length
  let atLeast (k : Int) : Bool :=
    match k with
    | .ofNat j => den * 10 ^ j ≤ num
    | .negSucc j => den ≤ num * 10 ^ (j + 1)
  if atLeast guess then guess else guess - 1

/-- The two neighbours of `num / den` among the multiples of `10^k`. -/
def neighbours (num den : Nat) (k : Int) : Decimal × Decimal :=
  let below :=
    match k with
    | .ofNat j => num / (den * 10 ^ j)
    | .negSucc j => num * 10 ^ (j + 1) / den
  (⟨below, k⟩, ⟨below + 1, k⟩)

/-- Where `num / den` lies from the middle between a decimal and the next
multiple of the same power of ten. -/
def sideOfMiddle (num den : Nat) (below : Decimal) : Ordering :=
  match below.exponent with
  | .ofNat j => compare (2 * num) ((2 * below.digits + 1) * 10 ^ j * den)
  | .negSucc j => compare (2 * num * 10 ^ (j + 1)) ((2 * below.digits + 1) * den)

/-! ## §3. The search. -/

/-- Which of two equally near decimals is taken. -/
inductive Tie where
  /-- The one with the even last digit. -/
  | even
  /-- The one further from zero. -/
  | away
  deriving Repr, DecidableEq

/-- The nearer of the two neighbours. -/
def nearer (tie : Tie) (num den : Nat) (below above : Decimal) : Decimal :=
  match sideOfMiddle num den below, tie with
  | .lt, _ => below
  | .gt, _ => above
  | .eq, .away => above
  | .eq, .even => if below.digits % 2 = 0 then below else above

/-- Tries the multiples of ever smaller powers of ten, from `10^k` on. -/
def searchShortest (tie : Tie) (m : Nat) (e : Int) (num den : Nat) : Nat → Int → Decimal
  | 0, k => (neighbours num den k).1
  | tries + 1, k =>
      let (below, above) := neighbours num den k
      -- if a multiple of this power reads back, one of these two does
      match roundsTo m e below, roundsTo m e above with
      | true, true => nearer tie num den below above
      | true, false => below
      | false, true => above
      | false, false => searchShortest tie m e num den tries (k - 1)

/-- **The shortest decimal** that reads back as `m × 2^e`; seventeen digits
always suffice. -/
def shortest (tie : Tie) (m : Nat) (e : Int) : Decimal :=
  let (num, den) := ratio m e
  searchShortest tie m e num den 17 (leadingExponent num den)

end JitTarget.Binary64
