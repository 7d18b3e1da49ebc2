/-
  JitTarget.Number.Numeral
  ────────────────────────────────
  **NUMBERS AS TEXT.**

  A number is shown by its shortest decimal.  What else there is to decide is
  the format's, and stands in a `NumeralStyle`: which of two equally near
  decimals is taken, and which numbers are written without an exponent.

      positional  — `0.00125`, `1.25`, `1250.0`: never without a decimal place
      scientific  — `1.25e-10`, `1e+20`: the exponent has its sign
-/
import JitTarget.Number.Shortest

namespace JitTarget

/-! ## §1. Styles. -/

/-- How a format spells its numbers. -/
structure NumeralStyle where
  /-- Which of two equally near decimals is taken. -/
  tie : Binary64.Tie
  /-- Whether a number whose leading digit stands at this power of ten is
  written without an exponent. -/
  isPositional : Int → Bool

/-! ## §2. Layout. -/

/-- The digits of a decimal with the place of the first: it counts powers of ten
to the `lead`, each further one a tenth of that. -/
structure Digits where
  digits : List Char
  lead : Int
  deriving Repr, DecidableEq

/-- The digits of a decimal, without the zeros at the end, which say nothing. -/
def Digits.ofDecimal (d : Binary64.Decimal) : Digits :=
  let cs := Nat.toDigits 10 d.digits
  { digits := (cs.reverse.dropWhile (· == '0')).reverse
    lead := d.exponent + cs.length - 1 }

/-- Digits behind a decimal point; there is at least one. -/
def decimalPlaces (ds : List Char) : List Char :=
  if ds.isEmpty then ['0'] else ds

/-- Positional text: the point stands where the power of ten is zero. -/
def Digits.positional (d : Digits) : List Char :=
  match d.lead with
  | .ofNat k =>
      -- zeros fill the gap up to the point
      let whole := d.digits.take (k + 1) ++ List.replicate (k + 1 - d.digits.length) '0'
      whole ++ '.' :: decimalPlaces (d.digits.drop (k + 1))
  | .negSucc k => '0' :: '.' :: (List.replicate k '0' ++ d.digits)

/-- Scientific text: one digit before the point, and no point without places. -/
def Digits.scientific (d : Digits) : List Char :=
  let places := d.digits.drop 1
  d.digits.take 1
    ++ (if places.isEmpty then [] else '.' :: places)
    ++ 'e' :: (if d.lead < 0 then '-' else '+') :: Nat.toDigits 10 d.lead.natAbs

/-- A decimal in a style. -/
def NumeralStyle.layout (style : NumeralStyle) (d : Binary64.Decimal) : String :=
  let ds := Digits.ofDecimal d
  String.ofList (if style.isPositional ds.lead then ds.positional else ds.scientific)

/-! ## §3. Numerals. -/

/-- **The text of a number** in a style. Zero keeps its sign. -/
def Binary64.numeral (style : NumeralStyle) : Binary64 → String
  | nan => "NaN"
  | infinite true => "-inf"
  | infinite false => "inf"
  | finite negative m e =>
      (if negative then "-" else "")
        ++ (if m = 0 then "0.0" else style.layout (shortest style.tie m e))

end JitTarget
