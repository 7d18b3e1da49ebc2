/-
  JitTarget.Toml.Number
  ────────────────────────────────
  **NUMBERS.**

  Integers of 64 bits in four bases and floating-point numbers.  One underscore
  may stand between two digits.  Infinity is written out; a decimal too great
  for a number is refused unless it is negative.
-/
import JitTarget.Toml.Basic
import JitTarget.Toml.Quote

namespace JitTarget.Toml

/-! ## §1. Digits. -/

/-- The further digits of a run, without the underscores between them. -/
def moreDigits (isDigit : Char → Bool) : List Char → List Char × List Char
  | [] => ([], [])
  | '_' :: c :: r =>
      if isDigit c then
        let (ds, rest) := moreDigits isDigit r
        (c :: ds, rest)
      else ([], '_' :: c :: r)
  | c :: r =>
      if isDigit c then
        let (ds, rest) := moreDigits isDigit r
        (c :: ds, rest)
      else ([], c :: r)

/-- A run of at least one digit. -/
def digitRun? (isDigit : Char → Bool) : Reader (List Char)
  | [] => none
  | c :: r =>
      if isDigit c then
        let (ds, rest) := moreDigits isDigit r
        some (c :: ds, rest)
      else none

/-- The number that digits spell in a base. -/
def digitsValue (base : Nat) (ds : List Char) : Nat :=
  ds.foldl (fun n c => n * base + (hexDigit? c).getD 0) 0

/-- Whether a character is a digit of a base. -/
def isDigitOf (base : Nat) (c : Char) : Bool :=
  (hexDigit? c).any (· < base)

/-! ## §2. Integers. -/

/-- An integer that 64 bits hold. -/
def ofInt? (n : Int) : Option Atom :=
  if -(2 ^ 63) ≤ n ∧ n < 2 ^ 63 then some (.integer n) else none

/-- An integer behind the letter that names its base; it has no sign. -/
def basedInteger? (base : Nat) (cs : List Char) : Option (Atom × List Char) := do
  let (ds, r) ← digitRun? (isDigitOf base) cs
  let v ← ofInt? (digitsValue base ds)
  return (v, r)

/-! ## §3. Decimals. -/

/-- The integer part: a zero alone, or digits that start with another. -/
def wholePart? : Reader (List Char)
  | '0' :: r => some (['0'], r)
  | cs => digitRun? (isDigitOf 10) cs

/-- The decimal places, if a point follows. -/
def fraction? : Reader (Option (List Char))
  | '.' :: r => (digitRun? (isDigitOf 10) r).map (fun (ds, r) => (some ds, r))
  | cs => some (none, cs)

/-- A sign: minus is true. -/
def sign? : List Char → Option Bool × List Char
  | '+' :: r => (some false, r)
  | '-' :: r => (some true, r)
  | cs => (none, cs)

/-- The exponent, if one follows. -/
def exponent? : Reader (Option Int)
  | c :: r =>
      if c = 'e' ∨ c = 'E' then do
        let (minus, r) := sign? r
        let (ds, r) ← digitRun? (isDigitOf 10) r
        let n : Int := digitsValue 10 ds
        return (some (if minus = some true then -n else n), r)
      else some (none, c :: r)
  | [] => some (none, [])

/-- A number with decimal places or an exponent. -/
def ofDecimal? (negative : Bool) (whole places : List Char) (exponent : Int) :
    Option Atom :=
  -- the decimal places are digits of the whole, shifted back
  match Binary64.ofDecimal negative (digitsValue 10 (whole ++ places))
      (exponent - places.length) with
  | .infinite false => none
  | x => some (.float x)

/-- A decimal behind its sign. -/
def decimal? (negative : Bool) (cs : List Char) : Option (Atom × List Char) := do
  let (whole, r) ← wholePart? cs
  let (places, r) ← fraction? r
  let (exponent, r) ← exponent? r
  let n : Int := digitsValue 10 whole
  let v ←
    if places.isNone ∧ exponent.isNone then ofInt? (if negative then -n else n)
    else ofDecimal? negative whole (places.getD []) (exponent.getD 0)
  return (v, r)

/-! ## §4. Numbers of any form. -/

/-- A number. -/
def number? (cs : List Char) : Option (Atom × List Char) :=
  match cs with
  -- a base is named before any sign
  | '0' :: 'x' :: r => basedInteger? 16 r
  | '0' :: 'o' :: r => basedInteger? 8 r
  | '0' :: 'b' :: r => basedInteger? 2 r
  | _ =>
      let (minus, r) := sign? cs
      let negative := minus.getD false
      match r with
      | 'i' :: 'n' :: 'f' :: r => some (.float (.infinite negative), r)
      | 'n' :: 'a' :: 'n' :: r => some (.float .nan, r)
      | r => decimal? negative r

end JitTarget.Toml
