/-
  JitTarget.Json.Basic
  ────────────────────────────────
  **JSON VALUES.**

  An integer is kept as such when it fits a signed or an unsigned word of 64
  bits; every other number is a floating-point number.  An object lists its
  fields; the reader keeps their keys ascending and distinct, the last of two
  equal keys winning.
-/
import JitTarget.Number.Numeral

namespace JitTarget

/-- A JSON value. -/
inductive Json where
  | null
  | bool (b : Bool)
  /-- An integer of at most 64 bits. -/
  | int (n : Int)
  /-- Any other number. -/
  | float (x : Binary64)
  | string (s : String)
  | array (items : List Json)
  | object (fields : List (String × Json))
  deriving Repr, BEq, Inhabited

namespace Json

/-- Numbers below `10^16` that are not less than `10^-5` are written without an
exponent; of two equally near decimals the one with the even last digit is
taken. -/
def numerals : NumeralStyle where
  tie := .even
  isPositional := fun lead => -5 ≤ lead && lead ≤ 15

/-- Puts a field in its place among ascending keys; it replaces a field with
the same key. -/
def insertField (key : String) (value : Json) :
    List (String × Json) → List (String × Json)
  | [] => [(key, value)]
  | (k, v) :: rest =>
      if key < k then (key, value) :: (k, v) :: rest
      else if key = k then (key, value) :: rest
      else (k, v) :: insertField key value rest

/-- The value under a key of an object; none for other values. -/
def field? (key : String) : Json → Option Json
  | .object fields => fields.lookup key
  | _ => none

end Json

end JitTarget
