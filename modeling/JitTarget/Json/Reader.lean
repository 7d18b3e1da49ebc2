/-
  JitTarget.Json.Reader
  ────────────────────────────────
  **READING JSON TEXT.**

  Every reader takes the characters that are left and gives its value together
  with the characters after it, or nothing.  Values nest, so their reader
  carries a bound on the steps left; the length of the text is always enough,
  since every step takes at least one character.

      parse?  — the one value a text holds
-/
import JitTarget.Json.Basic

namespace JitTarget.Json

/-! ## §1. Blanks, digits and numbers. -/

/-- Drops the blanks JSON allows between tokens. -/
def skipSpace (cs : List Char) : List Char :=
  cs.dropWhile (fun c => c == ' ' || c == '\n' || c == '\r' || c == '\t')

/-- The digits at the front and the rest. -/
def spanDigits (cs : List Char) : List Char × List Char :=
  cs.span Char.isDigit

/-- The integer part of a number: a zero alone, or digits that start with
another. -/
def integerPart? : List Char → Option (List Char × List Char)
  | '0' :: r => some (['0'], r)
  | cs =>
      match spanDigits cs with
      | ([], _) => none
      | (ds, r) => some (ds, r)

/-- The decimal places of a number, if a point follows. -/
def fraction? : List Char → Option (List Char × List Char)
  | '.' :: r =>
      match spanDigits r with
      | ([], _) => none
      | (ds, r) => some (ds, r)
  | cs => some ([], cs)

/-- The exponent of a number, if one follows. -/
def exponent? : List Char → Option (Option Int × List Char)
  | c :: r =>
      if c = 'e' ∨ c = 'E' then
        let (negative, r) :=
          match r with
          | '-' :: r => (true, r)
          | '+' :: r => (false, r)
          | r => (false, r)
        match spanDigits r with
        | ([], _) => none
        | (ds, r) =>
            let n : Int := (Nat.ofDigitChars 10 ds 0 : Nat)
            some (some (if negative then -n else n), r)
      else some (none, c :: r)
  | [] => some (none, [])

/-- Adds digits to a number as long as 64 bits hold it; the digits that are left
over come second. -/
def takeWord (word : Nat) : List Char → Nat × List Char
  | [] => (word, [])
  | c :: r =>
      let longer := word * 10 + (c.toNat - '0'.toNat)
      if longer < 2 ^ 64 then takeWord longer r else (word, c :: r)

/-- An integer of 64 bits as a value: a signed or an unsigned word holds it, or
it becomes a floating-point number, as does minus zero. -/
def integer (negative : Bool) (word : Nat) : Json :=
  if negative then
    if word ≠ 0 ∧ word ≤ 2 ^ 63 then .int (-word)
    else .float (Binary64.ofRatio true word 1)
  else .int word

/-- A word of 64 bits times a power of ten, if the result is not too great. Word
and power are rounded before their product is, so the result may be a
neighbour of the nearest number; this is how JSON numbers are read. -/
def scaled? (negative : Bool) (word : Nat) (exponent : Int) : Option Binary64 :=
  let x := Binary64.ofRatio negative word 1
  if word = 0 then some x
  else if 308 < exponent then none
  else
    let y :=
      -- the greatest power to divide by is 10^308; two such steps leave nothing
      if exponent < -616 then Binary64.zero negative
      else if exponent < -308 then (x.scale (-308)).scale (exponent + 308)
      else x.scale exponent
    match y with
    | .infinite _ => none
    | y => some y

/-- The value of a number with these digits. The digits make a word of 64 bits;
those it cannot hold only count as places. -/
def ofDigits? (negative : Bool) (whole places : List Char) (exponent : Option Int) :
    Option Json :=
  let (word, dropped) := takeWord 0 whole
  if places.isEmpty && exponent.isNone && dropped.isEmpty then
    some (integer negative word)
  else
    let (word, beyond) := takeWord word places
    let kept : Int := places.length - beyond.length
    (scaled? negative word (exponent.getD 0 + dropped.length - kept)).map .float

/-- A number behind its sign. -/
def unsigned? (negative : Bool) (cs : List Char) : Option (Json × List Char) := do
  let (whole, r) ← integerPart? cs
  let (places, r) ← fraction? r
  let (exponent, r) ← exponent? r
  let v ← ofDigits? negative whole places exponent
  return (v, r)

/-- A number. -/
def number? : List Char → Option (Json × List Char)
  | '-' :: r => unsigned? true r
  | cs => unsigned? false cs

/-! ## §2. Strings. -/

/-- The value of a digit in base sixteen. -/
def hexValue? (c : Char) : Option Nat :=
  if c.isDigit then some (c.toNat - '0'.toNat)
  else if 'a' ≤ c ∧ c ≤ 'f' then some (c.toNat - 'a'.toNat + 10)
  else if 'A' ≤ c ∧ c ≤ 'F' then some (c.toNat - 'A'.toNat + 10)
  else none

/-- Where the reader stands inside a string. -/
inductive StringState where
  /-- Between characters. -/
  | plain
  /-- Behind a backslash; a first half of a pair may be waiting. -/
  | escape (high : Option Nat)
  /-- Inside a code unit: digits still owed, the value so far, and the first
  half of a pair that may be waiting. -/
  | unit (owed value : Nat) (high : Option Nat)
  /-- Behind the first half of a pair: an escape must follow. -/
  | paired (high : Nat)
  deriving Repr, DecidableEq

/-- The character of a short escape. -/
def shortEscape? : Char → Option Char
  | '"' => some '"'
  | '\\' => some '\\'
  | '/' => some '/'
  | 'b' => some '\x08'
  | 'f' => some '\x0c'
  | 'n' => some '\n'
  | 'r' => some '\r'
  | 't' => some '\t'
  | _ => none

/-- The state after a whole code unit, and the character it completes. -/
def closeUnit? (unit : Nat) (high : Option Nat) : Option (StringState × List Char) :=
  match high with
  | some h =>
      if 0xDC00 ≤ unit ∧ unit ≤ 0xDFFF then
        some (.plain, [Char.ofNat (0x10000 + (h - 0xD800) * 0x400 + (unit - 0xDC00))])
      else none
  | none =>
      if 0xD800 ≤ unit ∧ unit ≤ 0xDBFF then some (.paired unit, [])
      else if 0xDC00 ≤ unit ∧ unit ≤ 0xDFFF then none
      else some (.plain, [Char.ofNat unit])

/-- The rest of a string behind its opening quote; `done` holds the characters
read so far, the last first. -/
def stringBody? : StringState → List Char → List Char → Option (List Char × List Char)
  | .plain, done, '"' :: r => some (done.reverse, r)
  | .plain, done, '\\' :: r => stringBody? (.escape none) done r
  | .plain, done, c :: r => if c.toNat < 32 then none else stringBody? .plain (c :: done) r
  -- behind a first half only another code unit will do
  | .escape high, done, 'u' :: r => stringBody? (.unit 4 0 high) done r
  | .escape none, done, c :: r =>
      match shortEscape? c with
      | some e => stringBody? .plain (e :: done) r
      | none => none
  | .unit owed value high, done, c :: r =>
      match hexValue? c with
      | none => none
      | some d =>
          if owed ≤ 1 then
            match closeUnit? (value * 16 + d) high with
            | some (state, cs) => stringBody? state (cs ++ done) r
            | none => none
          else stringBody? (.unit (owed - 1) (value * 16 + d) high) done r
  | .paired high, done, '\\' :: r => stringBody? (.escape (some high)) done r
  | _, _, _ => none

/-- A string behind its opening quote. -/
def string? (cs : List Char) : Option (String × List Char) :=
  (stringBody? .plain [] cs).map (fun (s, r) => (String.ofList s, r))

/-! ## §3. Values. -/

mutual

/-- A value, with blanks before it. -/
def value? : Nat → List Char → Option (Json × List Char)
  | 0, _ => none
  | n + 1, cs =>
      match skipSpace cs with
      | 'n' :: 'u' :: 'l' :: 'l' :: r => some (.null, r)
      | 't' :: 'r' :: 'u' :: 'e' :: r => some (.bool true, r)
      | 'f' :: 'a' :: 'l' :: 's' :: 'e' :: r => some (.bool false, r)
      | '"' :: r => (string? r).map (fun (s, r) => (.string s, r))
      | '[' :: r =>
          match skipSpace r with
          | ']' :: r => some (.array [], r)
          | r => (items? n r).map (fun (vs, r) => (.array vs, r))
      | '\x7b' :: r =>
          match skipSpace r with
          | '\x7d' :: r => some (.object [], r)
          | r => (fields? n r).map (fun (fs, r) => (.object fs, r))
      | r => number? r

/-- The items of an array, up to its closing bracket. -/
def items? : Nat → List Char → Option (List Json × List Char)
  | 0, _ => none
  | n + 1, cs =>
      match value? n cs with
      | none => none
      | some (v, r) =>
          match skipSpace r with
          | ',' :: r => (items? n r).map (fun (vs, r) => (v :: vs, r))
          | ']' :: r => some ([v], r)
          | _ => none

/-- The fields of an object, up to its closing brace, with ascending keys; of
two equal keys the later one is kept. -/
def fields? : Nat → List Char → Option (List (String × Json) × List Char)
  | 0, _ => none
  | n + 1, cs =>
      match skipSpace cs with
      | '"' :: r =>
          match string? r with
          | none => none
          | some (k, r) =>
              match skipSpace r with
              | ':' :: r =>
                  match value? n r with
                  | none => none
                  | some (v, r) =>
                      match skipSpace r with
                      | ',' :: r => (fields? n r).map (fun (fs, r) => (addField k v fs, r))
                      | '\x7d' :: r => some ([(k, v)], r)
                      | _ => none
              | _ => none
      | _ => none

/-- Adds a field before later ones, which win over it. -/
def addField (key : String) (value : Json) (later : List (String × Json)) :
    List (String × Json) :=
  if (later.lookup key).isSome then later else insertField key value later

end

/-- **The value a text holds**, with blanks around it and nothing else. -/
def parse? (s : String) : Option Json :=
  let cs := s.toList
  match value? (cs.length + 1) cs with
  | some (v, r) => if (skipSpace r).isEmpty then some v else none
  | none => none

end JitTarget.Json
