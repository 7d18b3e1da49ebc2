/-
  JitTarget.Json.Printer
  ────────────────────────────────
  **COMPACT JSON TEXT.**

  A value on one line, without blanks.  In a string the quote, the backslash
  and the characters below the space are escaped; everything else stands as
  itself.
-/
import JitTarget.Json.Basic

namespace JitTarget.Json

/-! ## §1. Strings. -/

/-- One digit in base sixteen, in lower case. -/
def hexDigit (n : Nat) : Char := (n % 16).digitChar

/-- One character of a string. -/
def escapeChar (c : Char) : List Char :=
  if c = '"' then ['\\', '"']
  else if c = '\\' then ['\\', '\\']
  else if c = '\n' then ['\\', 'n']
  else if c = '\r' then ['\\', 'r']
  else if c = '\t' then ['\\', 't']
  else if c.toNat = 8 then ['\\', 'b']
  else if c.toNat = 12 then ['\\', 'f']
  else if c.toNat < 32 then ['\\', 'u', '0', '0', hexDigit (c.toNat / 16), hexDigit c.toNat]
  else [c]

/-- A string between quotes. -/
def renderString (s : String) : String :=
  "\"" ++ String.ofList (s.toList.flatMap escapeChar) ++ "\""

/-! ## §2. Values. -/

mutual

/-- A value as compact text. -/
def render : Json → String
  | .null => "null"
  | .bool true => "true"
  | .bool false => "false"
  | .int n => toString n
  | .float x => x.numeral numerals
  | .string s => renderString s
  | .array [] => "[]"
  | .array (v :: rest) => "[" ++ render v ++ renderItems rest ++ "]"
  | .object [] => "\x7b\x7d"
  | .object ((k, v) :: rest) =>
      "\x7b" ++ renderString k ++ ":" ++ render v ++ renderFields rest ++ "\x7d"

/-- The items of an array after the first, each behind a comma. -/
def renderItems : List Json → String
  | [] => ""
  | v :: rest => "," ++ render v ++ renderItems rest

/-- The fields of an object after the first, each behind a comma. -/
def renderFields : List (String × Json) → String
  | [] => ""
  | (k, v) :: rest => "," ++ renderString k ++ ":" ++ render v ++ renderFields rest

end

end JitTarget.Json
