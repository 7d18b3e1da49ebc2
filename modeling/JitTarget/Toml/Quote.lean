/-
  JitTarget.Toml.Quote
  ────────────────────────────────
  **STRINGS.**

  Four forms: with escapes or literal, on one line or between triple quotes.

      basic?    — a string with escapes, behind its opening quote
      literal?  — a string without, behind its opening quote
      quoted?   — a string of any form

  Each form is read character by character in a state that says what has to
  come next; the characters read so far are kept, the last first.
-/
import JitTarget.Toml.Trivia

namespace JitTarget.Toml

/-! ## §1. Escapes. -/

/-- The double quote. -/
def doubleQuote : Char := '"'

/-- The single quote. -/
def singleQuote : Char := '\x27'

/-- The character a short escape stands for. -/
def shortEscape? : Char → Option Char
  | 'b' => some '\x08'
  | 't' => some '\t'
  | 'n' => some '\n'
  | 'f' => some '\x0c'
  | 'r' => some '\r'
  | '"' => some '"'
  | '\\' => some '\\'
  | _ => none

/-- The value of a digit in base sixteen. -/
def hexDigit? (c : Char) : Option Nat :=
  if '0' ≤ c ∧ c ≤ '9' then some (c.toNat - '0'.toNat)
  else if 'a' ≤ c ∧ c ≤ 'f' then some (c.toNat - 'a'.toNat + 10)
  else if 'A' ≤ c ∧ c ≤ 'F' then some (c.toNat - 'A'.toNat + 10)
  else none

/-- The character with a code point; surrogates and numbers beyond the last
plane stand for none. -/
def scalar? (n : Nat) : Option Char :=
  if n.isValidChar then some (Char.ofNat n) else none

/-! ## §2. Strings on one line. -/

/-- Where the reader of a string with escapes stands. -/
inductive EscapeState where
  /-- Between characters. -/
  | plain
  /-- Behind a backslash. -/
  | escape
  /-- In a code point: the digits still owed and the value so far. -/
  | codePoint (owed value : Nat)
  deriving Repr, DecidableEq

/-- Whether a string may hold a character as it is: control characters other
than the tab are out. -/
def isStringChar (c : Char) : Bool := isCommentChar c

/-- The rest of a string with escapes. -/
def basicBody? : EscapeState → List Char → Reader String
  | .plain, done, '"' :: r => some (String.ofList done.reverse, r)
  | .plain, done, '\\' :: r => basicBody? .escape done r
  | .plain, done, c :: r => if isStringChar c then basicBody? .plain (c :: done) r else none
  | .escape, done, 'u' :: r => basicBody? (.codePoint 4 0) done r
  | .escape, done, 'U' :: r => basicBody? (.codePoint 8 0) done r
  | .escape, done, c :: r =>
      match shortEscape? c with
      | some e => basicBody? .plain (e :: done) r
      | none => none
  | .codePoint owed value, done, c :: r =>
      match hexDigit? c with
      | none => none
      | some d =>
          if owed ≤ 1 then
            match scalar? (value * 16 + d) with
            | some e => basicBody? .plain (e :: done) r
            | none => none
          else basicBody? (.codePoint (owed - 1) (value * 16 + d)) done r
  | _, _, [] => none

/-- A string with escapes, behind its opening quote. -/
def basic? : Reader String := basicBody? .plain []

/-- A literal string, behind its opening quote. -/
def literal? (cs : List Char) : Option (String × List Char) :=
  match cs.span (fun c => isStringChar c && c != singleQuote) with
  | (body, c :: r) => if c = singleQuote then some (String.ofList body, r) else none
  | (_, []) => none

/-! ## §3. Strings on many lines. -/

/-- Drops a newline right behind the opening quotes. -/
def trimNewline (cs : List Char) : List Char := (newline? cs).getD cs

/-- Where the reader of a string between triple quotes stands. -/
inductive LinesState where
  /-- Between characters, behind a number of quotes in a row. -/
  | plain (quotes : Nat)
  /-- Behind a backslash. -/
  | escape
  /-- Behind a backslash and blanks: a newline must follow. -/
  | lineFold
  /-- Behind a folded newline: blanks and newlines do not count. -/
  | folded
  /-- In a code point: the digits still owed and the value so far. -/
  | codePoint (owed value : Nat)
  deriving Repr, DecidableEq

/-- Closes a string behind a run of quotes: three of them close it, and up to
two before these belong to it. -/
def closeLines? (quote : Char) (quotes : Nat) (done : List Char) (r : List Char) :
    Option (String × List Char) :=
  if quotes ≤ 5 then
    some (String.ofList ((done.reverse ++ List.replicate (quotes - 3) quote)), r)
  else none

/-- The characters read so far, with a run of quotes that closed nothing. -/
def withQuotes (quote : Char) (quotes : Nat) (done : List Char) : List Char :=
  List.replicate quotes quote ++ done

/-- The rest of a string with escapes between triple quotes. -/
def basicLines? : LinesState → List Char → Reader String
  -- quotes are counted until something else comes
  | .plain n, done, '"' :: r => basicLines? (.plain (n + 1)) done r
  | .plain n, done, '\\' :: r =>
      if 3 ≤ n then closeLines? doubleQuote n done ('\\' :: r)
      else basicLines? .escape (withQuotes doubleQuote n done) r
  | .plain n, done, '\r' :: '\n' :: r =>
      if 3 ≤ n then closeLines? doubleQuote n done ('\r' :: '\n' :: r)
      else basicLines? (.plain 0) ('\n' :: withQuotes doubleQuote n done) r
  | .plain n, done, c :: r =>
      if 3 ≤ n then closeLines? doubleQuote n done (c :: r)
      else if isStringChar c || c == '\n' then
        basicLines? (.plain 0) (c :: withQuotes doubleQuote n done) r
      else none
  | .plain n, done, [] => if 3 ≤ n then closeLines? doubleQuote n done [] else none
  | .escape, done, 'u' :: r => basicLines? (.codePoint 4 0) done r
  | .escape, done, 'U' :: r => basicLines? (.codePoint 8 0) done r
  -- a backslash at the end of a line folds it
  | .escape, done, '\n' :: r => basicLines? .folded done r
  | .escape, done, '\r' :: '\n' :: r => basicLines? .folded done r
  | .escape, done, c :: r =>
      if isBlank c then basicLines? .lineFold done r
      else
        match shortEscape? c with
        | some e => basicLines? (.plain 0) (e :: done) r
        | none => none
  | .lineFold, done, '\n' :: r => basicLines? .folded done r
  | .lineFold, done, '\r' :: '\n' :: r => basicLines? .folded done r
  | .lineFold, done, c :: r => if isBlank c then basicLines? .lineFold done r else none
  | .folded, done, '\n' :: r => basicLines? .folded done r
  | .folded, done, '\r' :: '\n' :: r => basicLines? .folded done r
  -- the first character that counts again
  | .folded, done, '"' :: r => basicLines? (.plain 1) done r
  | .folded, done, '\\' :: r => basicLines? .escape done r
  | .folded, done, c :: r =>
      if isBlank c then basicLines? .folded done r
      else if isStringChar c then basicLines? (.plain 0) (c :: done) r
      else none
  | .codePoint owed value, done, c :: r =>
      match hexDigit? c with
      | none => none
      | some d =>
          if owed ≤ 1 then
            match scalar? (value * 16 + d) with
            | some e => basicLines? (.plain 0) (e :: done) r
            | none => none
          else basicLines? (.codePoint (owed - 1) (value * 16 + d)) done r
  | _, _, [] => none

/-- The rest of a literal string between triple quotes, behind a number of
quotes in a row. -/
def literalLines? : Nat → List Char → Reader String
  | n, done, '\r' :: '\n' :: r =>
      if 3 ≤ n then closeLines? singleQuote n done ('\r' :: '\n' :: r)
      else literalLines? 0 ('\n' :: withQuotes singleQuote n done) r
  | n, done, c :: r =>
      if c = singleQuote then literalLines? (n + 1) done r
      else if 3 ≤ n then closeLines? singleQuote n done (c :: r)
      else if isStringChar c || c == '\n' then
        literalLines? 0 (c :: withQuotes singleQuote n done) r
      else none
  | n, done, [] => if 3 ≤ n then closeLines? singleQuote n done [] else none

/-! ## §4. Strings of any form. -/

/-- A string of any form, from its first quote on. -/
def quoted? : Reader String
  | '"' :: '"' :: '"' :: r => basicLines? (.plain 0) [] (trimNewline r)
  | '"' :: r => basic? r
  | '\x27' :: '\x27' :: '\x27' :: r => literalLines? 0 [] (trimNewline r)
  | '\x27' :: r => literal? r
  | _ => none

end JitTarget.Toml
