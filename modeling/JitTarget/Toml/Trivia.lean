/-
  JitTarget.Toml.Trivia
  ────────────────────────────────
  **BLANKS, NEWLINES AND COMMENTS.**

  What stands between the tokens of a document.  On a line only blanks and one
  comment at its end may stand there; inside an array newlines may as well.
-/

namespace JitTarget.Toml

/-- A piece of a reader: what it read, with the characters behind it. -/
abbrev Reader (α : Type) := List Char → Option (α × List Char)

/-! ## §1. Within a line. -/

/-- Blanks are spaces and tabs. -/
def isBlank (c : Char) : Bool := c == ' ' || c == '\t'

/-- Drops the blanks at the front. -/
def skipBlanks (cs : List Char) : List Char := cs.dropWhile isBlank

/-- Whether a comment may hold a character: control characters other than the
tab are out. -/
def isCommentChar (c : Char) : Bool :=
  c == '\t' || (0x20 ≤ c.toNat && c.toNat != 0x7F)

/-- Drops a comment, if one starts here. -/
def skipComment : List Char → List Char
  | '#' :: r => r.dropWhile isCommentChar
  | cs => cs

/-! ## §2. Across lines. -/

/-- A newline, with or without a carriage return; a carriage return alone is
none. -/
def newline? : List Char → Option (List Char)
  | '\n' :: r => some r
  | '\r' :: '\n' :: r => some r
  | _ => none

/-- The rest of a line that holds nothing more: blanks, perhaps a comment, then
a newline or the end of the document. -/
def lineEnd? (cs : List Char) : Option (List Char) :=
  match skipComment (skipBlanks cs) with
  | [] => some []
  | r => newline? r

/-- Drops blanks, newlines and whole comments; the flag tells whether the
characters belong to a comment. -/
def skipLines : Bool → List Char → List Char
  | _, [] => []
  | _, '\n' :: r => skipLines false r
  | _, '\r' :: '\n' :: r => skipLines false r
  | false, '#' :: r => skipLines true r
  | false, c :: r => if isBlank c then skipLines false r else c :: r
  | true, c :: r => if isCommentChar c then skipLines true r else c :: r

/-- Drops everything that may stand between the tokens of an array. -/
def skipGap (cs : List Char) : List Char := skipLines false cs

end JitTarget.Toml
