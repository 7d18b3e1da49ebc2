/-
  JitTarget.Text.Excerpt
  ────────────────────────────────
  **PASSAGES SHOWN IN THEIR LINES.**

  A message about a passage of a text shows the line the passage starts on, with
  the line's number beside it and a row of carets below:

      2 | family = "vax"
        |          ^^^^^

  Lines end at newlines alone.  Columns are characters and widths are bytes; the
  row of carets has one caret at least.
-/

namespace JitTarget.Text

/-- A passage with the line it starts on. -/
structure Excerpt where
  /-- The number of lines before this one. -/
  line : Nat
  /-- The number of characters on the line before the passage. -/
  column : Nat
  /-- The whole line. -/
  content : String
  /-- The number of bytes in the passage. -/
  width : Nat
  deriving Repr, DecidableEq

namespace Excerpt

/-- The end of a text, from its last line's first character on. -/
def lastLine (cs : List Char) : List Char :=
  (cs.reverse.takeWhile (· != '\n')).reverse

/-- The excerpt for a passage, with what stands before and behind it. -/
def ofParts (before passage after : List Char) : Excerpt where
  line := before.count '\n'
  column := (lastLine before).length
  content := String.ofList (lastLine before ++ (passage ++ after).takeWhile (· != '\n'))
  width := (String.ofList passage).utf8ByteSize

/-- A number of equal characters. -/
def run (c : Char) (count : Nat) : String := String.ofList (List.replicate count c)

/-- The line's number, as people count. -/
def lineNumber (e : Excerpt) : String := toString (e.line + 1)

/-- What stands to the left of the carets. -/
def margin (e : Excerpt) : String := run ' ' (e.lineNumber.length + 1) ++ "|"

/-- The carets go on to the end of the line at most. -/
def carets (e : Excerpt) : String :=
  run '^' (max 1 (min e.width (e.content.utf8ByteSize - e.column)))

/-- Where the passage starts, in words. -/
def position (e : Excerpt) : String :=
  "line " ++ e.lineNumber ++ ", column " ++ toString (e.column + 1)

/-- **The excerpt as lines of text.** -/
def lines (e : Excerpt) : List String :=
  [e.margin,
   e.lineNumber ++ " | " ++ e.content,
   e.margin ++ run ' ' (e.column + 1) ++ e.carets]

end Excerpt

end JitTarget.Text
