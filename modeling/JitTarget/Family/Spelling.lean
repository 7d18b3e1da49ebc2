/-
  JitTarget.Family.Spelling
  ────────────────────────────────
  **HOW THE NAME OF A FAMILY MAY BE SPELLED.**

  People write a family's name in either case and with blank characters around it.
  Which texts name a family is said here without trimming and folding them:

      SameLetter   — a character in either case
      SameLetters  — a text in either case
      Spelling     — a text that names a family
-/
import Mathlib.Data.List.Forall2
import JitTarget.Family

namespace JitTarget

namespace Text

/-! ## §1. Either case. -/

/-- The letters from A to Z, each with its small form. -/
def letterCases : List (Char × Char) :=
  "ABCDEFGHIJKLMNOPQRSTUVWXYZ".toList.zip "abcdefghijklmnopqrstuvwxyz".toList

/-- **Two characters are one letter**: they are the same, or the two cases of a letter
from A to Z. -/
inductive SameLetter : Char → Char → Prop where
  | same (c : Char) : SameLetter c c
  | capital {c d : Char} (h : (c, d) ∈ letterCases) : SameLetter c d
  | small {c d : Char} (h : (d, c) ∈ letterCases) : SameLetter c d

/-- Two texts are the same, letter by letter. -/
def SameLetters (s t : String) : Prop := List.Forall₂ SameLetter s.toList t.toList

/-- A text of blank characters alone, perhaps of none. -/
def IsBlankText (s : String) : Prop := ∀ c ∈ s.toList, isBlank c = true

end Text

/-! ## §2. Spellings. -/

open Text

/-- **A text names a family**: it is the canonical name in either case, between
blank characters. -/
inductive Family.Spelling (f : Family) : String → Prop where
  | padded {front word back : String} (hfront : IsBlankText front)
      (hword : SameLetters word f.name) (hback : IsBlankText back) :
      Spelling f (front ++ word ++ back)

end JitTarget
