/-
  JitTarget.Text.Blank
  ────────────────────────────────
  **BLANK CHARACTERS AND TRIMMING.**

  The characters with the Unicode property White_Space, and the two text
  operations that names go through before they are compared:

      trim        — drops blank characters from both ends
      lowerAscii  — folds the letters A to Z, and nothing else, to lower case
-/

namespace JitTarget.Text

/-! ## §1. The property table. -/

/-- The code points with the property White_Space, as inclusive ranges in
ascending order. -/
def blankRanges : List (Nat × Nat) :=
  [(0x09, 0x0D), (0x20, 0x20), (0x85, 0x85), (0xA0, 0xA0), (0x1680, 0x1680),
   (0x2000, 0x200A), (0x2028, 0x2029), (0x202F, 0x202F), (0x205F, 0x205F),
   (0x3000, 0x3000)]

/-- Whether a character has the property White_Space. -/
def isBlank (c : Char) : Bool :=
  blankRanges.any (fun r => r.1 ≤ c.toNat && c.toNat ≤ r.2)

/-! ## §2. Trimming and folding. -/

/-- Drops blank characters from both ends. -/
def trim (cs : List Char) : List Char :=
  ((cs.dropWhile isBlank).reverse.dropWhile isBlank).reverse

/-- Folds the letters A to Z to lower case; every other character stays. -/
def lowerAscii (cs : List Char) : List Char :=
  cs.map Char.toLower

end JitTarget.Text
