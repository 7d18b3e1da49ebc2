/-
  JitTarget.Command.Transcript
  ────────────────────────────────
  **WHAT A READER TAKES FROM THE OUTPUT.**

  Commands print text, and people and scripts read it line by line.  A value stands
  behind its label; a part of a report stands behind its heading:

      shownFamily?     — the family in the title of a profile
      profileFamily?   — the family on a report's profile line
      verdict?         — what a report says of the configuration
      resolvedFamily?  — the family that configuration resolves to
-/
import JitTarget.Command.Report

namespace JitTarget.Command

/-! ## §1. Lines. -/

/-- The lines of a text; a newline at its end leaves an empty one. -/
def linesOf (text : String) : List String := (text.toList.splitOn '\n').map String.ofList

/-- What stands behind a label that a line starts with. -/
def behind? (label line : String) : Option String :=
  if label.toList.isPrefixOf line.toList
  then some (String.ofList (line.toList.drop label.toList.length))
  else none

/-- What stands before the end of a line. -/
def before? (ending line : String) : Option String :=
  if ending.toList.isSuffixOf line.toList
  then some (String.ofList (line.toList.take (line.toList.length - ending.toList.length)))
  else none

/-- The lines behind a heading. -/
def linesUnder (heading : String) (lines : List String) : List String :=
  (lines.dropWhile (· != heading)).drop 1

/-! ## §2. Profiles. -/

/-- **The family a profile is shown of**: it stands in the title. -/
def shownFamily? (text : String) : Option Family :=
  (linesOf text).head?.bind (behind? "=== Target: ") |>.bind (before? " ===")
    |>.bind Named.ofName?

/-! ## §3. Reports on this machine. -/

/-- What a report says of the configuration. -/
inductive Verdict where
  | found
  | absent
  | error
  deriving Repr, DecidableEq

/-- The verdict of one line. -/
def Verdict.ofLine? (line : String) : Option Verdict :=
  if line = "  jitcfg.toml: not found" then some .absent
  else if (behind? "  jitcfg.toml: found in " line).isSome then some .found
  else if (behind? "  jitcfg.toml: error: " line).isSome then some .error
  else none

/-- **What a report says of the configuration**, right under the heading. -/
def verdict? (report : String) : Option Verdict :=
  (linesUnder "--- Configuration ---" (linesOf report)).head?.bind Verdict.ofLine?

/-- **The family on the profile line.** -/
def profileFamily? (report : String) : Option Family :=
  ((linesOf report).findSome? (behind? "  Profile:  ")).bind Named.ofName?

/-- **The family a configuration resolves to.** A directory may have lines in its
name, so the last line that looks right is the one that counts. -/
def resolvedFamily? (report : String) : Option Family :=
  ((linesOf report).reverse.findSome? (behind? "  Resolves to: ")).bind Named.ofName?

end JitTarget.Command
