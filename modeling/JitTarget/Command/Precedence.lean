/-
  JitTarget.Command.Precedence
  ────────────────────────────────
  **WHAT A SHOWN PROFILE GOES BY.**

  A profile is shown from one configuration at most: the file that was asked for,
  or else the nearest file of the conventional name, or else none.  The family is
  the one asked for, or else the configuration's, or else the one fixed when the
  program was built, or else this machine's; the toolchain is the
  configuration's wherever the family came from.
-/
import JitTarget.Command.Run

namespace JitTarget.Command

namespace Setting

/-- Whether a directory has a configuration file. -/
def HasConfig (s : Setting) (d : Path) : Prop :=
  s.tree.hasFile s.workingDir (d.join Config.fileName) = true

/-- **The file a profile is shown from**, if there is one. -/
inductive Consults (s : Setting) : Option String → Option Path → Prop where
  /-- A file that was asked for counts alone. -/
  | asked (text : String) : Consults s (some text) (some (Path.ofText text))
  /-- Else the file in the first of the working directory and its ancestors that has
  one. -/
  | nearest (closer further : List Path) (d : Path)
      (hsplit : s.directory.ancestors = closer ++ d :: further)
      (hfile : s.HasConfig d) (hcloser : ∀ d' ∈ closer, ¬ s.HasConfig d') :
      Consults s none (some (d.join Config.fileName))
  /-- Else none. -/
  | nowhere (hnone : ∀ d ∈ s.directory.ancestors, ¬ s.HasConfig d) : Consults s none none

/-- The configuration in a file; an empty one where there is no file. -/
def configOf (s : Setting) : Option Path → Except Config.LoadError Config
  | some path => Config.load s.tree s.workingDir path
  | none => .ok {}

/-- **The family in force**, by precedence. A text that names no family still
counts as a choice made when the program was built: that of the sentinel. -/
def familyInForce (s : Setting) (asked : Option Family) (c : Config) : Family :=
  match asked, c.family, s.override with
  | some f, _, _ => f
  | none, some f, _ => f
  | none, none, some text => (Family.ofText? text).getD .unsupported
  | none, none, none => .x86_64

/-- The toolchain in force. -/
def toolchainInForce (c : Config) : Toolchain := ⟨c.fastcall.getD true⟩

/-- **A command line succeeds and describes a supported profile.** -/
def ShowsSupported (s : Setting) (arguments : List String) : Prop :=
  ∃ f t, f.isSupported = true
    ∧ run s arguments = s.success (unlines (profileLines (Profile.resolve f t)))

/-- The configuration at a path leaves the family open, and the choice made when
the program was built is the sentinel or names no family. -/
def LeftToOverride (s : Setting) (path : Path) : Prop :=
  (∃ c, Config.load s.tree s.workingDir path = .ok c ∧ c.family = none)
    ∧ ∃ text, s.override = some text
      ∧ (Family.ofText? text = none ∨ Family.ofText? text = some .unsupported)

end Setting

end JitTarget.Command
