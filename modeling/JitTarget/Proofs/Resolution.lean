/-
  JitTarget.Proofs.Resolution
  ────────────────────────────────
  **CONFIGURATIONS ON THIS MACHINE.**

  This machine is 64-bit x86.  A configuration on top of it selects the family it
  names, or else the one fixed when the program was built, or else this
  machine's; and the one error a check of it can find is that the sentinel was
  named.  The text of a profile tells its family.

      resolve_host                — the profile a configuration selects here
      errorCount_validate_here    — the errors of a configuration here
      family_eq_of_profileLines   — two profiles with one text have one family
-/
import JitTarget.Command.Report

namespace JitTarget

/-! ## §1. Detection. -/

/-- A family that was asked for is detected; without one it is 64-bit x86. -/
theorem Signals.detect_here (explicit : Option Family) :
    Signals.detect { Signals.hostIdentity with explicit := explicit }
      = explicit.getD .x86_64 := by
  cases explicit with
  | none => decide
  | some f => rfl

/-! ## §2. Resolution. -/

/-- Without a configuration the family is the one fixed when the program was built,
or else this machine's. -/
theorem Profile.host_eq (override : Option String) :
    Profile.host override
      = Profile.resolve ((Signals.overrideFamily override).getD .x86_64) Toolchain.standard :=
  congrArg (Profile.resolve · Toolchain.standard)
    (Signals.detect_here (Signals.overrideFamily override))

namespace Config

/-- **The profile a configuration selects here.** -/
theorem resolve_host (c : Config) (override : Option String) :
    c.resolve (Signals.host override)
      = Profile.resolve ((c.family <|> Signals.overrideFamily override).getD .x86_64)
          ⟨c.fastcall.getD true⟩ := by
  have hdetect := Signals.detect_here (c.family <|> Signals.overrideFamily override)
  exact congrArg (Profile.resolve · c.toolchain) hdetect

/-! ## §3. Validation. -/

/-- The number of errors among some issues. -/
def errorCount (issues : List Issue) : Nat := issues.countP (fun i => i.severity == .error)

/-- Toolchain settings never clash with the convention of 64-bit x86. -/
theorem conventionIssues_here (c : Config) : c.conventionIssues Signals.hostIdentity = [] := by
  have hnative : nativeFamily Signals.hostIdentity = .x86_64 := by decide
  unfold conventionIssues
  simp only [hnative]
  split
  next => rfl
  next => rfl

/-- The sentinel named by a configuration is an error; any other choice leaves a
supported family. -/
theorem supportIssues_here (c : Config) :
    c.supportIssues Signals.hostIdentity
      = if c.family = some .unsupported then [.sentinelChosen] else [] := by
  have hdetect : (c.apply Signals.hostIdentity).detect = c.family.getD .x86_64 := by
    have h : (c.apply Signals.hostIdentity).detect = (c.family <|> none).getD .x86_64 :=
      Signals.detect_here (c.family <|> none)
    rw [h]
    cases c.family <;> rfl
  unfold supportIssues
  rw [hdetect]
  cases hf : c.family with
  | none => rfl
  | some f => cases f <;> rfl

/-- **The errors of a configuration here**: the sentinel, if it names that. -/
theorem errorCount_validate_here (c : Config) :
    errorCount (c.validate Signals.hostIdentity)
      = if c.family = some .unsupported then 1 else 0 := by
  -- what these two rules find are warnings
  have hfastcall : errorCount (c.fastcallIssues Signals.hostIdentity) = 0 := by
    unfold fastcallIssues
    simp only
    split <;> rfl
  have hforeign : errorCount (c.foreignIssues Signals.hostIdentity) = 0 := by
    unfold foreignIssues
    simp only
    split <;> rfl
  unfold errorCount at *
  unfold validate
  rw [List.countP_append, List.countP_append, List.countP_append, hfastcall, hforeign,
      conventionIssues_here, supportIssues_here]
  split <;> rfl

end Config

namespace Command

/-! ## §4. Texts. -/

theorem toList_unlines_cons (line : String) (rest : List String) :
    (unlines (line :: rest)).toList = line.toList ++ '\n' :: (unlines rest).toList := by
  simp [unlines, String.join_cons]

/-- The word behind the first twelve characters of a text. -/
private def wordBehindLead (text : String) : List Char :=
  (text.toList.drop 12).takeWhile (· != ' ')

/-- In the text of a profile that word is the family's name. -/
private theorem wordBehindLead_profileLines (p : Profile) :
    wordBehindLead (unlines (profileLines p)) = p.family.name.toList := by
  have hlead : (unlines (profileLines p)).toList.drop 12
      = p.family.name.toList ++ ' ' :: ("===".toList
          ++ '\n' :: (unlines (profileLines p).tail).toList) := by
    show (unlines (("=== Target: " ++ p.family.name ++ " ===")
        :: (profileLines p).tail)).toList.drop 12 = _
    rw [toList_unlines_cons]
    simp
  unfold wordBehindLead
  rw [hlead]
  cases p.family <;> simp [Family.name]

/-- **The text of a profile tells its family.** -/
theorem family_eq_of_profileLines {p q : Profile}
    (h : unlines (profileLines p) = unlines (profileLines q)) : p.family = q.family := by
  have hname : p.family.name = q.family.name := by
    rw [← String.toList_inj, ← wordBehindLead_profileLines, ← wordBehindLead_profileLines, h]
  exact Named.name_injective p.family q.family hname

end Command

end JitTarget
