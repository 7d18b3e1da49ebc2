/-
  JitTarget.Proofs.CheckAgreement
  ────────────────────────────────
  **WHERE A CHECK AND A SHOWN PROFILE AGREE.**

  A check holds a configuration against this machine, whatever was fixed when the
  program was built; a shown profile goes by that choice where the configuration
  leaves the family open.  So a file passes the check exactly where its profile is
  shown as a supported one, unless the choice that decides is the sentinel:

      exitCode_runCheck — a file passes if it loads and does not name the sentinel
      run_show_config   — the profile that is shown from the file
      check_iff_show    — the two compared
-/
import JitTarget.Proofs.ShowPrecedence

namespace JitTarget.Command

/-! ## §1. Nothing at the empty path. -/

theorem load_empty (t : FileTree) (workingDir : Location) :
    Config.load t workingDir (Path.ofText "") = .error (.missing (Path.ofText "")) := by
  have hpath : Path.ofText "" = ⟨.bare, []⟩ := by decide
  rw [hpath]
  rfl

/-! ## §2. Checks. -/

/-- **A file passes the check** exactly where it loads and does not name the
sentinel. -/
theorem exitCode_runCheck (s : Setting) (path : Path) :
    (runCheck s path).exitCode = 0
      ↔ ∃ c, Config.load s.tree s.workingDir path = .ok c ∧ c.family ≠ some .unsupported := by
  unfold runCheck loadConfig
  cases hload : Config.load s.tree s.workingDir path with
  | error e =>
      refine iff_of_false (fun h => ?_) (fun ⟨_, h, _⟩ => nomatch h)
      exact Nat.one_ne_zero h
  | ok c =>
      have herrors : (c.validate Signals.hostIdentity).countP (fun i => i.severity == .error)
          = if c.family = some .unsupported then 1 else 0 := Config.errorCount_validate_here c
      have hwrapped : (Except.ok c).mapError
          (fun e => (⟨["loading " ++ path.toText], .load e⟩ : Failure)) = .ok c := rfl
      simp only [hwrapped, herrors, Except.ok.injEq, exists_eq_left']
      by_cases hf : c.family = some .unsupported
      · -- an error is an issue, so the list is not empty
        have hissues : (c.validate Signals.hostIdentity).isEmpty = false := by
          cases hv : c.validate Signals.hostIdentity with
          | nil =>
              rw [hv, if_pos hf] at herrors
              exact absurd herrors (by decide)
          | cons issue rest => rfl
        simp [hf, hissues, Setting.failed]
      · simp only [hf, if_false, Nat.lt_irrefl, not_false_eq_true, iff_true, ne_eq]
        split <;> rfl

theorem exitCode_check {s : Setting} {path : String} (h : IsPlain path) :
    (run s ["check", path]).exitCode = 0
      ↔ ∃ c, Config.load s.tree s.workingDir (Path.ofText path) = .ok c
          ∧ c.family ≠ some .unsupported := by
  rw [← exitCode_runCheck]
  unfold run
  rw [Request.ofArguments_check h]
  by_cases hne : path = ""
  · subst hne
    rw [if_pos rfl, exitCode_runCheck]
    simp [runRequest, misuseCode, load_empty]
  · rw [if_neg hne]
    rfl

/-! ## §3. Profiles. -/

/-- **The profile that is shown from a file**, where the file loads. -/
theorem run_show_config {s : Setting} {path : String} {c : Config} (h : IsPlain path)
    (hload : Config.load s.tree s.workingDir (Path.ofText path) = .ok c) :
    run s ["show", "--config", path]
      = s.success (unlines (profileLines
          (Profile.resolve (s.familyInForce none c) (Setting.toolchainInForce c)))) := by
  have hne : path ≠ "" := by
    rintro rfl
    exact absurd (hload.symm.trans (load_empty s.tree s.workingDir)) (by simp)
  have hconfig : configInForce s (some path) = .ok c := by
    simp only [configInForce, loadConfig, hload]
    rfl
  unfold run
  rw [Request.ofArguments_show_config h, if_neg hne]
  exact runShow_of_profile (profileInForce_eq hconfig rfl) none

/-- No profile is shown from a file that does not load. -/
theorem exitCode_show_of_unloaded {s : Setting} {path : String} {e : Config.LoadError}
    (h : IsPlain path) (hload : Config.load s.tree s.workingDir (Path.ofText path) = .error e) :
    (run s ["show", "--config", path]).exitCode ≠ 0 := by
  unfold run
  rw [Request.ofArguments_show_config h]
  by_cases hne : path = ""
  · rw [if_pos hne]
    show misuseCode ≠ 0
    decide
  · have hconfig : configInForce s (some path)
        = .error ⟨["loading " ++ (Path.ofText path).toText], .load e⟩ := by
      simp only [configInForce, loadConfig, hload]
      rfl
    have hprofile : profileInForce s none (some path)
        = .error ⟨["loading " ++ (Path.ofText path).toText], .load e⟩ :=
      profileInForce_of_unloaded hconfig
    have hshow := runShow_of_failure hprofile none
    rw [if_neg hne]
    show (runShow s none (some path) none).exitCode ≠ 0
    rw [hshow]
    exact Nat.one_ne_zero

/-- **A profile shown from a file is a supported one** exactly where the file loads
and the family in force is. -/
theorem showsSupported_iff {s : Setting} {path : String} (h : IsPlain path) :
    s.ShowsSupported ["show", "--config", path]
      ↔ ∃ c, Config.load s.tree s.workingDir (Path.ofText path) = .ok c
          ∧ (s.familyInForce none c).isSupported = true := by
  cases hload : Config.load s.tree s.workingDir (Path.ofText path) with
  | error e =>
      have hfails := exitCode_show_of_unloaded h hload
      simp only [reduceCtorEq, false_and, exists_false, iff_false]
      rintro ⟨f, t, -, hrun⟩
      rw [hrun] at hfails
      exact hfails rfl
  | ok c =>
      have hshown := run_show_config h hload
      simp only [Except.ok.injEq, exists_eq_left']
      constructor
      · rintro ⟨f, t, hf, hrun⟩
        -- the text tells the family, so it is the one in force
        have htext : unlines (profileLines (Profile.resolve (s.familyInForce none c)
              (Setting.toolchainInForce c)))
            = unlines (profileLines (Profile.resolve f t)) :=
          congrArg Outcome.stdout (hshown.symm.trans hrun)
        have hfamily := family_eq_of_profileLines htext
        simp only [Profile.resolve] at hfamily
        rw [hfamily]
        exact hf
      · intro hf
        exact ⟨_, _, hf, hshown⟩

/-! ## §4. The comparison. -/

/-- The family in force is the sentinel where the configuration names it, or leaves
the choice to an override that comes to it. -/
theorem familyInForce_eq_unsupported_iff (s : Setting) (c : Config) :
    s.familyInForce none c = .unsupported
      ↔ c.family = some .unsupported
        ∨ (c.family = none ∧ ∃ text, s.override = some text
            ∧ (Family.ofText? text = none ∨ Family.ofText? text = some .unsupported)) := by
  unfold Setting.familyInForce
  cases c.family with
  | some f => simp
  | none =>
      cases s.override with
      | none => simp
      | some text => cases hf : Family.ofText? text <;> simp [hf]

theorem isSupported_iff (f : Family) : f.isSupported = true ↔ f ≠ .unsupported := by
  cases f <;> simp [Family.isSupported]

/-- **A CHECK AND A SHOWN PROFILE AGREE** on every file, in every setting, unless
the file leaves the family to an override that comes to the sentinel; then the
file passes the check, and the profile that is shown is the unsupported one. -/
theorem check_iff_show (s : Setting) (path : String) (hplain : IsPlain path) :
    (¬ s.LeftToOverride (Path.ofText path) →
        ((run s ["check", path]).exitCode = 0
          ↔ s.ShowsSupported ["show", "--config", path]))
      ∧ (s.LeftToOverride (Path.ofText path) →
          (run s ["check", path]).exitCode = 0
            ∧ ¬ s.ShowsSupported ["show", "--config", path]
            ∧ ∃ c, Config.load s.tree s.workingDir (Path.ofText path) = .ok c
              ∧ run s ["show", "--config", path]
                = s.success (unlines (profileLines
                    (Profile.resolve .unsupported (Setting.toolchainInForce c))))) := by
  rw [exitCode_check hplain, showsSupported_iff hplain]
  constructor
  · intro hown
    refine exists_congr (fun c => and_congr_right (fun hload => ?_))
    rw [isSupported_iff, ne_eq, ne_eq, familyInForce_eq_unsupported_iff, not_or]
    refine ⟨fun hf => ⟨hf, fun hleft => hown ⟨⟨c, hload, hleft.1⟩, hleft.2⟩⟩, fun hboth => hboth.1⟩
  · rintro ⟨⟨c, hload, hopen⟩, hoverride⟩
    have hsentinel : s.familyInForce none c = .unsupported :=
      (familyInForce_eq_unsupported_iff s c).mpr (Or.inr ⟨hopen, hoverride⟩)
    refine ⟨⟨c, hload, by rw [hopen]; simp⟩, ?_, c, hload, ?_⟩
    · rintro ⟨c', hload', hsupported⟩
      obtain rfl : c = c' := Except.ok.inj (hload.symm.trans hload')
      rw [hsentinel] at hsupported
      exact absurd hsupported (by decide)
    · rw [run_show_config hplain hload, hsentinel]

/-- A file that names its family is shown as it is checked, and one that leaves it
open is shown as unsupported, where what was fixed when the program was built names
no family. -/
theorem check_iff_show_named :
    let tree : FileTree :=
      ⟨⟨[(["p.toml"], .file "[target]\nfamily = \"ppc-64\"\n".toUTF8),
        (["q.toml"], .file "".toUTF8)]⟩⟩
    let s : Setting := ⟨tree, [], some "sparc", true⟩
    (IsPlain "p.toml" ∧ ¬ s.LeftToOverride (Path.ofText "p.toml")
        ∧ (run s ["check", "p.toml"]).exitCode = 0
        ∧ s.ShowsSupported ["show", "--config", "p.toml"])
      ∧ IsPlain "q.toml" ∧ s.LeftToOverride (Path.ofText "q.toml")
        ∧ (run s ["check", "q.toml"]).exitCode = 0
        ∧ run s ["show", "--config", "q.toml"]
          = s.success (unlines (profileLines
              (Profile.resolve .unsupported Toolchain.standard))) := by
  intro tree s
  have hp : IsPlain "p.toml" := by decide
  have hq : IsPlain "q.toml" := by decide
  have hnamed : Config.load s.tree s.workingDir (Path.ofText "p.toml")
      = .ok { family := some .ppc64 } := by decide +kernel
  have hopen : Config.load s.tree s.workingDir (Path.ofText "q.toml") = .ok {} := by
    decide +kernel
  have hown : ¬ s.LeftToOverride (Path.ofText "p.toml") := by
    rintro ⟨⟨c, hload, hfamily⟩, -⟩
    obtain rfl := Except.ok.inj (hnamed.symm.trans hload)
    exact absurd hfamily (by decide)
  have hleft : s.LeftToOverride (Path.ofText "q.toml") :=
    ⟨⟨{}, hopen, rfl⟩, "sparc", rfl, Or.inl (by decide +kernel)⟩
  have hcheck : (run s ["check", "p.toml"]).exitCode = 0 := by decide +kernel
  obtain ⟨hpasses, -, c, hload, hshown⟩ := (check_iff_show s "q.toml" hq).2 hleft
  obtain rfl := Except.ok.inj (hopen.symm.trans hload)
  exact ⟨⟨hp, hown, hcheck, ((check_iff_show s "p.toml" hp).1 hown).mp hcheck⟩,
    hq, hleft, hpasses, hshown⟩

/-- An empty file passes the check and is shown as an unsupported profile, where what
was fixed when the program was built names no family. -/
theorem check_ignores_override :
    let s : Setting := ⟨⟨⟨[(["p.toml"], .file "".toUTF8)]⟩⟩, [], some "sparc", true⟩
    IsPlain "p.toml"
      ∧ ¬ ((run s ["check", "p.toml"]).exitCode = 0
        ↔ s.ShowsSupported ["show", "--config", "p.toml"]) := by
  intro s
  have hplain : IsPlain "p.toml" := by decide
  have hopen : Config.load s.tree s.workingDir (Path.ofText "p.toml") = .ok {} := by
    decide +kernel
  have hcheck : (run s ["check", "p.toml"]).exitCode = 0 := by decide +kernel
  refine ⟨hplain, fun hagree => ?_⟩
  obtain ⟨c, hload, hsupported⟩ := (showsSupported_iff hplain).mp (hagree.mp hcheck)
  obtain rfl := Except.ok.inj (hopen.symm.trans hload)
  have hsentinel : s.familyInForce none {} = .unsupported :=
    (familyInForce_eq_unsupported_iff s {}).mpr
      (Or.inr ⟨rfl, "sparc", rfl, Or.inl (by decide +kernel)⟩)
  rw [hsentinel] at hsupported
  exact absurd hsupported (by decide)

end JitTarget.Command
