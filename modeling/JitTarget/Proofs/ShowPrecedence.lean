/-
  JitTarget.Proofs.ShowPrecedence
  ────────────────────────────────
  **WHICH PROFILE IS SHOWN.**

  The configuration is settled first, then the family that was asked for is read,
  then the profile is resolved, and the format is looked at last.  Each step can
  end the command, and nothing is printed then:

      configInForce_eq   — the configuration is that of the file consulted
      profileInForce_eq  — the profile is that of the family in force
      show_precedence    — what is printed, over every setting and command line
-/
import JitTarget.Command.Precedence
import JitTarget.Proofs.Arguments
import JitTarget.Proofs.Resolution

namespace JitTarget.Command

/-! ## §1. The file. -/

namespace Setting

theorem nearest?_eq_some {s : Setting} {directories : List Path} {d : Path}
    (h : Config.nearest? s.tree s.workingDir directories = some d) :
    ∃ closer further, directories = closer ++ d :: further ∧ s.HasConfig d
      ∧ ∀ d' ∈ closer, ¬ s.HasConfig d' := by
  obtain ⟨hfile, closer, further, hsplit, hcloser⟩ := List.find?_eq_some_iff_append.mp h
  exact ⟨closer, further, hsplit, hfile, fun d' hd' => by simpa [HasConfig] using hcloser d' hd'⟩

theorem nearest?_eq_none {s : Setting} {directories : List Path} :
    Config.nearest? s.tree s.workingDir directories = none
      ↔ ∀ d ∈ directories, ¬ s.HasConfig d :=
  List.find?_eq_none

theorem nearest?_of_split {s : Setting} {directories closer further : List Path} {d : Path}
    (hsplit : directories = closer ++ d :: further) (hfile : s.HasConfig d)
    (hcloser : ∀ d' ∈ closer, ¬ s.HasConfig d') :
    Config.nearest? s.tree s.workingDir directories = some d :=
  List.find?_eq_some_iff_append.mpr
    ⟨hfile, closer, further, hsplit, fun d' hd' => by simpa [HasConfig] using hcloser d' hd'⟩

/-- Some file is consulted, or none is. -/
theorem exists_consults (s : Setting) (config : Option String) :
    ∃ source, s.Consults config source := by
  cases config with
  | some text => exact ⟨_, .asked text⟩
  | none =>
      cases hn : Config.nearest? s.tree s.workingDir s.directory.ancestors with
      | none => exact ⟨none, .nowhere (nearest?_eq_none.mp hn)⟩
      | some d =>
          obtain ⟨closer, further, hsplit, hfile, hcloser⟩ := nearest?_eq_some hn
          exact ⟨_, .nearest closer further d hsplit hfile hcloser⟩

/-- One file at most is consulted. -/
theorem Consults.unique {s : Setting} {config : Option String} {source source' : Option Path}
    (h : s.Consults config source) (h' : s.Consults config source') : source = source' := by
  cases h with
  | asked text =>
      cases h'
      rfl
  | nearest closer further d hsplit hfile hcloser =>
      have hn := nearest?_of_split hsplit hfile hcloser
      cases h' with
      | nearest closer' further' d' hsplit' hfile' hcloser' =>
          rw [Option.some.inj (hn.symm.trans (nearest?_of_split hsplit' hfile' hcloser'))]
      | nowhere hnone => exact absurd (hn.symm.trans (nearest?_eq_none.mpr hnone)) (by simp)
  | nowhere hnone =>
      have hn := nearest?_eq_none.mpr hnone
      cases h' with
      | nearest closer further d hsplit hfile hcloser =>
          exact absurd (hn.symm.trans (nearest?_of_split hsplit hfile hcloser)) (by simp)
      | nowhere hnone' => rfl

/-- What a failure to load is reported within: the path, if one was asked for. -/
def loadContexts (config : Option String) : List String :=
  (config.map (fun text => "loading " ++ (Path.ofText text).toText)).toList

/-- **The configuration in force is that of the file consulted.** -/
theorem configInForce_eq {s : Setting} {config : Option String} {source : Option Path}
    (h : s.Consults config source) :
    configInForce s config
      = (s.configOf source).mapError (fun e => ⟨loadContexts config, .load e⟩) := by
  cases h with
  | asked text => rfl
  | nearest closer further d hsplit hfile hcloser =>
      have hn := nearest?_of_split hsplit hfile hcloser
      simp only [configInForce, Config.find, hn, configOf]
      cases Config.load s.tree s.workingDir (d.join Config.fileName) <;> rfl
  | nowhere hnone =>
      have hn := nearest?_eq_none.mpr hnone
      simp only [configInForce, Config.find, hn, configOf]
      rfl

end Setting

/-! ## §2. The profile. -/

theorem readFamily_of_some {text : String} {f : Family} (h : Family.ofText? text = some f) :
    readFamily text = .ok f := by
  simp only [readFamily, Family.ofText, h]
  rfl

theorem readFamily_of_none {text : String} (h : Family.ofText? text = none) :
    readFamily text
      = .error ⟨["invalid --family (see 'jitcfg families')"], .unknownFamily ⟨text⟩⟩ := by
  simp only [readFamily, Family.ofText, h]
  rfl

/-- The family in force is the one that resolution selects. -/
theorem resolve_familyInForce (s : Setting) (asked : Option Family) (c : Config) :
    Config.resolve { c with family := asked <|> c.family } (Signals.host s.override)
      = Profile.resolve (s.familyInForce asked c) (Setting.toolchainInForce c) := by
  have hfamily : ((asked <|> c.family) <|> Signals.overrideFamily s.override).getD .x86_64
      = s.familyInForce asked c := by
    unfold Setting.familyInForce
    cases asked with
    | some f => rfl
    | none =>
        cases c.family with
        | some f => rfl
        | none => cases s.override <;> simp [Signals.overrideFamily]
  rw [Config.resolve_host]
  exact congrArg (Profile.resolve · (Setting.toolchainInForce c)) hfamily

/-- **The profile in force**, where the configuration loads and a family that is
asked for is one. -/
theorem profileInForce_eq {s : Setting} {family config : Option String} {c : Config}
    {asked : Option Family} (hc : configInForce s config = .ok c)
    (hasked : family.mapM Family.ofText? = some asked) :
    profileInForce s family config
      = .ok (Profile.resolve (s.familyInForce asked c) (Setting.toolchainInForce c)) := by
  rw [← resolve_familyInForce]
  unfold profileInForce
  rw [hc]
  cases family with
  | none =>
      obtain rfl : none = asked := Option.some.inj hasked
      rfl
  | some text =>
      cases hf : Family.ofText? text with
      | none => exact absurd hasked (by simp [hf])
      | some f =>
          obtain rfl : some f = asked := by simpa [hf] using hasked
          simp only [readFamily_of_some hf]
          rfl

/-- A configuration that does not load ends the command, whatever family is asked
for. -/
theorem profileInForce_of_unloaded {s : Setting} {family config : Option String} {f : Failure}
    (hc : configInForce s config = .error f) : profileInForce s family config = .error f := by
  unfold profileInForce
  rw [hc]
  rfl

/-- A family that is asked for and is none ends the command. -/
theorem profileInForce_of_unknown {s : Setting} {config : Option String} {c : Config}
    {text : String} (hc : configInForce s config = .ok c) (hf : Family.ofText? text = none) :
    profileInForce s (some text) config
      = .error ⟨["invalid --family (see 'jitcfg families')"], .unknownFamily ⟨text⟩⟩ := by
  unfold profileInForce
  rw [hc]
  simp only [readFamily_of_none hf]
  rfl

/-! ## §3. The command. -/

theorem runShow_of_profile {s : Setting} {family config : Option String} {p : Profile}
    (h : profileInForce s family config = .ok p) (format : Option String) :
    runShow s family config format
      = match formatted format p with
        | .ok text => s.success text
        | .error f => s.failed "" f := by
  unfold runShow
  rw [h]
  rfl

theorem runShow_of_failure {s : Setting} {family config : Option String} {f : Failure}
    (h : profileInForce s family config = .error f) (format : Option String) :
    runShow s family config format = s.failed "" f := by
  unfold runShow
  rw [h]
  rfl

theorem formatted_other {other : String} (p : Profile) (hhuman : other ≠ "human")
    (htoml : other ≠ "toml") (hjson : other ≠ "json") :
    formatted (some other) p = .error ⟨[], .unknownFormat other⟩ := by
  unfold formatted
  split
  next h => exact absurd h hhuman
  next h => exact absurd h htoml
  next h => exact absurd h hjson
  next h => rfl

theorem stdout_runShow {s : Setting} {family config format : Option String}
    (h : (runShow s family config format).exitCode ≠ 0) :
    (runShow s family config format).stdout = "" := by
  unfold runShow at *
  split at *
  next => exact absurd rfl h
  next => rfl

/-- What the arguments behind the command's name can come to. -/
theorem Request.ofArguments_show_cases (rest : List String) :
    Request.ofArguments ("show" :: rest) = .help
      ∨ Request.ofArguments ("show" :: rest) = .misuse
      ∨ ∃ family config format,
          Request.ofArguments ("show" :: rest) = .run (.show family config format) := by
  have hrequest : Request.ofArguments ("show" :: rest)
      = requestOf ⟨[.family, .config, .format], 0⟩ rest
          (fun g => some (.show (g.value? .family) (g.value? .config) (g.value? .format))) := rfl
  rw [hrequest]
  unfold requestOf
  split
  next => exact Or.inl rfl
  next => exact Or.inr (Or.inl rfl)
  next g _ => exact Or.inr (Or.inr ⟨_, _, _, rfl⟩)

/-- **WHICH PROFILE IS SHOWN**, in every setting and for every command line.  One
file at most is consulted, and where it does not load, that is the failure,
whatever family was asked for; then a family that was asked for and is none is.
Else the profile is that of the family in force, under the toolchain of the
configuration wherever the family came from; a format that is none fails last.
What fails prints nothing. -/
theorem show_precedence (s : Setting) :
    (∀ family config format : Option String, config ≠ some "" →
        ∃ rest, Request.ofArguments ("show" :: rest) = .run (.show family config format))
      ∧ ∀ rest,
        let out := run s ("show" :: rest)
        (out.exitCode ≠ 0 → out.stdout = "")
          ∧ ∀ family config format,
            Request.ofArguments ("show" :: rest) = .run (.show family config format) →
            ∃ source, s.Consults config source
              ∧ (∀ other, s.Consults config other → other = source)
              ∧ (∀ e, s.configOf source = .error e →
                  out = s.failed "" ⟨Setting.loadContexts config, .load e⟩)
              ∧ (∀ c text, s.configOf source = .ok c → family = some text →
                  Family.ofText? text = none →
                  out = s.failed ""
                    ⟨["invalid --family (see 'jitcfg families')"], .unknownFamily ⟨text⟩⟩)
              ∧ ∀ c asked, s.configOf source = .ok c →
                  family.mapM Family.ofText? = some asked →
                  let p := Profile.resolve (s.familyInForce asked c) (Setting.toolchainInForce c)
                  (format.getD "human" = "human" → out = s.success (unlines (profileLines p)))
                    ∧ (format = some "toml" → out = s.success p.toToml)
                    ∧ (format = some "json" → out = s.success (p.toJson ++ "\n"))
                    ∧ ∀ other, format = some other → other ≠ "human" → other ≠ "toml" →
                        other ≠ "json" → out = s.failed "" ⟨[], .unknownFormat other⟩ := by
  refine ⟨?_, fun rest => ⟨?_, ?_⟩⟩
  · intro family config format hpath
    exact ⟨_, Request.ofArguments_showLine family config format hpath⟩
  · intro hfails
    unfold run at *
    -- help succeeds, and a command line that makes no sense prints nothing
    rcases Request.ofArguments_show_cases rest with h | h | ⟨family, config, format, h⟩
    · rw [h] at hfails ⊢
      exact absurd rfl hfails
    · rw [h]
      rfl
    · rw [h] at hfails ⊢
      exact stdout_runShow hfails
  · intro family config format h
    have hrun : run s ("show" :: rest) = runShow s family config format := by
      unfold run
      rw [h]
      rfl
    obtain ⟨source, hsource⟩ := s.exists_consults config
    have hconfig := Setting.configInForce_eq hsource
    simp only [hrun]
    refine ⟨source, hsource, fun other hother => hother.unique hsource, ?_, ?_, ?_⟩
    · intro e he
      rw [he] at hconfig
      exact runShow_of_failure (profileInForce_of_unloaded hconfig) format
    · rintro c text hc rfl hunknown
      rw [hc] at hconfig
      exact runShow_of_failure (profileInForce_of_unknown hconfig hunknown) format
    · intro c asked hc hasked
      rw [hc] at hconfig
      have hshown := runShow_of_profile (profileInForce_eq hconfig hasked)
      refine ⟨?_, ?_, ?_, ?_⟩
      · intro hformat
        rw [hshown]
        simp only [formatted, hformat]
      · rintro rfl
        exact hshown (some "toml")
      · rintro rfl
        exact hshown (some "json")
      · rintro other rfl hhuman htoml hjson
        rw [hshown, formatted_other _ hhuman htoml hjson]

/-- A file that cannot be read counts even where a family is asked for. -/
example :
    let tree : FileTree := ⟨⟨[(["jitcfg.toml"], .file "[target".toUTF8)]⟩⟩
    (run ⟨tree, ["a"], none, true⟩ ["show", "--family", "ppc-64"]).exitCode = 1 := by
  decide +kernel

end JitTarget.Command
