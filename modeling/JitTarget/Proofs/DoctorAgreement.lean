/-
  JitTarget.Proofs.DoctorAgreement
  ────────────────────────────────
  **WHERE A REPORT AND A SHOWN PROFILE AGREE.**

  A report looks for the configuration as a shown profile does, but goes on where
  that fails.  What a reader takes from its text is what the profile is shown of:

      linesOf_unlines, linesOf_report  — the lines of what is printed
      verdict?_report                  — the verdict is how the search ended
      run_show                         — the profile that is shown
      doctor_agrees_with_show          — the two compared, in every setting
-/
import JitTarget.Command.Transcript
import JitTarget.Proofs.ShowPrecedence

namespace JitTarget.Command

/-! ## §1. Lines. -/

/-- A line without newlines is a line. -/
theorem linesOf_line {line : String} (h : '\n' ∉ line.toList) : linesOf line = [line] := by
  unfold linesOf
  rw [List.splitOn_eq_singleton h]
  simp

/-- **What is printed** is read line by line. -/
theorem linesOf_unlines (lines : List String) :
    linesOf (unlines lines) = lines.flatMap linesOf ++ [""] := by
  induction lines with
  | nil => rfl
  | cons line rest ih =>
      unfold linesOf at *
      rw [toList_unlines_cons, List.splitOn_append_cons_self, List.map_append, ih]
      simp

theorem flatMap_linesOf {lines : List String} (h : ∀ line ∈ lines, '\n' ∉ line.toList) :
    lines.flatMap linesOf = lines := by
  induction lines with
  | nil => rfl
  | cons line rest ih =>
      rw [List.flatMap_cons, linesOf_line (h line List.mem_cons_self),
          ih (fun l hl => h l (List.mem_cons_of_mem line hl))]
      rfl

/-- The first line of a text starts with what the text starts with. -/
theorem linesOf_append (label rest : String) (h : '\n' ∉ label.toList) :
    ∃ first more, linesOf (label ++ rest) = (label ++ first) :: more := by
  cases hrest : rest.toList.splitOn '\n' with
  | nil => exact absurd hrest (List.splitOn_ne_nil _ _)
  | cons first more =>
      have hsplit : ∀ front : List Char, '\n' ∉ front →
          (front ++ rest.toList).splitOn '\n' = (front ++ first) :: more := by
        intro front hfront
        induction front with
        | nil => exact hrest
        | cons c front ih =>
            rw [List.mem_cons, not_or] at hfront
            have hc : (c == '\n') = false := by simpa using Ne.symm hfront.1
            rw [List.cons_append, List.splitOn_cons_eq_if_modifyHead, hc, ih hfront.2]
            rfl
      refine ⟨String.ofList first, more.map String.ofList, ?_⟩
      unfold linesOf
      rw [String.toList_append, hsplit _ h, List.map_cons, String.ofList_append,
          String.ofList_toList]

theorem behind?_append (label rest : String) : behind? label (label ++ rest) = some rest := by
  unfold behind?
  rw [String.toList_append, if_pos (List.isPrefixOf_iff_prefix.mpr (List.prefix_append _ _)),
      List.drop_left, String.ofList_toList]

/-- A line that starts with a label is none that does not. -/
theorem append_ne {label line : String} (h : ¬ label.toList <+: line.toList) (rest : String) :
    label ++ rest ≠ line := by
  rintro rfl
  rw [String.toList_append] at h
  exact h (List.prefix_append _ _)

theorem before?_append (ending front : String) :
    before? ending (front ++ ending) = some front := by
  unfold before?
  rw [String.toList_append, if_pos (List.isSuffixOf_iff_suffix.mpr (List.suffix_append _ _)),
      List.length_append, Nat.add_sub_cancel, List.take_left, String.ofList_toList]

theorem newline_not_mem_name (f : Family) : '\n' ∉ f.name.toList := by
  cases f <;> decide

/-! ## §2. Profiles. -/

/-- **The title of a profile** tells its family. -/
theorem shownFamily?_profileLines (p : Profile) :
    shownFamily? (unlines (profileLines p)) = some p.family := by
  have htitle : '\n' ∉ ("=== Target: " ++ p.family.name ++ " ===").toList := by
    simp [newline_not_mem_name]
  have hlines : (linesOf (unlines (profileLines p))).head?
      = some ("=== Target: " ++ p.family.name ++ " ===") := by
    rw [linesOf_unlines]
    show ((("=== Target: " ++ p.family.name ++ " ===") :: (profileLines p).tail).flatMap linesOf
      ++ [""]).head? = _
    rw [List.flatMap_cons, linesOf_line htitle]
    rfl
  unfold shownFamily?
  rw [hlines, String.append_assoc]
  simp only [Option.bind_some, behind?_append, before?_append]
  exact Named.ofName?_name p.family

/-! ## §3. The lines of a report. -/

/-- What stands in a report before the profile line. -/
def machineLines (diagnostics : Bool) (override : Option String) : List String :=
  ["=== jitcfg Doctor ===",
   "",
   "jitcfg version: " ++ versionText,
   "Diagnostics:    " ++ (if diagnostics then "enabled" else "disabled"),
   "",
   "--- Host ---",
   "  Arch:     " ++ Signals.hostIdentity.arch,
   "  Detected: " ++ Signals.hostIdentity.detect.name,
   "  " ++ overrideVariable ++ " (build time): "
     ++ (match Signals.overrideFamily override with
         | some f => f.name
         | none => "not set")]

/-- What stands in a report between the profile line and the configuration. -/
def unitLines (override : Option String) : List String :=
  (if (Profile.host override).family = Profile.native.family then []
    else ["  Profile differs from this machine; generated code will not run here."])
    ++ [""] ++ vectorLines (Profile.host override) ++ [""]

/-- What a report says of the configuration, under the heading. -/
def findingLines (override : Option String)
    (found : Except Config.LoadError (Option Config.Located)) : List String :=
  (configurationLines override found).tail

/-- What stands in a report behind the configuration. -/
def trialLines : List String :=
  ["", "--- Code Execution ---", "  Generated code returned 42: ok"]

theorem doctorLines_eq (diagnostics : Bool) (override : Option String)
    (found : Except Config.LoadError (Option Config.Located)) :
    doctorLines diagnostics override found
      = machineLines diagnostics override
        ++ ("  Profile:  " ++ (Profile.host override).family.name) :: unitLines override
        ++ "--- Configuration ---" :: findingLines override found ++ trialLines := by
  have htrial : "  Generated code returned " ++ toString trialResult ++ ": ok"
      = "  Generated code returned 42: ok" := by decide
  have hfinding : configurationLines override found
      = "--- Configuration ---" :: findingLines override found := rfl
  unfold doctorLines hostLines machineLines
  rw [htrial, hfinding]
  cases Signals.overrideFamily override <;>
    simp only [unitLines, trialLines, List.append_assoc, List.cons_append, List.nil_append]

/-- Nothing before the profile line looks like it, or like the heading. -/
theorem mem_machineLines (diagnostics : Bool) (override : Option String) :
    ∀ line ∈ machineLines diagnostics override,
      '\n' ∉ line.toList ∧ line ≠ "--- Configuration ---"
        ∧ behind? "  Profile:  " line = none := by
  -- ten choices of a family and two builds are all the lines depend on
  unfold machineLines
  generalize Signals.overrideFamily override = chosen
  cases diagnostics <;> cases chosen with
  | none => decide
  | some f => cases f <;> decide

/-- Nothing between the profile line and the heading looks like the heading. -/
theorem mem_unitLines (override : Option String) :
    ∀ line ∈ unitLines override, '\n' ∉ line.toList ∧ line ≠ "--- Configuration ---" := by
  unfold unitLines
  rw [Profile.host_eq]
  generalize (Signals.overrideFamily override).getD .x86_64 = f
  cases f <;> decide

/-- **The lines of a report.** Only what it says of the configuration can take more
lines than were printed. -/
theorem linesOf_report (diagnostics : Bool) (override : Option String)
    (found : Except Config.LoadError (Option Config.Located)) :
    linesOf (unlines (doctorLines diagnostics override found))
      = machineLines diagnostics override
        ++ ("  Profile:  " ++ (Profile.host override).family.name) :: unitLines override
        ++ "--- Configuration ---" :: (findingLines override found).flatMap linesOf
        ++ trialLines ++ [""] := by
  have hmachine : (machineLines diagnostics override).flatMap linesOf
      = machineLines diagnostics override :=
    flatMap_linesOf (fun line h => (mem_machineLines diagnostics override line h).1)
  have hunit : (unitLines override).flatMap linesOf = unitLines override :=
    flatMap_linesOf (fun line h => (mem_unitLines override line h).1)
  have hprofile : linesOf ("  Profile:  " ++ (Profile.host override).family.name)
      = ["  Profile:  " ++ (Profile.host override).family.name] := by
    apply linesOf_line
    simp [newline_not_mem_name]
  have hheading : linesOf "--- Configuration ---" = ["--- Configuration ---"] :=
    linesOf_line (by decide)
  have htrial : trialLines.flatMap linesOf = trialLines := flatMap_linesOf (by decide)
  rw [linesOf_unlines, doctorLines_eq]
  simp only [List.flatMap_append, List.flatMap_cons, hmachine, hunit, hprofile, hheading, htrial,
    List.append_assoc, List.cons_append, List.nil_append]

/-! ## §4. What a reader takes from a report. -/

theorem linesUnder_append {heading : String} {front : List String}
    (h : ∀ line ∈ front, line ≠ heading) (rest : List String) :
    linesUnder heading (front ++ heading :: rest) = rest := by
  unfold linesUnder
  rw [List.dropWhile_append_of_pos (by simpa using h), List.dropWhile_cons_of_neg (by simp)]
  rfl

/-- The verdict on a search. -/
def Verdict.ofSearch : Except Config.LoadError (Option Config.Located) → Verdict
  | .ok (some _) => .found
  | .ok none => .absent
  | .error _ => .error

/-- The first line under the heading is the verdict on the search. -/
theorem ofLine?_findingLines (override : Option String)
    (found : Except Config.LoadError (Option Config.Located)) (rest : List String) :
    ((findingLines override found).flatMap linesOf ++ rest).head?.bind Verdict.ofLine?
      = some (Verdict.ofSearch found) := by
  match found with
  | .ok none => rfl
  | .ok (some l) =>
      obtain ⟨first, more, hlines⟩ :=
        linesOf_append "  jitcfg.toml: found in " l.directory.toText (by decide)
      have habsent : "  jitcfg.toml: found in " ++ first ≠ "  jitcfg.toml: not found" :=
        append_ne (by decide) first
      show ((linesOf ("  jitcfg.toml: found in " ++ l.directory.toText) ++ _) ++ rest).head?.bind
        Verdict.ofLine? = _
      rw [hlines]
      show Verdict.ofLine? ("  jitcfg.toml: found in " ++ first) = some .found
      unfold Verdict.ofLine?
      rw [if_neg habsent, behind?_append]
      rfl
  | .error e =>
      obtain ⟨first, more, hlines⟩ :=
        linesOf_append "  jitcfg.toml: error: " e.message (by decide)
      have habsent : "  jitcfg.toml: error: " ++ first ≠ "  jitcfg.toml: not found" :=
        append_ne (by decide) first
      have hfound : behind? "  jitcfg.toml: found in " ("  jitcfg.toml: error: " ++ first)
          = none := by
        unfold behind?
        rw [String.toList_append]
        rfl
      show ((linesOf ("  jitcfg.toml: error: " ++ e.message) ++ _) ++ rest).head?.bind
        Verdict.ofLine? = _
      rw [hlines]
      show Verdict.ofLine? ("  jitcfg.toml: error: " ++ first) = some .error
      unfold Verdict.ofLine?
      rw [if_neg habsent, hfound, behind?_append]
      rfl

section Report

variable (diagnostics : Bool) (override : Option String)
  (found : Except Config.LoadError (Option Config.Located))

/-- **The verdict of a report** is how the search for a configuration ended. -/
theorem verdict?_report :
    verdict? (unlines (doctorLines diagnostics override found))
      = some (Verdict.ofSearch found) := by
  have hfront : ∀ line ∈ machineLines diagnostics override
      ++ ("  Profile:  " ++ (Profile.host override).family.name) :: unitLines override,
      line ≠ "--- Configuration ---" := by
    intro line hline
    rcases List.mem_append.mp hline with hline | hline
    · exact (mem_machineLines diagnostics override line hline).2.1
    · rcases List.mem_cons.mp hline with rfl | hline
      · exact append_ne (by decide) _
      · exact (mem_unitLines override line hline).2
  unfold verdict?
  rw [linesOf_report, List.append_assoc, List.append_assoc, List.cons_append,
      linesUnder_append hfront]
  exact ofLine?_findingLines override found (trialLines ++ [""])

/-- **The profile line** of a report. -/
theorem profileFamily?_report :
    profileFamily? (unlines (doctorLines diagnostics override found))
      = some (Profile.host override).family := by
  have hnone : (machineLines diagnostics override).findSome? (behind? "  Profile:  ") = none :=
    List.findSome?_eq_none_iff.mpr
      (fun line h => (mem_machineLines diagnostics override line h).2.2)
  unfold profileFamily?
  rw [linesOf_report]
  simp only [List.append_assoc, List.cons_append, List.findSome?_append, hnone, Option.none_or,
    List.findSome?_cons, behind?_append, Option.bind_some]
  exact Named.ofName?_name _

/-- **The line of the family a configuration resolves to**, where one was found: no
later line looks like it. -/
theorem resolvedFamily?_report (l : Config.Located) :
    resolvedFamily? (unlines (doctorLines diagnostics override (.ok (some l))))
      = some (l.config.resolve (Signals.host override)).family := by
  have hresolved : linesOf ("  Resolves to: "
        ++ (l.config.resolve (Signals.host override)).family.name)
      = ["  Resolves to: " ++ (l.config.resolve (Signals.host override)).family.name] := by
    apply linesOf_line
    simp [newline_not_mem_name]
  have hfinding : (findingLines override (.ok (some l))).flatMap linesOf
      = linesOf ("  jitcfg.toml: found in " ++ l.directory.toText)
        ++ ["  Resolves to: " ++ (l.config.resolve (Signals.host override)).family.name] := by
    rw [← hresolved]
    show _ ++ (_ ++ []) = _
    rw [List.append_nil]
    rfl
  have htrial : (trialLines ++ [""]).reverse.findSome? (behind? "  Resolves to: ") = none := by
    decide
  unfold resolvedFamily?
  rw [linesOf_report, hfinding, List.append_assoc, List.reverse_append, List.findSome?_append,
      htrial, Option.none_or, List.reverse_append, List.reverse_cons, List.reverse_append,
      List.reverse_singleton]
  simp only [List.cons_append, List.findSome?_cons, behind?_append,
    Option.bind_some]
  exact Named.ofName?_name _

/-- A directory with a line of its own in its name. -/
example :
    resolvedFamily? "  jitcfg.toml: found in a\n  Resolves to: ppc-32\n  Resolves to: mips-32\n"
      = some .mips32 := by
  decide +kernel

end Report

/-! ## §5. The comparison. -/

theorem run_doctor (s : Setting) :
    run s ["doctor"]
      = s.success (unlines (doctorLines s.diagnostics s.override
          (Config.find s.tree s.workingDir s.directory))) :=
  rfl

/-- Without a family that is asked for, the profile is the configuration's. -/
theorem profileInForce_unasked {s : Setting} {config : Option String} {c : Config}
    (hc : configInForce s config = .ok c) :
    profileInForce s none config = .ok (c.resolve (Signals.host s.override)) := by
  unfold profileInForce
  rw [hc]
  rfl

/-- **The profile that is shown** without options is that of the configuration which
a search finds, or of an empty one; where the search fails, so does the command. -/
theorem run_show (s : Setting) :
    run s ["show"]
      = match Config.find s.tree s.workingDir s.directory with
        | .ok found =>
            s.success (unlines (profileLines
              (((found.map Config.Located.config).getD {}).resolve (Signals.host s.override))))
        | .error e => s.failed "" ⟨[], .load e⟩ := by
  have hrun : run s ["show"] = runShow s none none none := rfl
  have hconfig : configInForce s none
      = match Config.find s.tree s.workingDir s.directory with
        | .ok found => .ok ((found.map Config.Located.config).getD {})
        | .error e => .error ⟨[], .load e⟩ := by
    unfold configInForce
    cases Config.find s.tree s.workingDir s.directory with
    | error e => rfl
    | ok found => cases found <;> rfl
  rw [hrun]
  cases hfind : Config.find s.tree s.workingDir s.directory with
  | error e =>
      rw [hfind] at hconfig
      exact runShow_of_failure (profileInForce_of_unloaded hconfig) none
  | ok found =>
      rw [hfind] at hconfig
      exact runShow_of_profile (profileInForce_unasked hconfig) none

/-- **A REPORT AND A SHOWN PROFILE AGREE**, in every setting.  The report always ends
well and has a verdict on the configuration.  The verdict is an error exactly where
no profile can be shown; where a configuration was found, the family it resolves to
is the one shown, and where there is none, the family on the profile line is. -/
theorem doctor_agrees_with_show (s : Setting) :
    let report := (run s ["doctor"]).stdout
    let shown := run s ["show"]
    (run s ["doctor"]).exitCode = 0 ∧ (verdict? report).isSome
      ∧ (verdict? report = some .error ↔ shown.exitCode ≠ 0)
      ∧ (verdict? report = some .found →
          ∃ f, resolvedFamily? report = some f ∧ shownFamily? shown.stdout = some f)
      ∧ (verdict? report = some .absent →
          ∃ f, profileFamily? report = some f ∧ shownFamily? shown.stdout = some f) := by
  simp only [run_doctor, run_show, Setting.success]
  -- three ways a search can end, and one verdict for each
  match Config.find s.tree s.workingDir s.directory with
  | .error e =>
      rw [verdict?_report]
      dsimp only [Verdict.ofSearch]
      exact ⟨trivial, rfl, iff_of_true rfl Nat.one_ne_zero, nofun, nofun⟩
  | .ok none =>
      rw [verdict?_report]
      dsimp only [Verdict.ofSearch]
      refine ⟨trivial, rfl, iff_of_false nofun (fun h => h rfl), nofun, fun _ => ?_⟩
      exact ⟨_, profileFamily?_report _ _ _, shownFamily?_profileLines _⟩
  | .ok (some l) =>
      rw [verdict?_report]
      dsimp only [Verdict.ofSearch]
      refine ⟨trivial, rfl, iff_of_false nofun (fun h => h rfl), fun _ => ?_, nofun⟩
      exact ⟨_, resolvedFamily?_report _ _ l, shownFamily?_profileLines _⟩

end JitTarget.Command
