/-
  JitTarget.Proofs.FirstFailure
  ────────────────────────────────
  **THE FIRST CHECK THAT FAILS ENDS THE PROCESS.**

  However a check is written, it comes to the same: in a build without diagnostics
  it is passed unseen, and in one with them it is passed or it fails, by what it
  says alone.  So a list of checks is passed up to the first that fails, and what
  stands behind that one never counts:

      Form.run_check       — one check
      runAll_passing       — checks that are passed, whatever comes next
      runAll_split         — checks up to the first that fails
      runAll_first_failure — every list of checks, in both builds
-/
import JitTarget.Diagnostics

namespace JitTarget.Diagnostics

/-! ## §1. What a form says. -/

namespace Form

/-- Whether a check fails where it is looked at: its condition is false, or it is
one that must not be reached. -/
def fails : Form → Bool
  | assertion _ holds _ | assertionMacro _ holds _ | assertionMacroBare _ holds _ => !holds
  | unreachable _ _ | unreachableMacro _ _ | unreachableMacroBare _ => true

/-- What is reported of a check that fails, with the place where it is written. -/
def failure : Form → Failure
  | assertion site _ message | assertionMacro site _ message => ⟨.assertion, site, message⟩
  -- a condition without a message is its own
  | assertionMacroBare site _ condition => ⟨.assertion, site, condition⟩
  | unreachable site message | unreachableMacro site message => ⟨.unreachable, site, message⟩
  | unreachableMacroBare site => ⟨.unreachable, site, "entered unreachable code"⟩

/-- How a check is passed where it is looked at: a macro evaluates its condition on
the way. -/
def passage : Form → Passage
  | assertionMacro _ _ _ | assertionMacroBare _ _ _ => .evaluated
  | assertion _ _ _ | unreachable _ _ | unreachableMacro _ _ | unreachableMacroBare _ =>
      .returned

end Form

namespace Trace

/-- All checks are passed, and nothing is reported. -/
structure Completes (t : Trace) (passages : List Passage) : Prop where
  passages_eq : t.passages = passages
  aborted_eq : t.aborted = false
  report_eq : ∀ hasLogger, t.report hasLogger = ""

/-- The process is ended behind some checks, and one failure is reported, at its
place; a logger puts its level in front of the report and changes nothing else. -/
structure StopsWith (t : Trace) (passages : List Passage) (f : Failure) : Prop where
  passages_eq : t.passages = passages
  aborted_eq : t.aborted = true
  report_eq : ∀ hasLogger,
    t.report hasLogger
      = (if hasLogger then "[ERROR] " else "")
        ++ f.kind.name ++ " at " ++ f.site.text ++ ": " ++ f.message

theorem completes (passages : List Passage) : Completes ⟨passages, none⟩ passages :=
  ⟨rfl, rfl, fun _ => rfl⟩

theorem stopsWith (passages : List Passage) (f : Failure) :
    StopsWith ⟨passages, some f⟩ passages f :=
  ⟨rfl, rfl, fun _ => rfl⟩

end Trace

/-! ## §2. One check. -/

/-- A build without diagnostics looks at no check. -/
theorem Check.run_disabled (c : Check) : c.run false = .ok .returned := rfl

/-- **A check that is looked at** fails or is passed, however it is written. -/
theorem Form.run_check (f : Form) :
    f.check.run true = if f.fails then .error f.failure else .ok f.passage := by
  cases f with
  | assertion site holds message => cases holds <;> rfl
  | assertionMacro site holds message => cases holds <;> rfl
  | assertionMacroBare site holds condition => cases holds <;> rfl
  | unreachable site message => rfl
  | unreachableMacro site message => rfl
  | unreachableMacroBare site => rfl

/-! ## §3. Lists of checks. -/

/-- A build without diagnostics passes them all. -/
theorem runAll_disabled (checks : List Check) :
    runAll false checks = ⟨List.replicate checks.length .returned, none⟩ := by
  induction checks with
  | nil => rfl
  | cons c rest ih =>
      simp only [runAll, Check.run_disabled, ih]
      rfl

/-- A check that is passed stands in front of what comes of the others. -/
theorem runAll_cons_of_passes {f : Form} (h : f.fails = false) (rest : List Check) :
    runAll true (f.check :: rest)
      = ⟨f.passage :: (runAll true rest).passages, (runAll true rest).failure⟩ := by
  have hrun := f.run_check
  rw [h, if_neg Bool.false_ne_true] at hrun
  simp only [runAll, hrun]

/-- A check that fails leaves nothing of the others. -/
theorem runAll_cons_of_fails {f : Form} (h : f.fails = true) (rest : List Check) :
    runAll true (f.check :: rest) = ⟨[], some f.failure⟩ := by
  have hrun := f.run_check
  rw [h, if_pos rfl] at hrun
  simp only [runAll, hrun]

/-- **Checks that are passed** stand in front of what comes of the others. -/
theorem runAll_passing {front : List Form} (h : ∀ f ∈ front, f.fails = false)
    (rest : List Check) :
    runAll true (front.map Form.check ++ rest)
      = ⟨front.map Form.passage ++ (runAll true rest).passages,
          (runAll true rest).failure⟩ := by
  induction front with
  | nil => rfl
  | cons f front ih =>
      have hrest := ih (fun g hg => h g (List.mem_cons_of_mem f hg))
      rw [List.map_cons, List.cons_append, runAll_cons_of_passes (h f List.mem_cons_self), hrest]
      rfl

/-- **Checks up to the first that fails**, whatever stands behind it. -/
theorem runAll_split {front : List Form} {f : Form} (hfront : ∀ g ∈ front, g.fails = false)
    (hf : f.fails = true) (back : List Form) :
    runAll true ((front ++ f :: back).map Form.check)
      = ⟨front.map Form.passage, some f.failure⟩ := by
  rw [List.map_append, List.map_cons, runAll_passing hfront, runAll_cons_of_fails hf,
      List.append_nil]

/-- The first element with a property splits a list. -/
theorem exists_split_of_findIdx? {forms : List Form} {k : Nat}
    (h : forms.findIdx? Form.fails = some k) :
    ∃ f back, forms = forms.take k ++ f :: back ∧ forms[k]? = some f ∧ f.fails = true
      ∧ ∀ g ∈ forms.take k, g.fails = false := by
  obtain ⟨hk, hfails, hfirst⟩ := List.findIdx?_eq_some_iff_getElem.mp h
  refine ⟨forms[k], forms.drop (k + 1), ?_, List.getElem?_eq_getElem hk, hfails, ?_⟩
  · rw [← List.drop_eq_getElem_cons hk, List.take_append_drop]
  · intro g hg
    obtain ⟨i, hi, rfl⟩ := List.mem_take_iff_getElem.mp hg
    have hpasses := hfirst i (by omega)
    simpa using hpasses

/-- **THE FIRST CHECK THAT FAILS ENDS THE PROCESS**, and nothing else does.  In a
build without diagnostics every list of checks is passed unseen.  In one with them
the checks before the first that fails are passed, that one alone is reported, and
no other list behind it comes to anything else; where none fails, all are passed. -/
theorem runAll_first_failure (forms : List Form) :
    (runAll false (forms.map Form.check)).Completes (List.replicate forms.length .returned)
      ∧ match forms.findIdx? Form.fails with
        | none => (runAll true (forms.map Form.check)).Completes (forms.map Form.passage)
        | some k =>
            ∃ f, forms[k]? = some f
              ∧ (runAll true (forms.map Form.check)).StopsWith
                  ((forms.take k).map Form.passage) f.failure
              ∧ ∀ later, runAll true ((forms.take k ++ f :: later).map Form.check)
                  = runAll true (forms.map Form.check) := by
  constructor
  · rw [runAll_disabled, List.length_map]
    exact Trace.completes _
  · cases hfirst : forms.findIdx? Form.fails with
    | none =>
        have hall := runAll_passing (List.findIdx?_eq_none_iff.mp hfirst) []
        have hend : runAll true [] = ⟨[], none⟩ := rfl
        rw [List.append_nil, hend, List.append_nil] at hall
        simp only [hall]
        exact Trace.completes _
    | some k =>
        obtain ⟨f, back, hsplit, hget, hf, hfront⟩ := exists_split_of_findIdx? hfirst
        have hrun : runAll true (forms.map Form.check)
            = ⟨(forms.take k).map Form.passage, some f.failure⟩ := by
          have hstop := runAll_split hfront hf back
          rw [← hsplit] at hstop
          exact hstop
        refine ⟨f, hget, ?_, ?_⟩
        · rw [hrun]
          exact Trace.stopsWith _ _
        · intro later
          rw [hrun]
          exact runAll_split hfront hf later

/-- The second check fails; the third would as well. -/
example :
    (runAll true ([.assertionMacro ⟨"emit", 4, 9⟩ true "a",
        .assertionMacroBare ⟨"emit", 7, 13⟩ false "n < 8",
        .unreachable ⟨"emit", 8, 5⟩ "b"].map Form.check)).report false
      = "assertion failed at emit:7:13: n < 8" := by
  decide +kernel

end JitTarget.Diagnostics
