/-
  JitTarget.Diagnostics
  ────────────────────────────────
  **CHECKS THAT ABORT.**

  A code generator that goes on past a broken assumption may run corrupt code,
  so the first check that fails is reported, with the place where it is written,
  and ends the process.  In a build without diagnostics no check is looked at,
  and none of their conditions is evaluated.
-/

namespace JitTarget.Diagnostics

/-! ## §1. Checks. -/

/-- Where a check is written. -/
structure Site where
  file : String
  line : Nat
  column : Nat
  deriving Repr, DecidableEq

/-- A site as it is shown. -/
def Site.text (s : Site) : String :=
  s.file ++ ":" ++ toString s.line ++ ":" ++ toString s.column

/-- A check. -/
inductive Check where
  /-- A condition that is evaluated before the check is reached. -/
  | assertion (site : Site) (holds : Bool) (message : String)
  /-- A condition that is evaluated only if diagnostics are on. -/
  | deferred (site : Site) (holds : Bool) (message : String)
  /-- A deferred condition whose message is its own text. -/
  | bare (site : Site) (holds : Bool) (condition : String)
  /-- A place that must not be reached. -/
  | unreachable (site : Site) (message : String)
  deriving Repr, DecidableEq

/-- The message of a place that must not be reached, where none is given. -/
def unreachableMessage : String := "entered unreachable code"

/-- What kind of check failed. -/
inductive FailureKind where
  | assertion
  | unreachable
  deriving Repr, DecidableEq

/-- The wording for a kind of failure. -/
def FailureKind.name : FailureKind → String
  | assertion => "assertion failed"
  | unreachable => "should never be reached"

/-- A check that failed. -/
structure Failure where
  kind : FailureKind
  site : Site
  message : String
  deriving Repr, DecidableEq

/-- The line that reports a failure; a logger puts its level in front. -/
def Failure.report (hasLogger : Bool) (f : Failure) : String :=
  (if hasLogger then "[ERROR] " else "")
    ++ f.kind.name ++ " at " ++ f.site.text ++ ": " ++ f.message

/-- How a check that returned was passed. -/
inductive Passage where
  /-- Its condition was evaluated on the way. -/
  | evaluated
  | returned
  deriving Repr, DecidableEq

/-! ## §2. Running checks. -/

/-- Where a check leads: past it, or to a failure. -/
def Check.run (isEnabled : Bool) (c : Check) : Except Failure Passage :=
  if isEnabled then
    match c with
    | assertion _ true _ => .ok .returned
    | deferred _ true _ | bare _ true _ => .ok .evaluated
    | assertion site false message | deferred site false message | bare site false message =>
        .error ⟨.assertion, site, message⟩
    | unreachable site message => .error ⟨.unreachable, site, message⟩
  else .ok .returned

/-- What came of a list of checks: those that were passed, and the failure that
ended the process, if any did. -/
structure Trace where
  passages : List Passage
  failure : Option Failure
  deriving Repr, DecidableEq

/-- Whether the process was ended. -/
def Trace.aborted (t : Trace) : Bool := t.failure.isSome

/-- The report of the failure, empty if there was none. -/
def Trace.report (hasLogger : Bool) (t : Trace) : String :=
  match t.failure with
  | some f => f.report hasLogger
  | none => ""

/-- **Runs checks in order**, up to the first that fails. -/
def runAll (isEnabled : Bool) : List Check → Trace
  | [] => ⟨[], none⟩
  | c :: rest =>
      match c.run isEnabled with
      | .error f => ⟨[], some f⟩
      | .ok passage =>
          let t := runAll isEnabled rest
          { t with passages := passage :: t.passages }

/-! ## §3. How checks are written. -/

/-- How a program writes a check, and where. A call is handed what to check; a macro
has the condition in it, and its message may be left out. -/
inductive Form where
  | assertion (site : Site) (holds : Bool) (message : String)
  | assertionMacro (site : Site) (holds : Bool) (message : String)
  | assertionMacroBare (site : Site) (holds : Bool) (condition : String)
  | unreachable (site : Site) (message : String)
  | unreachableMacro (site : Site) (message : String)
  | unreachableMacroBare (site : Site)
  deriving Repr, DecidableEq

/-- The check a form comes to. -/
def Form.check : Form → Check
  | assertion site holds message => .assertion site holds message
  | assertionMacro site holds message => .deferred site holds message
  | assertionMacroBare site holds condition => .bare site holds condition
  | unreachable site message | unreachableMacro site message => .unreachable site message
  | unreachableMacroBare site => .unreachable site unreachableMessage

end JitTarget.Diagnostics
