/-
  JitTarget.Config.Validation
  ────────────────────────────────
  **WHETHER A CONFIGURATION SUITS A MACHINE.**

  A configuration is held against the signals of the machine it will be used
  on.  Four rules are checked in order; an issue is an error where nothing
  useful can be generated, and a warning otherwise.
-/
import JitTarget.Config.Basic

namespace JitTarget.Config

/-! ## §1. Issues. -/

/-- How grave an issue is. -/
inductive Severity where
  | error
  | warning
  deriving Repr, DecidableEq

/-- The wording for a severity. -/
def Severity.name : Severity → String
  | error => "error"
  | warning => "warning"

/-- What is wrong with a configuration on a machine. -/
inductive Issue where
  /-- The sentinel was asked for by name. -/
  | sentinelChosen
  /-- No family is asked for and none is detected. -/
  | nothingDetected (arch : String)
  /-- The fastcall setting is given for a family that ignores it. -/
  | fastcallIdle (family : Family)
  /-- Generated code and host call sites disagree on the convention. -/
  | conventionClash (family : Family) (resolved spelled : CallingConvention)
  /-- The generated code is for another machine. -/
  | foreignFamily (chosen native : Family)
  deriving Repr, DecidableEq

/-- The severity of an issue. -/
def Issue.severity : Issue → Severity
  | sentinelChosen | nothingDetected _ | conventionClash .. => .error
  | fastcallIdle _ | foreignFamily .. => .warning

/-- The text of an issue. -/
def Issue.message : Issue → String
  | sentinelChosen => "target family is explicitly set to 'unsupported'"
  | nothingDetected arch =>
      "no supported family matches host arch '" ++ arch ++ "'; set [target] family"
  | fastcallIdle f => "fastcall-available has no effect on " ++ f.name
  | conventionClash f resolved spelled =>
      "toolchain settings select " ++ resolved.display ++ " on " ++ f.name
        ++ " but host call sites use " ++ spelled.display
  | foreignFamily chosen host =>
      "family " ++ chosen.name ++ " differs from host family " ++ host.name
        ++ "; generated code cannot run here"

/-! ## §2. The rules. -/

/-- The family of the machine itself, whatever it was asked to be. -/
def nativeFamily (host : Signals) : Family :=
  Signals.detect { host with explicit := none }

/-- The selected family must be a supported one. -/
def supportIssues (c : Config) (host : Signals) : List Issue :=
  -- asking for the sentinel is reported as such, not as a failed detection
  if c.family = some .unsupported then [.sentinelChosen]
  else if (c.apply host).detect.isSupported then []
  else [.nothingDetected host.arch]

/-- The fastcall setting counts for 32-bit x86 alone. -/
def fastcallIssues (c : Config) (host : Signals) : List Issue :=
  let chosen := (c.apply host).detect
  if c.fastcall.isSome ∧ chosen ≠ .x86_32 then [.fastcallIdle chosen] else []

/-- Code for this machine is called with the convention host call sites are
compiled with. -/
def conventionIssues (c : Config) (host : Signals) : List Issue :=
  let native := nativeFamily host
  if (c.apply host).detect = native then
    match native.callingConvention? c.toolchain, native.hostCallConvention? with
    | some resolved, some spelled =>
        if resolved = spelled then [] else [.conventionClash native resolved spelled]
    | _, _ => []
  else []

/-- Code for another machine cannot run here. -/
def foreignIssues (c : Config) (host : Signals) : List Issue :=
  let chosen := (c.apply host).detect
  let native := nativeFamily host
  if chosen.isSupported ∧ native.isSupported ∧ chosen ≠ native then
    [.foreignFamily chosen native]
  else []

/-- **The issues of a configuration** on a machine, in the order of the rules;
the list is empty when the configuration suits it. -/
def validate (c : Config) (host : Signals) : List Issue :=
  c.supportIssues host ++ c.fastcallIssues host ++ c.conventionIssues host
    ++ c.foreignIssues host

end JitTarget.Config
