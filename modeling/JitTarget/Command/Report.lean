/-
  JitTarget.Command.Report
  ────────────────────────────────
  **WHAT COMMANDS PRINT.**

  The texts for people: the list of families, the description of a profile, the
  issues of a configuration, and the report on this machine.  Each is a list of
  lines.
-/
import JitTarget.Config.Search
import JitTarget.Config.Validation
import JitTarget.Profile.Text

namespace JitTarget.Command

/-! ## §1. Lines. -/

/-- Lines as text, each with a newline behind it. -/
def unlines (lines : List String) : String := String.join (lines.map (· ++ "\n"))

/-- A text with blanks behind it up to a width. -/
def padded (width : Nat) (text : String) : String :=
  text ++ String.ofList (List.replicate (width - text.length) ' ')

/-- The name and the version of the program. -/
def versionText : String := "0.1.0"

/-- The name of the program. -/
def programName : String := "jitcfg"

/-! ## §2. Families and profiles. -/

/-- The list of families, with the host's marked. -/
def familyLines (host : Family) : List String :=
  ["Supported families:", ""]
    ++ Family.supported.map (fun f =>
        "  " ++ padded 12 f.name ++ " " ++ f.description
          ++ (if f = host then " (host)" else ""))
    ++ [""]
    ++ (if host.isSupported then []
        else ["This host (" ++ Signals.hostIdentity.arch ++ ") is not supported."])
    ++ ["Use 'jitcfg show --family <name>' for details."]

/-- The facts of a profile, by topic. -/
def factLines (f : Facts) : List String :=
  ["--- Word ---",
   "  Width:       " ++ toString f.wordWidth.bits ++ " bits",
   "  Word shift:  " ++ toString f.wordShift,
   "  Float shift: " ++ toString f.floatShift,
   "",
   "--- ABI ---",
   "  Calling convention: " ++ f.callingConvention.display,
   "  Indirect calls:     "
     ++ (if f.indirectCallRequired then "function descriptors" else "direct"),
   "",
   "--- Memory ---",
   "  Byte order:        " ++ f.byteOrder.display,
   "  Unaligned access:  "
     ++ (if f.unalignedAccessAllowed then "allowed" else "split into aligned pieces"),
   "  Instruction cache: " ++ f.cacheModel.tag,
   "",
   "--- Vector FP ---",
   "  Unit:   " ++ f.vectorFp.tag]
    ++ (if f.vectorFp.autodetect then ["  Probed once at process start"] else [])

/-- The description of a profile. -/
def profileLines (p : Profile) : List String :=
  ["=== Target: " ++ p.family.name ++ " ===", p.family.description, ""]
    ++ match p.facts with
       | .ok f => factLines f
       | .error e =>
           ["  " ++ e.message,
            "  No machine facts are available; the JIT backend is disabled."]

/-! ## §3. Configurations. -/

/-- The issues of a configuration. -/
def issueLines (issues : List Config.Issue) : List String :=
  issues.map (fun i => "  " ++ i.severity.name ++ ": " ++ i.message)

/-! ## §4. This machine. -/

/-- Whether the probe finds the vector unit; on this machine it does. -/
def probedVectorFp : Bool := true

/-- What this machine is and what it is taken for. -/
def hostLines (override : Option String) : List String :=
  let profile := Profile.host override
  ["--- Host ---",
   "  Arch:     " ++ Signals.hostIdentity.arch,
   "  Detected: " ++ Signals.hostIdentity.detect.name,
   "  " ++ overrideVariable ++ " (build time): "
     ++ (match Signals.overrideFamily override with
         | some f => f.name
         | none => "not set"),
   "  Profile:  " ++ profile.family.name]
    ++ (if profile.family = Profile.native.family then []
        else ["  Profile differs from this machine; generated code will not run here."])

/-- What is known about the vector unit. -/
def vectorLines (p : Profile) : List String :=
  ["--- Vector FP ---",
   "  " ++ match p.vectorFp with
     | .error e => e.message
     | .ok unit =>
         if unit.autodetect then
           unit.tag ++ ": probe says " ++ (if probedVectorFp then "present" else "absent")
         else unit.tag]

/-- The configuration in force, as far as it can be found. -/
def configurationLines (override : Option String)
    (found : Except Config.LoadError (Option Config.Located)) : List String :=
  "--- Configuration ---" ::
    match found with
    | .ok (some l) =>
        ["  " ++ Config.fileName ++ ": found in " ++ l.directory.toText,
         "  Resolves to: " ++ (l.config.resolve (Signals.host override)).family.name]
    | .ok none => ["  " ++ Config.fileName ++ ": not found"]
    | .error e => ["  " ++ Config.fileName ++ ": error: " ++ e.message]

/-- The number the code that is tried out returns. -/
def trialResult : Nat := 42

/-- The report on this machine. -/
def doctorLines (diagnostics : Bool) (override : Option String)
    (found : Except Config.LoadError (Option Config.Located)) : List String :=
  ["=== jitcfg Doctor ===",
   "",
   "jitcfg version: " ++ versionText,
   "Diagnostics:    " ++ (if diagnostics then "enabled" else "disabled"),
   ""]
    ++ hostLines override ++ [""]
    ++ vectorLines (Profile.host override) ++ [""]
    ++ configurationLines override found ++ [""]
    ++ ["--- Code Execution ---",
        "  Generated code returned " ++ toString trialResult ++ ": ok"]

end JitTarget.Command
