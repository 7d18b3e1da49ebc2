/-
  JitTarget.Command.Run
  ────────────────────────────────
  **RUNNING A COMMAND.**

  A command is run in a setting: a tree of files, a working directory, and what
  was fixed when the program was built.  It ends with an exit code, the text it
  printed, a failure if there was one, and the tree as it left it.
-/
import JitTarget.Command.Invocation
import JitTarget.Command.Failure
import JitTarget.Command.Report

namespace JitTarget.Command

/-! ## §1. Settings and outcomes. -/

/-- Where a command is run. -/
structure Setting where
  tree : FileTree
  workingDir : Location
  /-- The build-time override. -/
  override : Option String := none
  /-- Whether the build has diagnostics. -/
  diagnostics : Bool := true

/-- The working directory as a path from the root. -/
def Setting.directory (s : Setting) : Path := ⟨.root, s.workingDir⟩

/-- How a command ends. -/
structure Outcome where
  exitCode : Nat
  stdout : String
  failure : Option Failure
  tree : FileTree

/-- A command that ends well and leaves the files alone. -/
def Setting.success (s : Setting) (stdout : String) : Outcome := ⟨0, stdout, none, s.tree⟩

/-- A command that fails and leaves the files alone. -/
def Setting.failed (s : Setting) (stdout : String) (f : Failure) : Outcome :=
  ⟨1, stdout, some f, s.tree⟩

/-- The exit code of a command line that makes no sense. -/
def misuseCode : Nat := 2

/-! ## §2. Parts of commands. -/

/-- Where a new configuration goes: to the path asked for, or into the working
directory. -/
def destination (directory : Path) (path : Option String) : Path :=
  (path.map Path.ofText).getD (directory.join Config.fileName)

/-- Reads the value of a family option. -/
def readFamily (text : String) : Except Failure Family :=
  (Family.ofText text).mapError
    (fun e => ⟨["invalid --family (see 'jitcfg families')"], .unknownFamily e⟩)

/-- Loads the configuration at a path that was asked for. -/
def loadConfig (s : Setting) (path : Path) : Except Failure Config :=
  (Config.load s.tree s.workingDir path).mapError
    (fun e => ⟨["loading " ++ path.toText], .load e⟩)

/-- The configuration in force: the one asked for, or the nearest, or an empty
one. -/
def configInForce (s : Setting) (path : Option String) : Except Failure Config :=
  match path with
  | some text => loadConfig s (Path.ofText text)
  | none =>
      match Config.find s.tree s.workingDir s.directory with
      | .ok (some l) => .ok l.config
      | .ok none => .ok {}
      | .error e => .error ⟨[], .load e⟩

/-- The profile in force: a family asked for counts more than the configuration,
which counts more than this machine. -/
def profileInForce (s : Setting) (family config : Option String) :
    Except Failure Profile := do
  -- a configuration that cannot be read counts even where a family is given
  let c ← configInForce s config
  let c ←
    match family with
    | some text => do
        let f ← readFamily text
        pure { c with family := some f }
    | none => pure c
  return c.resolve (Signals.host s.override)

/-- A profile in an output format. -/
def formatted (format : Option String) (p : Profile) : Except Failure String :=
  match format.getD "human" with
  | "human" => .ok (unlines (profileLines p))
  | "toml" => .ok p.toToml
  | "json" => .ok (p.toJson ++ "\n")
  | other => .error ⟨[], .unknownFormat other⟩

/-! ## §3. Commands. -/

/-- Shows the profile in force. Nothing is printed when that fails. -/
def runShow (s : Setting) (family config format : Option String) : Outcome :=
  match profileInForce s family config >>= formatted format with
  | .ok text => s.success text
  | .error f => s.failed "" f

/-- Checks a configuration file against this machine, whatever override is in
force. Warnings are printed and do not count as failure. -/
def runCheck (s : Setting) (path : Path) : Outcome :=
  match loadConfig s path with
  | .error f => s.failed "" f
  | .ok c =>
      let issues := c.validate Signals.hostIdentity
      let errors := issues.countP (fun i => i.severity == .error)
      let lines := issueLines issues
      if issues.isEmpty then s.success (unlines [path.toText ++ ": ok"])
      else if 0 < errors then s.failed (unlines lines) ⟨[], .hasErrors path errors⟩
      else
        s.success (unlines (lines
          ++ [path.toText ++ ": ok with " ++ toString issues.length ++ " warning(s)"]))

/-- Writes a template where nothing stands yet. -/
def runInit (s : Setting) (path : Path) (family : Option String) : Outcome :=
  if s.tree.hasEntry s.workingDir path then s.failed "" ⟨[], .alreadyExists path⟩
  else
    match family.mapM readFamily with
    | .error f => s.failed "" f
    | .ok family =>
        match s.tree.write s.workingDir path (Config.template family).toUTF8 with
        | .error fault => s.failed "" ⟨["writing " ++ path.toText], .unwritable fault⟩
        | .ok tree => ⟨0, unlines ["Created " ++ path.toText], none, tree⟩

/-- Looks this machine over; whatever is found, this ends well. -/
def runDoctor (s : Setting) : Outcome :=
  s.success (unlines (doctorLines s.diagnostics s.override
    (Config.find s.tree s.workingDir s.directory)))

/-- Runs a well-formed command. -/
def runInvocation (s : Setting) : Invocation → Outcome
  | .families => s.success (unlines (familyLines (Profile.host s.override).family))
  | .show family config format => runShow s family config format
  | .check path => runCheck s (Path.ofText path)
  | .init path family => runInit s (destination s.directory path) family
  | .doctor => runDoctor s

/-- The paths a command may look at. -/
def Invocation.paths (directory : Path) : Invocation → List Path
  | .families => []
  | .show _ (some path) _ => [Path.ofText path]
  | .show _ none _ | .doctor => directory.ancestors.map (·.join Config.fileName)
  | .check path => [Path.ofText path]
  | .init path _ => [destination directory path]

/-- The paths a command line may look at. -/
def Request.paths (directory : Path) : Request → List Path
  | .run i => i.paths directory
  | .version | .help | .misuse => []

/-- Runs what a command line asks for. -/
def runRequest (s : Setting) : Request → Outcome
  | .run i => runInvocation s i
  | .version => s.success (programName ++ " " ++ versionText ++ "\n")
  | .help => s.success ""
  | .misuse => ⟨misuseCode, "", none, s.tree⟩

/-- **Runs a command line.** -/
def run (s : Setting) (arguments : List String) : Outcome :=
  runRequest s (Request.ofArguments arguments)

end JitTarget.Command
