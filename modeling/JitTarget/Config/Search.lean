/-
  JitTarget.Config.Search
  ────────────────────────────────
  **CONFIGURATION FILES, FOUND.**

  A configuration is loaded from a path that is given, or from the nearest
  file of the conventional name: in a directory itself, or else in the next
  ancestor that has one.  The nearest file counts even when it cannot be used.
-/
import JitTarget.Config.FromToml
import JitTarget.Files.Tree

namespace JitTarget.Config

/-! ## §1. Loading. -/

/-- Why a configuration cannot be loaded. -/
inductive LoadError where
  /-- Nothing stands at the path. -/
  | missing (path : Path)
  /-- What stands there cannot be read. -/
  | unreadable (fault : FileFault)
  /-- What was read is no configuration. -/
  | invalid (cause : ParseError)
  deriving Repr, DecidableEq

/-- The text of a load error. -/
def LoadError.message : LoadError → String
  | missing path => "config file not found: " ++ path.toText
  | unreadable fault => "I/O error: " ++ fault.message
  | invalid cause => "TOML parse error: " ++ cause.message

/-- Loads the configuration at a path. -/
def load (t : FileTree) (workingDir : Location) (path : Path) :
    Except LoadError Config :=
  if t.hasEntry workingDir path then do
    let text ← (t.readText workingDir path).mapError .unreadable
    (parse text).mapError .invalid
  else .error (.missing path)

/-! ## §2. Searching. -/

/-- A configuration with the directory it was found in. -/
structure Located where
  config : Config
  directory : Path
  deriving Repr, DecidableEq

/-- The first directory of a list that holds a configuration file. -/
def nearest? (t : FileTree) (workingDir : Location) (directories : List Path) :
    Option Path :=
  directories.find? (fun d => t.hasFile workingDir (d.join fileName))

/-- **Finds the nearest configuration** of a path: its own, or that of the next
ancestor with one. -/
def find (t : FileTree) (workingDir : Location) (path : Path) :
    Except LoadError (Option Located) :=
  match nearest? t workingDir path.ancestors with
  | none => .ok none
  | some d => (load t workingDir (d.join fileName)).map (fun c => some ⟨c, d⟩)

/-- The notice of a configuration that was found. -/
def Located.notice (l : Located) : Notice :=
  .loaded (l.directory.join fileName).toText

end JitTarget.Config
