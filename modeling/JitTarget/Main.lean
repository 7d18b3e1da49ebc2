/-
  JitTarget.Main
  ────────────────────────────────
  **THE COMMAND LINE.**

  Copies the files a command may look at into a tree, runs the command on that
  tree, and carries out what it did: prints its text, and writes the files that
  are new.
-/
import JitTarget.Command.Run

namespace JitTarget.Command

/-! ## §1. Reading. -/

/-- The text of the path to a location. -/
def placeText (place : Location) : String := (Path.mk .root place).toText

/-- What stands at a location, as far as it can be read. Only a directory has a
dot in it. -/
def lookUp (place : Location) : IO (Option Entry) := do
  match ← (IO.FS.realPath (placeText place ++ "/.")).toBaseIO with
  | .ok _ => return some .directory
  | .error _ =>
      match ← (IO.FS.readBinFile (placeText place)).toBaseIO with
      | .ok contents => return some (.file contents)
      | .error _ => return none

/-- Copies a location into a tree. -/
def copyInto (t : FileTree) (place : Location) : IO FileTree := do
  match ← lookUp place with
  | some e => return t.put place e
  | none => return t

/-- The locations on the way to a path. -/
def wayTo (workingDir : Location) (p : Path) : List Location :=
  FileTree.passed (FileTree.start workingDir p) p.pieces

/-- The tree of everything on the way to some paths. -/
def copyOf (workingDir : Location) (paths : List Path) : IO FileTree :=
  (paths.flatMap (wayTo workingDir)).foldlM copyInto {}

/-! ## §2. Running. -/

/-- The build-time override: this build has none. -/
def buildOverride : Option String := none

/-- What a misused command line is answered. -/
def usage : String :=
  "usage: jitcfg families | show [--family F] [--config PATH] [--format F] | check PATH"
    ++ " | init [PATH] [--family F] | doctor"

/-- Writes the files of a tree that differ from an older one. -/
def writeNew (before after : FileTree) : IO Unit :=
  after.entries.entries.forM fun (place, e) =>
    match e with
    | .file contents =>
        if before.entry? place = some e then pure ()
        else IO.FS.writeBinFile (placeText place) contents
    | .directory => pure ()

/-- Runs a request where the program was started. -/
def perform (request : Request) : IO Outcome := do
  let here := Path.ofText (toString (← IO.currentDir))
  let tree ← copyOf here.pieces (request.paths here)
  let outcome := runRequest ⟨tree, here.pieces, buildOverride, true⟩ request
  writeNew tree outcome.tree
  return outcome

end JitTarget.Command

open JitTarget.Command in
/-- The program. -/
def main (arguments : List String) : IO UInt32 := do
  let outcome ← perform (Request.ofArguments arguments)
  IO.print outcome.stdout
  match outcome.failure with
  | some failure => IO.eprintln failure.text
  | none => if outcome.exitCode = misuseCode then IO.eprintln usage
  return UInt32.ofNat outcome.exitCode
