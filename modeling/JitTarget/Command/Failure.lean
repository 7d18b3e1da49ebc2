/-
  JitTarget.Command.Failure
  ────────────────────────────────
  **WHY A COMMAND FAILS.**

  A failure is a cause within contexts, the outermost first.  Its text joins
  them with colons; a cause that wraps another repeats the inner text behind
  its own.
-/
import JitTarget.Config.Search

namespace JitTarget.Command

/-- The innermost cause of a failure. -/
inductive Cause where
  /-- A configuration cannot be loaded. -/
  | load (cause : Config.LoadError)
  /-- A text names no family. -/
  | unknownFamily (cause : Family.UnknownName)
  /-- There is no such output format. -/
  | unknownFormat (name : String)
  /-- Something stands where a file was to be written. -/
  | alreadyExists (path : Path)
  /-- A file cannot be written. -/
  | unwritable (fault : FileFault)
  /-- A configuration has errors. -/
  | hasErrors (path : Path) (count : Nat)
  deriving Repr, DecidableEq

/-- The texts of a cause, from the outside in. -/
def Cause.texts : Cause → List String
  | load cause =>
      match cause with
      | .missing _ => [cause.message]
      | .unreadable fault => [cause.message, fault.message]
      | .invalid inner => [cause.message, inner.message]
  | unknownFamily cause => [cause.message]
  | unknownFormat name => ["unknown format '" ++ name ++ "' (expected human, toml or json)"]
  | alreadyExists path => ["'" ++ path.toText ++ "' already exists"]
  | unwritable fault => [fault.message]
  | hasErrors path count => [path.toText ++ ": " ++ toString count ++ " error(s)"]

/-- A cause within contexts. -/
structure Failure where
  contexts : List String := []
  cause : Cause
  deriving Repr, DecidableEq

namespace Failure

/-- What an error message starts with. -/
def lead : String := "error: "

/-- The text of a failure. -/
def text (f : Failure) : String :=
  lead ++ String.intercalate ": " (f.contexts ++ f.cause.texts)

end Failure

end JitTarget.Command
