/-
  JitTarget.Files.Tree
  ────────────────────────────────
  **FILES AND DIRECTORIES.**

  A tree maps locations, the names from the root down, to files and
  directories.  A path is walked piece by piece from the working directory or
  from the root; every piece but the last has to be a directory.  Names and
  paths have a greatest length in bytes.

      resolve  — where a path leads
      read     — the bytes of a file
      write    — the tree with a file created or replaced
-/
import JitTarget.Files.Path
import JitTarget.Store

namespace JitTarget

-- bytes are compared as the library itself does, whatever is imported beside it
attribute [local instance (2000)] ByteArray.instDecidableEq

/-! ## §1. Trees. -/

/-- The names from the root down. -/
abbrev Location := List String

/-- What stands at a location. -/
inductive Entry where
  | directory
  | file (contents : ByteArray)
  deriving DecidableEq

/-- Files and directories by location. The root is always there. -/
structure FileTree where
  entries : Store Location Entry := {}
  deriving DecidableEq, Inhabited

/-- Why a file cannot be used. -/
inductive FileFault where
  /-- Something on the way is missing. -/
  | notFound
  /-- Something on the way is a file. -/
  | notDirectory
  /-- A directory stands where a file is wanted. -/
  | isDirectory
  /-- A name or a path is longer than any can be. -/
  | nameTooLong
  /-- The bytes are no text. -/
  | notText
  deriving Repr, DecidableEq

/-- The text of a fault. -/
def FileFault.message : FileFault → String
  | notFound => "No such file or directory (os error 2)"
  | notDirectory => "Not a directory (os error 20)"
  | isDirectory => "Is a directory (os error 21)"
  | nameTooLong => "File name too long (os error 36)"
  | notText => "stream did not contain valid UTF-8"

namespace FileTree

/-- What stands at a location. -/
def entry? (t : FileTree) (place : Location) : Option Entry :=
  if place.isEmpty then some .directory else t.entries.get? place

/-- Puts an entry at a location, in place of one that is there. -/
def put (t : FileTree) (place : Location) (e : Entry) : FileTree :=
  ⟨t.entries.put place e⟩

/-- Makes a directory of every location of a list at which nothing stands. -/
def makeDirectories (t : FileTree) (places : List Location) : FileTree :=
  places.foldl
    (fun t place => if (t.entry? place).isSome then t else t.put place .directory) t

/-! ## §2. Walking a path. -/

/-- The greatest number of bytes in a name. -/
def nameLimit : Nat := 255

/-- The number of bytes no path reaches. -/
def pathLimit : Nat := 4096

/-- Refuses a path that is too long whatever it names, and the empty path, which
names nothing. -/
def checkPath (p : Path) : Except FileFault Unit :=
  if p = ⟨.bare, []⟩ then .error .notFound
  else if pathLimit ≤ p.toText.utf8ByteSize then .error .nameTooLong
  else .ok ()

/-- The location one piece further: an idle piece stays, two dots go up. -/
def onward (place : Location) (piece : String) : Location :=
  if Path.isIdle piece then place
  else if piece = ".." then place.dropLast
  else place ++ [piece]

/-- Walks pieces from a location that is there. -/
def walk (t : FileTree) : Location → List String → Except FileFault Location
  | place, [] => .ok place
  | place, piece :: rest =>
      match t.entry? place with
      | some .directory =>
          if nameLimit < piece.utf8ByteSize then .error .nameTooLong
          else
            match t.entry? (onward place piece) with
            | some _ => walk t (onward place piece) rest
            | none => .error .notFound
      | _ => .error .notDirectory

/-- The locations a walk passes where nothing stops it. -/
def passed : Location → List String → List Location
  | place, [] => [place]
  | place, piece :: rest => place :: passed (onward place piece) rest

/-- Where the walk of a path starts. -/
def start (workingDir : Location) (p : Path) : Location :=
  if p.anchor = .root then [] else workingDir

/-- Where a path leads. -/
def resolve (t : FileTree) (workingDir : Location) (p : Path) :
    Except FileFault Location := do
  checkPath p
  t.walk (start workingDir p) p.pieces

/-- What a path leads to. -/
def find? (t : FileTree) (workingDir : Location) (p : Path) : Option Entry :=
  match t.resolve workingDir p with
  | .ok place => t.entry? place
  | .error _ => none

/-- Whether a path leads anywhere. -/
def hasEntry (t : FileTree) (workingDir : Location) (p : Path) : Bool :=
  (t.find? workingDir p).isSome

/-- Whether a path leads to a file. -/
def hasFile (t : FileTree) (workingDir : Location) (p : Path) : Bool :=
  match t.find? workingDir p with
  | some (.file _) => true
  | _ => false

/-- The bytes of the file a path leads to. -/
def read (t : FileTree) (workingDir : Location) (p : Path) :
    Except FileFault ByteArray := do
  let place ← t.resolve workingDir p
  match t.entry? place with
  | some (.file contents) => return contents
  | some .directory => throw .isDirectory
  | none => throw .notFound

/-- The text of the file a path leads to. -/
def readText (t : FileTree) (workingDir : Location) (p : Path) :
    Except FileFault String := do
  match String.fromUTF8? (← t.read workingDir p) with
  | some text => return text
  | none => throw .notText

/-- Writes a file under a name in a directory that is there. A name with a slash
behind it asks for a directory, which no file can be. -/
def writeAt (t : FileTree) (directory : Location) (name : String) (slashed : Bool)
    (contents : ByteArray) : Except FileFault FileTree :=
  match t.entry? directory with
  | some .directory =>
      if slashed then .error .isDirectory
      else if nameLimit < name.utf8ByteSize then .error .nameTooLong
      else
        match t.entry? (directory ++ [name]) with
        | some .directory => .error .isDirectory
        | _ => .ok (t.put (directory ++ [name]) (.file contents))
  | _ => .error .notDirectory

/-- Writes the file a path names, whose directory has to be there. -/
def write (t : FileTree) (workingDir : Location) (p : Path) (contents : ByteArray) :
    Except FileFault FileTree := do
  checkPath p
  let slashes := p.pieces.reverse.takeWhile (· == "")
  match p.pieces.reverse.dropWhile (· == "") with
  -- the path is a root or a leading dot, with slashes at most behind it
  | [] => throw .isDirectory
  | name :: before =>
      -- dots name a directory, if they name anything
      if name = "." ∨ name = ".." then do
        let _ ← t.resolve workingDir p
        throw .isDirectory
      else do
        let directory ← t.walk (start workingDir p) before.reverse
        t.writeAt directory name (!slashes.isEmpty) contents

end FileTree

end JitTarget
