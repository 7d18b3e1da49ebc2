/-
  JitTarget.Files.Path
  ────────────────────────────────
  **PATHS AS PEOPLE WRITE THEM.**

  A path keeps its text to the letter: where it starts, and the pieces between
  its slashes.  Pieces that are empty or a single dot are idle; they stand in
  the text but name nothing.

      ancestors  — the path itself, then shorter and shorter ones, by the text
                   alone
      join       — a name placed under the path
-/

namespace JitTarget

/-! ## §1. Paths and their text. -/

/-- Where a path starts. -/
inductive Anchor where
  /-- Nowhere in particular: the text starts with its first piece. -/
  | bare
  /-- At the root: the text starts with a slash. -/
  | root
  /-- At a leading dot, which stands alone or before a slash. -/
  | here
  deriving Repr, DecidableEq

/-- A path: where it starts, and the pieces between slashes behind that. -/
structure Path where
  anchor : Anchor
  pieces : List String
  deriving Repr, DecidableEq

namespace Path

/-- The pieces between the slashes of a text; an empty text has none. -/
def split : List Char → List (List Char)
  | [] => []
  | '/' :: r =>
      match split r with
      | [] => [[], []]
      | pieces => [] :: pieces
  | c :: r =>
      match split r with
      | [] => [[c]]
      | first :: rest => (c :: first) :: rest

/-- The path a text spells. -/
def ofText (text : String) : Path :=
  let pieces (cs : List Char) := (split cs).map String.ofList
  match text.toList with
  | '/' :: r => ⟨.root, pieces r⟩
  | '.' :: [] => ⟨.here, []⟩
  | '.' :: '/' :: r => ⟨.here, pieces ('/' :: r)⟩
  | cs => ⟨.bare, pieces cs⟩

/-- The text of a path's start. -/
def anchorText : Anchor → String
  | .bare => ""
  | .root => "/"
  | .here => "."

/-- The text of a path. -/
def toText (p : Path) : String :=
  anchorText p.anchor ++ String.intercalate "/" p.pieces

/-- Whether a piece names nothing. -/
def isIdle (piece : String) : Bool := piece == "" || piece == "."

/-! ## §2. Ancestors. -/

/-- The pieces of the proper ancestors, from the pieces listed backwards. -/
def shorter : List String → List (List String)
  | [] => []
  | piece :: rest =>
      if isIdle piece then shorter rest else rest.dropWhile isIdle :: shorter rest

/-- The path itself, then the path without its last piece, and so on. A leading
dot is dropped last and leaves the empty path. -/
def ancestors (p : Path) : List Path :=
  p :: (shorter p.pieces.reverse).map (fun pieces => ⟨p.anchor, pieces.reverse⟩)
    ++ (if p.anchor = .here then [⟨.bare, []⟩] else [])

/-- The path without its last piece, if it has one to lose. -/
def parent? (p : Path) : Option Path :=
  match p.pieces.reverse.dropWhile isIdle with
  | _ :: rest => some ⟨p.anchor, (rest.dropWhile isIdle).reverse⟩
  | [] => if p.anchor = .here then some ⟨.bare, []⟩ else none

/-! ## §3. Joining. -/

/-- The path of a name under this path; no second slash is put where the text
ends in one. -/
def join (p : Path) (name : String) : Path :=
  match p.pieces.getLast? with
  -- the text ends in a slash already
  | some "" => { p with pieces := p.pieces.dropLast ++ [name] }
  | some _ => { p with pieces := p.pieces ++ [name] }
  | none =>
      { p with pieces := if p.anchor = .here then ["", name] else [name] }

end Path

end JitTarget
