/-
  JitTarget.Files.Ancestry
  ────────────────────────────────
  **THE COMPONENTS OF A PATH, DROPPED ONE BY ONE.**

  A path is made of components: its start, where that is the root or a dot, and the
  pieces that are not idle.  The ancestors of a path are what is left of its text as
  the last component goes, again and again, until nothing or the root is left:

      components  — what a path is made of
      Drops       — one path is another without its last component
      Climb       — a path with all its ancestors, the nearest first
-/
import JitTarget.Files.Path

namespace JitTarget

/-- A part of a path that counts. -/
inductive Component where
  /-- The slash in front. -/
  | root
  /-- The dot in front. -/
  | here
  /-- A piece that is not idle; two dots are one. -/
  | named (piece : String)
  deriving Repr, DecidableEq

namespace Path

/-- The start of a path as a component, where it is one. -/
def anchorComponents : Anchor → List Component
  | .bare => []
  | .root => [.root]
  | .here => [.here]

/-- **The components of a path**, the first one first. -/
def components (p : Path) : List Component :=
  anchorComponents p.anchor ++ (p.pieces.filter (fun piece => !isIdle piece)).map .named

/-- **A path without its last component.** The root is not dropped. -/
structure Drops (p q : Path) : Prop where
  components_eq : ∃ last, last ≠ .root ∧ p.components = q.components ++ [last]
  /-- What is left is a beginning of the text. -/
  isPrefix : q.toText.toList <+: p.toText.toList
  /-- No slash and no idle dot is left behind. -/
  trimmed : ∀ piece, q.pieces.getLast? = some piece → isIdle piece = false

/-- **A path and its ancestors**, the nearest first. -/
inductive Climb : Path → List Path → Prop where
  /-- The climb ends in the empty path or in the root. -/
  | top {p : Path} (hends : p.components = [] ∨ p.components = [.root]) : Climb p [p]
  /-- Above a path stands the path without its last component. -/
  | up {p q : Path} {above : List Path} (hdrops : Drops p q) (habove : Climb q above) :
      Climb p (p :: above)

end Path

end JitTarget
