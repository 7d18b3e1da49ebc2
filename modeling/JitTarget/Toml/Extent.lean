/-
  JitTarget.Toml.Extent
  ────────────────────────────────
  **WHERE THINGS STAND IN A DOCUMENT.**

  A reader knows the characters that are left, so places are counted from the
  end of the document: an extent starts where so many characters are left and
  stops where so many are left behind it.
-/
import JitTarget.Toml.Trivia
import JitTarget.Text.Excerpt

namespace JitTarget.Toml

/-! ## §1. Extents. -/

/-- A passage of a document: the characters left where it starts, and those left
behind it. -/
structure Extent where
  start : Nat
  stop : Nat
  deriving Repr, DecidableEq

namespace Extent

/-- The passage between what was left before it and what is left behind it. -/
def between (cs rest : List Char) : Extent := ⟨cs.length, rest.length⟩

/-- The empty passage in front of what is left. -/
def point (cs : List Char) : Extent := between cs cs

/-- From the start of one passage to the end of another. -/
def through (first last : Extent) : Extent := ⟨first.start, last.stop⟩

/-- The passage in its line of the document. -/
def excerpt (e : Extent) (document : String) : Text.Excerpt :=
  let cs := document.toList
  Text.Excerpt.ofParts (cs.take (cs.length - e.start))
    ((cs.drop (cs.length - e.start)).take (e.start - e.stop))
    (cs.drop (cs.length - e.stop))

end Extent

/-! ## §2. Reading with extents. -/

/-- What a reader reads, with where it stands. -/
def located {α : Type} (read : Reader α) (cs : List Char) :
    Option ((α × Extent) × List Char) :=
  (read cs).map (fun (a, r) => ((a, .between cs r), r))

end JitTarget.Toml
