/-
  JitTarget.Toml.Location
  ────────────────────────────────
  **WHERE A PART OF A DOCUMENT STANDS.**

  A place names a part of the data; `locate` finds where the document spells it.
  A part that is spelt nowhere, such as a table that other headers imply, is
  shown by what is nearest to it:

      under a key                 — that key
      in a list, or under the     — the list or the choice, or what is nearest
      name of a choice              to that
-/
import JitTarget.Toml.Document
import JitTarget.Schema.Place

namespace JitTarget.Toml

open Schema

/-- What stands under a key of a table, behind where the key stands. -/
def Node.entry? (key : String) : Node → Option (Extent × Node)
  | .inline entries _ => entries.lookup key
  | .branch b => b.entries.lookup key
  | _ => none

/-- An item of an array. -/
def Node.item? (position : Nat) : Node → Option Node
  | .array items _ => items[position]?
  | .series tables => tables[position]?.map .branch
  | _ => none

/-- One step down, behind what is shown of a part that stands nowhere; `shown` is
what is shown of the node itself. -/
def Node.below? (shown : Option Extent) (node : Node) : Step → Option (Option Extent × Node)
  | .field key => (node.entry? key).map (fun (extent, part) => (some extent, part))
  | .choice name => (node.entry? name).map (fun (_, part) => (shown, part))
  | .item position => (node.item? position).map (fun part => (shown, part))

/-- Where a part of a node stands, or what is shown instead: the key at fault, or
else the part, or else what is nearest to it. -/
def Node.locate (key : Option String) (nearest : Option Extent) (node : Node) :
    List Step → Option Extent
  | [] =>
      (key.bind node.entry?).map Prod.fst <|> node.extent? <|> nearest
  | step :: steps =>
      let shown := node.extent? <|> nearest
      match node.below? shown step with
      | some (nearest, part) => part.locate key nearest steps
      | none => shown

/-- **Where a place of a document stands**; what is nowhere in the document stands
in front of its end. -/
def Document.locate (d : Document) (place : Place) : Extent :=
  (Node.locate place.key none (.branch d) place.steps).getD (.point [])

end JitTarget.Toml
