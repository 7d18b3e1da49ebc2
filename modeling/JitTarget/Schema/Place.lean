/-
  JitTarget.Schema.Place
  ────────────────────────────────
  **WHERE A DOCUMENT DOES NOT FIT.**

  A place is a path into a value: the steps down to the part that does not fit,
  and the key of that part, if the key itself is at fault.  A reader of one
  part knows the end of the path only; the readers around it put their steps in
  front.
-/
import JitTarget.Schema.Mismatch

namespace JitTarget.Schema

/-! ## §1. Places. -/

/-- One step down into a value. -/
inductive Step where
  /-- To what stands under a key. -/
  | field (key : String)
  /-- To an item of a list. -/
  | item (position : Nat)
  /-- To what stands under the name of a choice. -/
  | choice (name : String)
  deriving Repr, DecidableEq

/-- A part of a value, or one of its keys. -/
structure Place where
  steps : List Step := []
  key : Option String := none
  deriving Repr, DecidableEq

/-- The place one step further out. -/
def Place.under (step : Step) (p : Place) : Place :=
  { p with steps := step :: p.steps }

/-! ## §2. Flaws. -/

/-- What does not fit, and where. -/
structure Flaw where
  cause : Mismatch
  place : Place := {}
  deriving Repr, DecidableEq

variable {α : Type}

/-- Refuses a value as a whole. -/
def refuse (cause : Mismatch) : Except Flaw α := .error ⟨cause, {}⟩

/-- Refuses a key of a value. -/
def refuseKey (key : String) (cause : Mismatch) : Except Flaw α :=
  .error ⟨cause, { key := some key }⟩

/-- What was read of a part, as read of the whole: a flaw is one step further
down. -/
def within (step : Step) (part : Except Flaw α) : Except Flaw α :=
  part.mapError (fun flaw => { flaw with place := flaw.place.under step })

end JitTarget.Schema
