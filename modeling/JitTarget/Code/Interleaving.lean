/-
  JitTarget.Code.Interleaving
  ────────────────────────────────
  **CALLERS SIDE BY SIDE ON ONE ALLOCATOR.**

  A call changes the counters in steps, and between two of them other callers
  make steps of their own.  A crew is an allocator with the callers that share
  it; every caller is at some stage of a call, or in none:

      allocation  — mapped, counted, returning
      release     — surrendered, discounted, returning; or overdrawn between
                    the two, when the bytes cannot be discounted

  One move lets one caller begin a call or make the next step of the one it is
  in.  A list of moves, in any order, is one way for the callers to interleave.
  A step is indivisible and changes one counter at most; nothing is said of the
  order in which callers see each other's memory, and of both counters together
  only where no call is in progress.
-/
import JitTarget.Code.Ledger

namespace JitTarget

namespace Crew

/-! ## §1. What a caller gets. -/

/-- A region an allocator handed out: which of its mappings it is, and the size
it was created with, which is all a release looks at. -/
structure Grant where
  serial : Nat
  size : Nat
  deriving Repr, DecidableEq

/-- What a call returns. -/
inductive Answer where
  | granted (g : Grant)
  | released
  | failed (fault : CodeFault)
  deriving Repr, DecidableEq

/-- What one move comes to. -/
inductive Event where
  /-- The move is not for the caller to make. -/
  | skipped
  | began
  /-- A counter was added to. -/
  | added (startsOver : Bool)
  /-- A counter was to be taken from. -/
  | deducted (enough : Bool)
  /-- A region that was discounted too early is counted again. -/
  | putBack
  | returned (answer : Answer)
  deriving Repr, DecidableEq

/-- The regions that are handed out by it. -/
def Event.grants : Event → List Grant
  | returned (.granted g) => [g]
  | skipped | began | added _ | deducted _ | putBack
  | returned .released | returned (.failed _) => []

/-! ## §2. The stages of a call. -/

/-- Where a caller is. -/
inductive Stage where
  /-- In no call. -/
  | idle
  /-- It allocates, and the memory is there. -/
  | mapped (g : Grant)
  /-- It allocates, and the region is counted too. -/
  | counted (g : Grant)
  /-- It releases, and the memory is gone. -/
  | surrendered (size : Nat)
  /-- It releases, and the region is discounted too. -/
  | discounted (size : Nat)
  /-- It releases, and there are too few bytes to be discounted. -/
  | overdrawn (size : Nat)
  /-- Only the answer is left to be given. -/
  | returning (answer : Answer)
  deriving Repr, DecidableEq

namespace Stage

/-- The stage an allocation begins with; the serial is that of the next mapping. -/
def request (os : Platform) (serial size : Nat) : Stage :=
  if size = 0 then .returning (.failed .emptyRegion)
  else
    match Region.map os size with
    | .error fault => .returning (.failed fault)
    | .ok r => .mapped ⟨serial, r.size⟩

/-- The sizes that are mapped where a call has just begun. -/
def mappings : Stage → List Nat
  | mapped g => [g.size]
  | idle | counted _ | surrendered _ | discounted _ | overdrawn _ | returning _ => []

/-- **The next step of a call**, which changes one counter at most. -/
def proceed (l : Ledger) : Stage → Event × Stage × Ledger
  | idle => (.skipped, .idle, l)
  | mapped g => (.added (decide (2 ^ 64 ≤ l.regions + 1)), .counted g, l.countRegion)
  | counted g =>
      (.added (decide (2 ^ 64 ≤ l.bytes + g.size)), .returning (.granted g), l.countBytes g.size)
  | surrendered size =>
      match l.discountRegion? with
      | none => (.deducted false, .returning (.failed (.unknownRegion size)), l)
      | some rest => (.deducted true, .discounted size, rest)
  | discounted size =>
      match l.discountBytes? size with
      | none => (.deducted false, .overdrawn size, l)
      | some rest => (.deducted true, .returning .released, rest)
  | overdrawn size => (.putBack, .returning (.failed (.unknownRegion size)), l.countRegion)
  | returning answer => (.returned answer, .idle, l)

end Stage

end Crew

/-! ## §3. Crews. -/

/-- An allocator and the callers that share it. -/
structure Crew where
  ledger : Ledger
  /-- Where each caller is. -/
  stages : List Crew.Stage
  /-- The regions that were handed out and not given back since. -/
  out : List Crew.Grant
  /-- The sizes of everything that was ever mapped. -/
  mapped : List Nat
  deriving Repr, DecidableEq

namespace Crew

/-- A number of callers on an allocator nobody has used. -/
def start (callers : Nat) : Crew := ⟨.empty, List.replicate callers .idle, [], []⟩

/-- No call is in progress. -/
def Quiet (c : Crew) : Prop := ∀ s ∈ c.stages, s = .idle

instance (c : Crew) : Decidable c.Quiet :=
  inferInstanceAs (Decidable (∀ s ∈ c.stages, s = .idle))

/-- The bytes that are out. -/
def outstanding (c : Crew) : Nat := (c.out.map Grant.size).sum

/-- One caller does one thing. -/
inductive Move where
  | allocate (caller : Nat) (os : Platform) (size : Nat)
  | release (caller : Nat) (g : Grant)
  /-- The next step of the call it is in. -/
  | proceed (caller : Nat)

/-- **One move.** A caller that is in a call begins no other. -/
def step (c : Crew) : Move → Event × Crew
  | .allocate caller os size =>
      match c.stages[caller]? with
      | some .idle =>
          let s := Stage.request os c.mapped.length size
          (.began, { c with stages := c.stages.set caller s, mapped := c.mapped ++ s.mappings })
      | _ => (.skipped, c)
  | .release caller g =>
      match c.stages[caller]? with
      | some .idle =>
          (.began, { c with
            stages := c.stages.set caller (.surrendered g.size)
            out := c.out.erase g })
      | _ => (.skipped, c)
  | .proceed caller =>
      match c.stages[caller]? with
      | none => (.skipped, c)
      | some s =>
          let (e, s, l) := s.proceed c.ledger
          (e, { c with
            ledger := l
            stages := c.stages.set caller s
            out := e.grants ++ c.out })

/-- The regions a move gives back that are not out. -/
def strays (c : Crew) : Move → List Grant
  | .release caller g => if c.stages[caller]? = some .idle ∧ g ∉ c.out then [g] else []
  | .allocate _ _ _ | .proceed _ => []

/-! ## §4. Runs. -/

/-- Where a list of moves leads. -/
def run (c : Crew) : List Move → Crew
  | [] => c
  | m :: rest => run (c.step m).2 rest

/-- What the moves of a list come to. -/
def events (c : Crew) : List Move → List Event
  | [] => []
  | m :: rest => (c.step m).1 :: events (c.step m).2 rest

/-- The regions a list of moves gives back that are not out at that time: those
the allocator never handed out, those that were given back before, and those it
is still about to hand out. -/
def straysIn (c : Crew) : List Move → List Grant
  | [] => []
  | m :: rest => c.strays m ++ straysIn (c.step m).2 rest

end Crew

end JitTarget
