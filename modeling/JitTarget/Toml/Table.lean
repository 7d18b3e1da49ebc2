/-
  JitTarget.Toml.Table
  ────────────────────────────────
  **HOW STATEMENTS BUILD TABLES.**

  While a document is read, each table remembers how it came to be, because
  that decides what may still be added to it:

      written  — by its own header, or as an element of an array of tables
      implied  — as a parent in somebody else's header; a header may follow
      dotted   — by a dotted key; only dotted keys may add to it

  A key is set at most once, and a value is never reopened as a table.  Every
  key and every value remembers where it stands.
-/
import JitTarget.Toml.Basic
import JitTarget.Toml.Extent

namespace JitTarget.Toml

/-! ## §1. Keys and growing tables. -/

/-- One part of a key, with where it stands. -/
structure Part where
  text : String
  extent : Extent
  deriving Repr, DecidableEq

/-- A dotted key: the parts before the last one, and that. -/
structure Key where
  parents : List Part
  last : Part
  deriving Repr, DecidableEq

/-- The key one part further down. -/
def Key.under (part : Part) (k : Key) : Key :=
  { k with parents := part :: k.parents }

/-- How a table came to be. -/
inductive Origin where
  | written
  | implied
  | dotted
  deriving Repr, DecidableEq

/-- A table that may still grow: how it came to be, the passage from its header
to its last value if it has a header, and its keys, each with where it stands
and what it holds. -/
structure Branch (Node : Type) where
  origin : Origin
  extent : Option Extent
  entries : List (String × Extent × Node)

/-- What a key holds. -/
inductive Node where
  | atom (a : Atom) (extent : Extent)
  | array (items : List Node) (extent : Extent)
  /-- A table between braces, which is finished. -/
  | inline (entries : List (String × Extent × Node)) (extent : Extent)
  /-- A table that may still grow. -/
  | branch (b : Branch Node)
  /-- An array of tables; the last may still grow. -/
  | series (tables : List (Branch Node))

/-- Keys with where they stand and what they hold. -/
abbrev Entries := List (String × Extent × Node)

/-- Where a node stands. Tables that others only imply stand nowhere; an array of
tables stands from its first one to its last. -/
def Node.extent? : Node → Option Extent
  | .atom _ e | .array _ e | .inline _ e => some e
  | .branch b => b.extent
  | .series tables => do
      let first ← tables.head?
      let last ← tables.getLast?
      return .through (← first.extent) (← last.extent)

/-! ## §2. Changing the keys of a table. -/

/-- Puts a node under a key that is there. -/
def replaceNode (key : String) (node : Node) : Entries → Entries
  | [] => []
  | (k, e, n) :: rest =>
      if k = key then (k, e, node) :: rest else (k, e, n) :: replaceNode key node rest

/-- Takes a key out. -/
def removeNode (key : String) : Entries → Entries
  | [] => []
  | (k, e, n) :: rest => if k = key then rest else (k, e, n) :: removeNode key rest

namespace Branch

/-- What a key holds in a table. -/
def get? (b : Branch Node) (key : String) : Option Node :=
  (b.entries.lookup key).map Prod.snd

/-- The table with one more key at its end. -/
def append (b : Branch Node) (part : Part) (node : Node) : Branch Node :=
  { b with entries := b.entries ++ [(part.text, part.extent, node)] }

/-- The table with another node under a key that is there. -/
def replace (b : Branch Node) (key : String) (node : Node) : Branch Node :=
  { b with entries := replaceNode key node b.entries }

/-- The table without a key. -/
def remove (b : Branch Node) (key : String) : Branch Node :=
  { b with entries := removeNode key b.entries }

/-- The table, if it has a header, reaching to the end of a value. -/
def reaching (b : Branch Node) (value : Node) : Branch Node :=
  match b.extent, value.extent? with
  | some e, some v => { b with extent := some (e.through v) }
  | _, _ => b

end Branch

/-- Changes the table at the end of a path. Tables missing on the way are made;
an array of tables is entered through its last element. A dotted path goes
through no table that has been written out. -/
def descend (isDotted : Bool) (change : Branch Node → Option (Branch Node)) :
    List Part → Branch Node → Option (Branch Node)
  | [], b => change b
  | part :: path, b =>
      match b.get? part.text with
      | none =>
          (descend isDotted change path
            ⟨if isDotted then .dotted else .implied, none, []⟩).map
              (fun child => b.append part (.branch child))
      | some (.branch child) =>
          -- a header has closed this table to dotted keys from outside
          if isDotted && child.origin == .written then none
          else
            (descend isDotted change path child).map
              (fun child => b.replace part.text (.branch child))
      -- an array of tables stands for its last table
      | some (.series tables) =>
          match tables.getLast? with
          | none => none
          | some table =>
              (descend isDotted change path table).map
                (fun table => b.replace part.text (.series (tables.dropLast ++ [table])))
      -- a value is never reopened
      | some _ => none

/-! ## §3. The three steps. -/

/-- Sets the last part of a key. A table that dotted keys made takes keys from
dotted keys only, and any other table takes only undotted ones. -/
def setLast (key : Key) (value : Node) (b : Branch Node) : Option (Branch Node) :=
  -- a dotted key ends in a dotted table, a key alone in any other
  if (b.origin == .dotted) == key.parents.isEmpty then none
  else if (b.get? key.last.text).isSome then none
  else some (b.append key.last value)

/-- Sets a key within a table. -/
def Branch.set? (b : Branch Node) (key : Key) (value : Node) : Option (Branch Node) :=
  (descend true (setLast key value) key.parents b).map (·.reaching value)

/-- Opens a table by its header, which stands somewhere. A table that was only
implied so far moves behind its neighbours. -/
def Branch.openTable? (b : Branch Node) (key : Key) (header : Extent) :
    Option (Branch Node) :=
  descend false
    (fun parent =>
      match parent.get? key.last.text with
      | none => some (parent.append key.last (.branch ⟨.written, some header, []⟩))
      -- a parent of an earlier header gets its own at last
      | some (.branch ⟨.implied, _, entries⟩) =>
          some ((parent.remove key.last.text).append key.last
            (.branch ⟨.written, some header, entries⟩))
      | some _ => none)
    key.parents b

/-- Opens a new element of an array of tables by its header. -/
def Branch.openElement? (b : Branch Node) (key : Key) (header : Extent) :
    Option (Branch Node) :=
  descend false
    (fun parent =>
      let table : Branch Node := ⟨.written, some header, []⟩
      match parent.get? key.last.text with
      | none => some (parent.append key.last (.series [table]))
      | some (.series tables) =>
          some (parent.replace key.last.text (.series (tables ++ [table])))
      | some _ => none)
    key.parents b

/-- The entries of an inline table with these assignments. -/
def inlineEntries? (assignments : List (Key × Node)) : Option Entries :=
  (assignments.foldlM (fun (b : Branch Node) (k, v) => b.set? k v) ⟨.written, none, []⟩).map
    Branch.entries

/-! ## §4. The data of a table. -/

mutual

/-- The value a node holds in the end. -/
def Node.data : Node → Value
  | .atom a _ => .atom a
  | .array items _ => .array (dataOfItems items)
  | .inline entries _ => .table (dataOfEntries entries)
  | .branch b => .table (Branch.data b)
  | .series tables => .series (dataOfTables tables)

/-- The values of an array's items. -/
def dataOfItems : List Node → List Value
  | [] => []
  | n :: rest => n.data :: dataOfItems rest

/-- The keys of a table with their values. -/
def dataOfEntries : Entries → Table
  | [] => []
  | (k, _, n) :: rest => (k, n.data) :: dataOfEntries rest

/-- The keys of a growing table with their values. -/
def Branch.data : Branch Node → Table
  | ⟨_, _, entries⟩ => dataOfEntries entries

/-- The tables of an array. -/
def dataOfTables : List (Branch Node) → List Value
  | [] => []
  | b :: rest => .table (Branch.data b) :: dataOfTables rest

end

end JitTarget.Toml
