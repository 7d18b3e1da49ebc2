/-
  JitTarget.Toml.Basic
  ────────────────────────────────
  **THE DATA OF A TOML DOCUMENT.**

  A document is a table: keys with their values, in the order in which the keys
  first appear.  How the document spells its data leaves one trace: an array
  whose tables have headers of their own differs from an array in brackets.  What
  it says goes by neither:

      Value.Keyed  — every key of every table stands in it once
      Value.Alike  — two values say the same
-/
import JitTarget.Number.Numeral

namespace JitTarget.Toml

/-! ## §1. Dates and times. -/

/-- A calendar date. -/
structure Date where
  year : Nat
  month : Nat
  day : Nat
  deriving Repr, DecidableEq

/-- A time of day; the digits of a second's fraction are kept as text. -/
structure Time where
  hour : Nat
  minute : Nat
  second : Nat
  fraction : String
  deriving Repr, DecidableEq

/-- A date, a time of day, or both; with both, minutes east of Greenwich may be
given. -/
inductive DateTime where
  | date (d : Date)
  | time (t : Time)
  | both (d : Date) (t : Time) (offset : Option Int)
  deriving Repr, DecidableEq

/-! ## §2. Values. -/

/-- A value that holds no other value. -/
inductive Atom where
  | string (s : String)
  | integer (n : Int)
  | float (x : Binary64)
  | boolean (b : Bool)
  | datetime (t : DateTime)
  deriving Repr, DecidableEq

/-- A value of a document. -/
inductive Value where
  | atom (a : Atom)
  | array (items : List Value)
  /-- An array of tables, each of which has its own header. -/
  | series (tables : List Value)
  | table (entries : List (String × Value))
  deriving Repr, Inhabited

/-- A table: keys with their values. -/
abbrev Table := List (String × Value)

/-! ## §3. Numbers as text. -/

/-- Numbers are written without an exponent, however long that is; of two
equally near decimals the one further from zero is taken. -/
def numerals : NumeralStyle where
  tie := .away
  isPositional := fun _ => true

/-! ## §4. What a document says, however it is spelled. -/

/-- The values of an array, however it is spelled. -/
def Value.items? : Value → Option (List Value)
  | .array items | .series items => some items
  | .atom _ | .table _ => none

/-- **Every key stands once** in its table, at any depth. -/
inductive Value.Keyed : Value → Prop where
  | atom (a : Atom) : Keyed (.atom a)
  | array {v : Value} {items : List Value} (hv : v.items? = some items)
      (hitems : ∀ item ∈ items, Keyed item) : Keyed v
  | table {entries : Table} (hkeys : (entries.map Prod.fst).Nodup)
      (hentries : ∀ entry ∈ entries, Keyed entry.2) : Keyed (.table entries)

/-- **Two values say the same**: the same atom, the same in each place of an array,
or the same under each key of a table. -/
inductive Value.Alike : Value → Value → Prop where
  | atom (a : Atom) : Alike (.atom a) (.atom a)
  | array {v w : Value} {items items' : List Value} (hv : v.items? = some items)
      (hw : w.items? = some items') (hlength : items.length = items'.length)
      (hitems : ∀ (i : Nat) a b, items[i]? = some a → items'[i]? = some b → Alike a b) :
      Alike v w
  | table {entries entries' : Table}
      (hkeys : ∀ key, (entries.lookup key).isSome = (entries'.lookup key).isSome)
      (hentries : ∀ key a b, entries.lookup key = some a → entries'.lookup key = some b →
        Alike a b) : Alike (.table entries) (.table entries')

end JitTarget.Toml
