/-
  JitTarget.Toml.Reader
  ────────────────────────────────
  **KEYS, VALUES AND STATEMENTS.**

  A document is a list of statements, one a line:

      [a.b]      — opens a table
      [[a.b]]    — opens a new element of an array of tables
      a.b = v    — sets a key in the table that is open

  Arrays and inline tables may be nested, and keys dotted, fewer than eighty
  deep.
-/
import JitTarget.Toml.Table
import JitTarget.Toml.Calendar

namespace JitTarget.Toml

/-! ## §1. Keys. -/

/-- Nesting and dotting stay below this depth. -/
def depthLimit : Nat := 80

/-- Whether a key may hold a character without quotes. -/
def isBareChar (c : Char) : Bool :=
  ('a' ≤ c && c ≤ 'z') || ('A' ≤ c && c ≤ 'Z') || ('0' ≤ c && c ≤ '9')
    || c == '_' || c == '-'

/-- The text of one part of a key. -/
def partText? (cs : List Char) : Option (String × List Char) :=
  match cs with
  | '"' :: r => basic? r
  | '\x27' :: r => literal? r
  | _ =>
      match cs.span isBareChar with
      | ([], _) => none
      | (ds, r) => some (String.ofList ds, r)

/-- One part of a key, as it is written. -/
def keyPart? (cs : List Char) : Option (Part × List Char) :=
  (located partText? cs).map (fun ((text, extent), r) => (⟨text, extent⟩, r))

/-- A key of at most so many parts, with the blanks around each. -/
def keyParts? : Nat → Reader Key
  | 0, _ => none
  | n + 1, cs =>
      match keyPart? (skipBlanks cs) with
      | none => none
      | some (part, r) =>
          match skipBlanks r with
          -- blanks may stand on both sides of the point
          | '.' :: r => (keyParts? n r).map (fun (k, r) => (k.under part, r))
          | r => some (⟨[], part⟩, r)

/-- A key, with the blanks around it. -/
def key? : Reader Key := keyParts? (depthLimit - 1)

/-- A key and its value, with the blanks around the equals sign. -/
def assignment? (value : Reader Node) (cs : List Char) :
    Option ((Key × Node) × List Char) :=
  match key? cs with
  | some (k, '=' :: r) => (value (skipBlanks r)).map (fun (v, r) => ((k, v), r))
  | _ => none

/-! ## §2. Values. -/

/-- The items of an array, up to its closing bracket; the last may be followed
by a comma. -/
def items? (value : Reader Node) : Nat → Reader (List Node)
  | 0, _ => none
  | n + 1, cs =>
      match skipGap cs with
      -- an empty array, or a comma behind the last item
      | ']' :: r => some ([], r)
      | cs =>
          match value cs with
          | none => none
          | some (v, r) =>
              match skipGap r with
              | ',' :: r => (items? value n r).map (fun (vs, r) => (v :: vs, r))
              | ']' :: r => some ([v], r)
              | _ => none

/-- The assignments of an inline table, up to its closing brace. -/
def assignments? (value : Reader Node) : Nat → Reader (List (Key × Node))
  | 0, _ => none
  | n + 1, cs =>
      match assignment? value cs with
      | none => none
      | some (a, r) =>
          -- no newline here, and no comma at the end
          match skipBlanks r with
          | ',' :: r => (assignments? value n r).map (fun (more, r) => (a :: more, r))
          | '\x7d' :: r => some ([a], r)
          | _ => none

/-- The items of an array, behind its opening bracket. -/
def arrayItems? (value : Reader Node) (cs : List Char) :
    Option (List Node × List Char) :=
  items? value (cs.length + 1) cs

/-- The entries of an inline table, behind its opening brace. -/
def tableEntries? (value : Reader Node) (cs : List Char) :
    Option (Entries × List Char) :=
  match skipBlanks cs with
  | '\x7d' :: r => some ([], r)
  | cs =>
      match assignments? value (cs.length + 1) cs with
      | none => none
      | some (assignments, r) =>
          (inlineEntries? assignments).map (fun entries => (entries, r))

/-- A value that holds no other value. -/
def atom? (cs : List Char) : Option (Atom × List Char) :=
  match cs with
  | 't' :: 'r' :: 'u' :: 'e' :: r => some (.boolean true, r)
  | 'f' :: 'a' :: 'l' :: 's' :: 'e' :: r => some (.boolean false, r)
  | '"' :: _ | '\x27' :: _ => (quoted? cs).map (fun (s, r) => (.string s, r))
  | _ =>
      -- a date starts like a number, so it is tried first
      match dateTime? cs with
      | some (t, r) => some (.datetime t, r)
      | none => number? cs

/-- A value that holds no other value, with where it stands. -/
def plainValue? (cs : List Char) : Option (Node × List Char) :=
  (located atom? cs).map (fun ((a, extent), r) => (.atom a extent, r))

/-- A value that may be nested so deep. -/
def value? : Nat → Reader Node
  | 0, cs => plainValue? cs
  | n + 1, cs =>
      match cs with
      -- the brackets belong to where the value stands
      | '[' :: r =>
          (arrayItems? (value? n) r).map
            (fun (items, rest) => (.array items (.between cs rest), rest))
      | '\x7b' :: r =>
          (tableEntries? (value? n) r).map
            (fun (entries, rest) => (.inline entries (.between cs rest), rest))
      | _ => plainValue? cs

/-! ## §3. Statements. -/

/-- What one line of a document does. A header stands from its first bracket to
its last. -/
inductive Statement where
  /-- Opens a table. -/
  | header (key : Key) (extent : Extent)
  /-- Opens a new element of an array of tables. -/
  | element (key : Key) (extent : Extent)
  /-- Sets a key in the table that is open. -/
  | entry (key : Key) (value : Node)

/-- The key a statement is about. -/
def Statement.key : Statement → Key
  | header k _ | element k _ | entry k _ => k

/-- The statement a line holds, from its first character that is not blank. -/
def statement? (cs : List Char) : Option (Statement × List Char) :=
  match cs with
  | '[' :: '[' :: r =>
      match key? r with
      | some (k, ']' :: ']' :: r) => some (.element k (.between cs r), r)
      | _ => none
  | '[' :: r =>
      match key? r with
      | some (k, ']' :: r) => some (.header k (.between cs r), r)
      | _ => none
  | _ => (assignment? (value? (depthLimit - 1)) cs).map (fun ((k, v), r) => (.entry k v, r))

/-- The statements of a document, or where the first one that cannot be read
stands; the bound is on the lines. -/
def statements : Nat → List Char → Except Extent (List Statement)
  | 0, cs => .error (.point cs)
  | n + 1, cs =>
      match skipBlanks cs with
      | [] => .ok []
      | cs =>
          match lineEnd? cs with
          -- nothing on this line
          | some r => statements n r
          | none =>
              match statement? cs with
              | none => .error (.point cs)
              | some (s, r) =>
                  match lineEnd? r with
                  | none => .error (.point r)
                  | some r => (statements n r).map (s :: ·)

end JitTarget.Toml
