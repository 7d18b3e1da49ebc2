/-
  JitTarget.Toml.Document
  ────────────────────────────────
  **DOCUMENTS.**

  A text is read into statements, and the statements build the document's
  table.  A text that is no document has a first place where it goes wrong.

      read    — the document a text spells, or where the text goes wrong
      parse?  — the data of that document
-/
import JitTarget.Toml.Reader

namespace JitTarget.Toml

/-- A document: its outermost table. -/
abbrev Document := Branch Node

/-- A document while it is built: its table, and the header in force. -/
structure Draft where
  document : Document
  header : Option Key

/-- The empty document. -/
def Draft.empty : Draft := ⟨⟨.written, none, []⟩, none⟩

/-- The path of the table that is open. -/
def Draft.openPath (d : Draft) : List Part :=
  match d.header with
  | some k => k.parents ++ [k.last]
  | none => []

/-- Carries out one statement. -/
def Draft.step? (d : Draft) : Statement → Option Draft
  | .header k e => (d.document.openTable? k e).map (fun document => ⟨document, some k⟩)
  | .element k e => (d.document.openElement? k e).map (fun document => ⟨document, some k⟩)
  | .entry k v =>
      (descend false (fun b => b.set? k v) d.openPath d.document).map
        (fun document => { d with document := document })

/-- Carries out one statement, or tells where the key stands that is not free for
it. -/
def Draft.step (d : Draft) (s : Statement) : Except Extent Draft :=
  match d.step? s with
  | some d => .ok d
  | none => .error s.key.last.extent

/-- The document a list of statements builds. -/
def assemble (statements : List Statement) : Except Extent Document :=
  (statements.foldlM Draft.step Draft.empty).map Draft.document

/-- Drops a byte-order mark at the front. -/
def skipMark : List Char → List Char
  | '\uFEFF' :: r => r
  | cs => cs

/-- **The document a text spells**, or where the text goes wrong. -/
def read (text : String) : Except Extent Document :=
  let cs := skipMark text.toList
  statements (cs.length + 1) cs >>= assemble

/-- **The table a text describes**, if it is a document. -/
def parse? (text : String) : Option Table :=
  (read text).toOption.map Branch.data

end JitTarget.Toml
