/-
  JitTarget.Proofs.NearestConfig
  ────────────────────────────────
  **THE NEAREST CONFIGURATION AND NO OTHER.**

  A search goes through a path and its ancestors and stops at the first that has a
  file of the conventional name; directories of that name are passed by.  What the
  search comes to is what that file comes to, even where it cannot be used:

      load_of_file     — a file is loaded as what its bytes spell
      find_of_split    — the first file decides
      find_of_parent   — a path without a file is searched as its parent is
      find_nearest     — the whole of it, over every tree and every path
-/
import JitTarget.Config.Search
import JitTarget.Proofs.Ancestors

namespace JitTarget.Config

/-! ## §1. Loading. -/

/-- The configuration that the bytes of a file spell. -/
def ofContents (contents : ByteArray) : Except LoadError Config :=
  match String.fromUTF8? contents with
  | none => .error (.unreadable .notText)
  | some text => (parse text).mapError .invalid

variable {t : FileTree} {workingDir : Location}

/-- **A file is loaded** as what its bytes spell. -/
theorem load_of_file {p : Path} {contents : ByteArray}
    (h : t.find? workingDir p = some (.file contents)) :
    load t workingDir p = ofContents contents := by
  have hentry : t.hasEntry workingDir p = true := by
    unfold FileTree.hasEntry
    rw [h]
    rfl
  unfold FileTree.find? at h
  cases hplace : t.resolve workingDir p with
  | error fault =>
      rw [hplace] at h
      exact absurd h nofun
  | ok place =>
      rw [hplace] at h
      have hread : t.read workingDir p = .ok contents := by
        simp only [FileTree.read, hplace, bind, Except.bind, h]
        rfl
      unfold load ofContents
      rw [if_pos hentry]
      simp only [FileTree.readText, hread, bind, Except.bind]
      cases String.fromUTF8? contents with
      | none => rfl
      | some text => rfl

/-! ## §2. Searching. -/

/-- **A directory lacks a configuration file**: nothing stands under its name, or a
directory does. -/
def Lacks (t : FileTree) (workingDir : Location) (d : Path) : Prop :=
  t.find? workingDir (d.join fileName) = none
    ∨ t.find? workingDir (d.join fileName) = some .directory

theorem lacks_iff (d : Path) :
    Lacks t workingDir d ↔ ¬ t.hasFile workingDir (d.join fileName) = true := by
  unfold Lacks FileTree.hasFile
  cases t.find? workingDir (d.join fileName) with
  | none => simp
  | some e => cases e <;> simp

/-- **The first file decides.** -/
theorem find_of_split {start d : Path} {closer further : List Path} {contents : ByteArray}
    (hsplit : start.ancestors = closer ++ d :: further)
    (hcloser : ∀ e ∈ closer, Lacks t workingDir e)
    (hfile : t.find? workingDir (d.join fileName) = some (.file contents)) :
    find t workingDir start
      = (load t workingDir (d.join fileName)).map (fun c => some ⟨c, d⟩) := by
  have hnearest : nearest? t workingDir start.ancestors = some d := by
    refine List.find?_eq_some_iff_append.mpr ⟨?_, closer, further, hsplit, ?_⟩
    · unfold FileTree.hasFile
      rw [hfile]
    · intro e he
      simpa using (lacks_iff e).mp (hcloser e he)
  unfold find
  rw [hnearest]

/-- Without a file nothing is found. -/
theorem find_of_lacks {start : Path} (h : ∀ d ∈ start.ancestors, Lacks t workingDir d) :
    find t workingDir start = .ok none := by
  have hnearest : nearest? t workingDir start.ancestors = none :=
    List.find?_eq_none.mpr (fun d hd => (lacks_iff d).mp (h d hd))
  unfold find
  rw [hnearest]

/-- **A path without a file is searched as its parent is.** -/
theorem find_of_parent {start parent : Path} (hparent : start.parent? = some parent)
    (hlacks : Lacks t workingDir start) :
    find t workingDir start = find t workingDir parent := by
  have hnearest : nearest? t workingDir start.ancestors
      = nearest? t workingDir parent.ancestors := by
    unfold nearest?
    rw [Path.ancestors_of_parent hparent]
    exact List.find?_cons_of_neg ((lacks_iff start).mp hlacks)
  unfold find
  rw [hnearest]

variable (t workingDir)

/-- **THE NEAREST CONFIGURATION AND NO OTHER.** The search from a path goes up its
ancestors, each the one before it without its last component, from the path itself to
the empty path or the root.  The first with a file of the conventional name decides:
the search gives what that file gives, with that directory, and where its bytes are
no text or no configuration it gives that failure, whatever stands further up.
Where every ancestor lacks a file, a directory of that name being none, nothing is
found.  So from a path that lacks one the search is that from its parent, which is the
path without its last component; the empty path and the root alone have none. -/
theorem find_nearest (start : Path) :
    start.Climb start.ancestors
      ∧ (∀ closer d further contents, start.ancestors = closer ++ d :: further →
          (∀ e ∈ closer, Lacks t workingDir e) →
          t.find? workingDir (d.join fileName) = some (.file contents) →
          find t workingDir start
              = (load t workingDir (d.join fileName)).map (fun c => some ⟨c, d⟩)
            ∧ load t workingDir (d.join fileName) = ofContents contents)
      ∧ ((∀ d ∈ start.ancestors, Lacks t workingDir d) → find t workingDir start = .ok none)
      ∧ (∀ parent, start.parent? = some parent →
          start.Drops parent
            ∧ (Lacks t workingDir start → find t workingDir start = find t workingDir parent))
      ∧ (start.parent? = none → start.components = [] ∨ start.components = [.root]) := by
  refine ⟨Path.climb_ancestors start, ?_, find_of_lacks, ?_, Path.components_of_no_parent⟩
  · intro closer d further contents hsplit hcloser hfile
    exact ⟨find_of_split hsplit hcloser hfile, load_of_file hfile⟩
  · intro parent hparent
    exact ⟨Path.drops_of_parent hparent, find_of_parent hparent⟩

end JitTarget.Config
