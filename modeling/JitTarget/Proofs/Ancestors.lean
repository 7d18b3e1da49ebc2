/-
  JitTarget.Proofs.Ancestors
  ────────────────────────────────
  **THE ANCESTORS OF A PATH.**

  The ancestors are listed in one pass over the pieces, read backwards, while a
  parent is looked for from the end of the text.  Both drop one component at a time:

      toText_ofText       — a path keeps its text to the letter
      drops_of_parent     — the parent is the path without its last component
      ancestors_of_parent — the ancestors are the path, then those of its parent
      climb_ancestors     — and so they are the path, dropped component by component
-/
import JitTarget.Files.Ancestry
import JitTarget.Proofs.NewFiles

namespace JitTarget.Path

/-! ## §1. Text. -/

/-- The pieces joined by slashes are the text that was split. -/
theorem intercalate_split (cs : List Char) : ['/'].intercalate (split cs) = cs := by
  induction cs with
  | nil => rfl
  | cons c r ih =>
      cases hr : split r with
      | nil =>
          -- what has no pieces is empty
          rw [hr, List.intercalate_nil] at ih
          subst ih
          by_cases hslash : c = '/' <;> simp [split, hslash]
      | cons first rest =>
          rw [hr] at ih
          by_cases hslash : c = '/'
          · subst hslash
            have hsplit : split ('/' :: r) = [] :: first :: rest := by simp [split, hr]
            rw [hsplit, List.intercalate_cons_cons, ih]
            rfl
          · have hsplit : split (c :: r) = (c :: first) :: rest := by simp [split, hr]
            rw [hsplit, ← ih]
            cases rest with
            | nil => rw [List.intercalate_singleton, List.intercalate_singleton]
            | cons second more =>
                rw [List.intercalate_cons_cons, List.intercalate_cons_cons]
                rfl

/-- **A path keeps its text to the letter.** -/
theorem toText_ofText (text : String) : (ofText text).toText = text := by
  have hpieces (cs : List Char) :
      (String.intercalate "/" ((split cs).map String.ofList)).toList = cs := by
    rw [String.toList_intercalate, List.map_map]
    have hid : String.toList ∘ String.ofList = id := by
      funext piece
      exact String.toList_ofList
    rw [hid, List.map_id]
    exact intercalate_split cs
  rw [← String.toList_inj]
  unfold ofText toText
  rw [String.toList_append]
  split
  next r h => rw [h, hpieces]; simp [anchorText]
  next h => rw [h]; rfl
  next r h => rw [h, hpieces]; simp [anchorText]
  next => rw [hpieces]; rfl

/-! ## §2. Pieces that count. -/

/-- Idle pieces at the end of a path name nothing. -/
theorem filter_dropWhile (pieces : List String) :
    (pieces.dropWhile isIdle).filter (fun piece => !isIdle piece)
      = pieces.filter (fun piece => !isIdle piece) := by
  induction pieces with
  | nil => rfl
  | cons piece rest ih =>
      by_cases h : isIdle piece = true
      · rw [List.dropWhile_cons_of_pos h, ih, List.filter_cons_of_neg (by simp [h])]
      · rw [List.dropWhile_cons_of_neg h]

/-- Idle pieces at the end lead to no ancestor. -/
theorem shorter_dropWhile (pieces : List String) :
    shorter (pieces.dropWhile isIdle) = shorter pieces := by
  induction pieces with
  | nil => rfl
  | cons piece rest ih =>
      by_cases h : isIdle piece = true
      · rw [List.dropWhile_cons_of_pos h, ih]
        simp [shorter, h]
      · rw [List.dropWhile_cons_of_neg h]

/-- Pieces that are all idle have no ancestor among them. -/
theorem shorter_of_idle {pieces : List String} (h : pieces.dropWhile isIdle = []) :
    shorter pieces = [] := by
  rw [← shorter_dropWhile, h]
  rfl

/-- Without idle pieces at the end the pieces are what they begin with. -/
theorem exists_append_of_trim (pieces : List String) :
    ∃ idle, pieces = (pieces.reverse.dropWhile isIdle).reverse ++ idle := by
  refine ⟨(pieces.reverse.takeWhile isIdle).reverse, ?_⟩
  rw [← List.reverse_append, List.takeWhile_append_dropWhile, List.reverse_reverse]

/-! ## §3. The parent. -/

variable {p q : Path}

/-- **What a parent can be**: the path up to its last piece that counts, or the empty
path above a dot; the empty path and the root have none. -/
theorem parent_cases (p : Path) :
    (∃ piece rest, p.pieces.reverse.dropWhile isIdle = piece :: rest ∧ isIdle piece = false
        ∧ p.parent? = some ⟨p.anchor, (rest.dropWhile isIdle).reverse⟩)
      ∨ (p.pieces.reverse.dropWhile isIdle = [] ∧ p.anchor = .here
          ∧ p.parent? = some ⟨.bare, []⟩)
      ∨ (p.pieces.reverse.dropWhile isIdle = [] ∧ p.anchor ≠ .here ∧ p.parent? = none) := by
  unfold parent?
  cases h : p.pieces.reverse.dropWhile isIdle with
  | cons piece rest =>
      have hhead := List.head?_dropWhile_not isIdle p.pieces.reverse
      rw [h] at hhead
      exact Or.inl ⟨piece, rest, rfl, hhead, rfl⟩
  | nil =>
      by_cases hhere : p.anchor = .here
      · exact Or.inr (Or.inl ⟨rfl, hhere, if_pos hhere⟩)
      · exact Or.inr (Or.inr ⟨rfl, hhere, if_neg hhere⟩)

/-- The components of a path, by its pieces read backwards. -/
theorem components_eq (p : Path) :
    p.components = anchorComponents p.anchor
      ++ ((p.pieces.reverse.dropWhile isIdle).reverse.filter
            (fun piece => !isIdle piece)).map .named := by
  unfold components
  rw [List.filter_reverse, filter_dropWhile, ← List.filter_reverse, List.reverse_reverse]

/-- Of a path whose pieces are all idle the start alone is a component. -/
theorem components_of_idle (h : p.pieces.reverse.dropWhile isIdle = []) :
    p.components = anchorComponents p.anchor := by
  rw [components_eq, h]
  exact List.append_nil _

/-- **The parent** is the path without its last component. -/
theorem drops_of_parent (h : p.parent? = some q) : p.Drops q := by
  rcases parent_cases p with ⟨piece, rest, hrest, hcounts, hparent⟩ | ⟨hidle, hhere, hparent⟩
    | ⟨-, -, hparent⟩
  · obtain rfl := Option.some.inj (h.symm.trans hparent)
    refine ⟨⟨.named piece, nofun, ?_⟩, ?_, ?_⟩
    · rw [components_eq, hrest]
      unfold components
      simp only [List.filter_reverse, filter_dropWhile]
      simp [hcounts]
    · obtain ⟨tail, htail⟩ : ∃ tail, p.pieces = (rest.dropWhile isIdle).reverse ++ tail := by
        obtain ⟨idle, hidle⟩ := exists_append_of_trim p.pieces
        obtain ⟨idle', hidle'⟩ := exists_append_of_trim rest.reverse
        refine ⟨idle' ++ [piece] ++ idle, ?_⟩
        rw [hidle, hrest, List.reverse_cons, hidle', List.reverse_reverse]
        simp only [List.append_assoc]
      obtain ⟨more, hmore⟩ := toText_append p.anchor (rest.dropWhile isIdle).reverse tail
      rw [← htail] at hmore
      rw [hmore, String.toList_append]
      exact List.prefix_append _ _
    · intro last hlast
      rw [List.getLast?_reverse] at hlast
      have hhead := List.head?_dropWhile_not isIdle rest
      rwa [hlast] at hhead
  · obtain rfl := Option.some.inj (h.symm.trans hparent)
    have hdot : p.components = [.here] := by
      rw [components_of_idle hidle, hhere]
      rfl
    exact ⟨⟨.here, nofun, hdot⟩, List.nil_prefix, nofun⟩
  · exact absurd (h.symm.trans hparent) nofun

/-- The empty path and the root have no parent. -/
theorem components_of_no_parent (h : p.parent? = none) :
    p.components = [] ∨ p.components = [.root] := by
  rcases parent_cases p with ⟨piece, rest, -, -, hparent⟩ | ⟨-, -, hparent⟩
    | ⟨hidle, hhere, -⟩
  · exact absurd (h.symm.trans hparent) nofun
  · exact absurd (h.symm.trans hparent) nofun
  · rw [components_of_idle hidle]
    cases hanchor : p.anchor with
    | bare => exact Or.inl rfl
    | root => exact Or.inr rfl
    | here => exact absurd hanchor hhere

/-! ## §4. Ancestors. -/

/-- **The ancestors** of a path are the path itself, then those of its parent. -/
theorem ancestors_of_parent (h : p.parent? = some q) : p.ancestors = p :: q.ancestors := by
  rcases parent_cases p with ⟨piece, rest, hrest, hcounts, hparent⟩ | ⟨hidle, hhere, hparent⟩
    | ⟨-, -, hparent⟩
  · obtain rfl := Option.some.inj (h.symm.trans hparent)
    have hshorter : shorter p.pieces.reverse = rest.dropWhile isIdle :: shorter rest := by
      rw [← shorter_dropWhile, hrest]
      simp [shorter, hcounts]
    unfold ancestors
    simp only [hshorter, List.reverse_reverse, shorter_dropWhile, List.map_cons,
      List.cons_append]
  · obtain rfl := Option.some.inj (h.symm.trans hparent)
    unfold ancestors
    rw [shorter_of_idle hidle, if_pos hhere]
    rfl
  · exact absurd (h.symm.trans hparent) nofun

/-- A path without a parent has no other ancestor. -/
theorem ancestors_of_no_parent (h : p.parent? = none) : p.ancestors = [p] := by
  rcases parent_cases p with ⟨piece, rest, -, -, hparent⟩ | ⟨-, -, hparent⟩
    | ⟨hidle, hhere, -⟩
  · exact absurd (h.symm.trans hparent) nofun
  · exact absurd (h.symm.trans hparent) nofun
  · unfold ancestors
    rw [shorter_of_idle hidle, if_neg hhere]
    rfl

/-- **The ancestors are the path, dropped component by component.** -/
theorem climb_ancestors (p : Path) : p.Climb p.ancestors := by
  match h : p.parent? with
  | none =>
      rw [ancestors_of_no_parent h]
      exact .top (components_of_no_parent h)
  | some q =>
      have hdrops : p.Drops q := drops_of_parent h
      rw [ancestors_of_parent h]
      exact .up hdrops (climb_ancestors q)
termination_by p.components.length
decreasing_by
  -- every step up loses a component
  obtain ⟨last, -, hlast⟩ := hdrops.components_eq
  rw [hlast, List.length_append, List.length_singleton]
  exact Nat.lt_succ_self _

/-- Two dots are a component like any other; doubled slashes and a dot between them
are none. -/
example : (ofText "a//./b/../").ancestors.map toText = ["a//./b/../", "a//./b", "a", ""] := by
  decide

end JitTarget.Path
