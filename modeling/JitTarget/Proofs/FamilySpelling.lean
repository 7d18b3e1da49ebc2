/-
  JitTarget.Proofs.FamilySpelling
  ────────────────────────────────
  **WHICH TEXTS NAME A FAMILY.**

  Trimming finds the word between the blank characters of a text, and folding takes
  two words to one where they are the same letter by letter.  So a text is read as a
  family exactly if it is a spelling of its name:

      exists_trim       — a text is its word between blank characters
      trim_padded       — blank characters around a text do not count
      sameLetters_iff   — texts that are folded to one
      spelling_iff      — the texts that name a family
      ofText_exact      — what is accepted, what is refused, and what does not count
-/
import JitTarget.Family.Spelling

namespace JitTarget

namespace Text

/-! ## §1. Trimming. -/

/-- **A text is its trimmed part** between blank characters. -/
theorem exists_trim (cs : List Char) :
    ∃ front back, cs = front ++ trim cs ++ back
      ∧ (∀ c ∈ front, isBlank c = true) ∧ ∀ c ∈ back, isBlank c = true := by
  let rest := cs.dropWhile isBlank
  have hfront : cs = cs.takeWhile isBlank ++ rest := List.takeWhile_append_dropWhile.symm
  have hback : rest = trim cs ++ (rest.reverse.takeWhile isBlank).reverse := by
    rw [trim, ← List.reverse_append, List.takeWhile_append_dropWhile, List.reverse_reverse]
  refine ⟨cs.takeWhile isBlank, (rest.reverse.takeWhile isBlank).reverse, ?_, ?_, ?_⟩
  · rw [List.append_assoc, ← hback]
    exact hfront
  · intro c hc
    exact List.all_eq_true.mp List.all_takeWhile c hc
  · intro c hc
    exact List.all_eq_true.mp List.all_takeWhile c (List.mem_reverse.mp hc)

/-- **Blank characters around a text** do not count. -/
theorem trim_padded {front back : List Char} (hfront : ∀ c ∈ front, isBlank c = true)
    (hback : ∀ c ∈ back, isBlank c = true) (cs : List Char) :
    trim (front ++ cs ++ back) = trim cs := by
  have hbehind : ∀ ds : List Char,
      (ds ++ back).reverse.dropWhile isBlank = ds.reverse.dropWhile isBlank := by
    intro ds
    rw [List.reverse_append, List.dropWhile_append_of_pos]
    exact fun c hc => hback c (List.mem_reverse.mp hc)
  rw [trim, trim, List.append_assoc, List.dropWhile_append_of_pos hfront,
    List.dropWhile_append]
  split
  next hblank =>
    -- all of the text is blank, and what is behind it is too
    have hnone : (back ++ []).dropWhile isBlank = [].dropWhile isBlank :=
      List.dropWhile_append_of_pos hback
    rw [List.append_nil, List.dropWhile_nil] at hnone
    rw [hnone, List.isEmpty_iff.mp hblank]
  next => rw [hbehind]

/-- A word without blank characters is left as it is. -/
theorem trim_word {cs : List Char} (h : ∀ c ∈ cs, isBlank c = false) : trim cs = cs := by
  have hkeep : ∀ ds : List Char, (∀ c ∈ ds, isBlank c = false) → ds.dropWhile isBlank = ds := by
    intro ds hds
    cases ds with
    | nil => rfl
    | cons d ds => rw [List.dropWhile_cons, hds d List.mem_cons_self, if_neg Bool.false_ne_true]
  rw [trim, hkeep cs h, hkeep cs.reverse (fun c hc => h c (List.mem_reverse.mp hc)),
    List.reverse_reverse]

/-! ## §2. Either case. -/

/-- Folding knows the letters from A to Z and no other. -/
theorem toLower_cases (c : Char) : c.toLower = c ∨ (c, c.toLower) ∈ letterCases := by
  by_cases h : c.val ≥ 'A'.val ∧ c.val ≤ 'Z'.val
  · right
    have hlow : 65 ≤ c.toNat := UInt32.le_iff_toNat_le.mp h.1
    have hhigh : c.toNat ≤ 90 := UInt32.le_iff_toNat_le.mp h.2
    have hall : ∀ n : Fin 26, (Char.ofNat (65 + n), (Char.ofNat (65 + n)).toLower)
        ∈ letterCases := by decide
    have hc : Char.ofNat (65 + (c.toNat - 65)) = c := by
      rw [Nat.add_sub_cancel' hlow, Char.ofNat_toNat]
    have hletter := hall ⟨c.toNat - 65, by omega⟩
    rwa [hc] at hletter
  · exact Or.inl (dif_neg h)

/-- **Two characters are one letter** where they are folded to one. -/
theorem sameLetter_iff {c d : Char} : SameLetter c d ↔ c.toLower = d.toLower := by
  have hfold : ∀ p ∈ letterCases, p.1.toLower = p.2.toLower := by decide
  have hinj : ∀ p ∈ letterCases, ∀ q ∈ letterCases, p.2 = q.2 → p = q := by decide
  constructor
  · intro h
    cases h with
    | same => rfl
    | capital h => exact hfold _ h
    | small h => exact (hfold _ h).symm
  · intro h
    rcases toLower_cases c with hc | hc <;> rcases toLower_cases d with hd | hd
    · rw [hc, hd] at h
      rw [h]
      exact .same d
    · rw [← h, hc] at hd
      exact .small hd
    · rw [h, hd] at hc
      exact .capital hc
    · rw [(Prod.mk.inj (hinj _ hc _ hd h)).1]
      exact .same d

/-- **Two texts are the same letter by letter** where they are folded to one. -/
theorem sameLetters_iff {s t : String} :
    SameLetters s t ↔ lowerAscii s.toList = lowerAscii t.toList := by
  have hletter : SameLetter = fun c d => c.toLower = d.toLower :=
    funext fun _ => funext fun _ => propext sameLetter_iff
  unfold SameLetters lowerAscii
  rw [hletter, ← List.forall₂_eq_eq_eq, List.forall₂_map_left_iff, List.forall₂_map_right_iff]

/-- Letters are not blank, in either case. -/
theorem isBlank_toLower (c : Char) : isBlank c.toLower = isBlank c := by
  have hall : ∀ p ∈ letterCases, isBlank p.2 = isBlank p.1 := by decide
  rcases toLower_cases c with hc | hc
  · rw [hc]
  · exact hall _ hc

/-- The letters beyond the first 128 characters have one case. -/
theorem toLower_of_not_ascii {c : Char} (h : 128 ≤ c.toNat) : c.toLower = c := by
  have hall : ∀ p ∈ letterCases, p.1.toNat < 128 := by decide
  rcases toLower_cases c with hc | hc
  · exact hc
  · exact absurd h (Nat.not_le.mpr (hall _ hc))

/-- Folding cuts no text up: what is trimmed off a folded text is trimmed off the text. -/
theorem trim_lowerAscii (cs : List Char) : trim (lowerAscii cs) = lowerAscii (trim cs) := by
  have hcomp : isBlank ∘ Char.toLower = isBlank := funext isBlank_toLower
  have hdrop : ∀ ds : List Char,
      (ds.map Char.toLower).dropWhile isBlank = (ds.dropWhile isBlank).map Char.toLower := by
    intro ds
    rw [List.dropWhile_map, hcomp]
  unfold trim lowerAscii
  rw [hdrop, ← List.map_reverse, hdrop, ← List.map_reverse]

end Text

/-! ## §3. Names. -/

namespace Family

open Text

/-- A canonical name is a word of small letters, digits and hyphens. -/
theorem name_chars (f : Family) :
    ∀ c ∈ f.name.toList, c.toNat < 128 ∧ isBlank c = false ∧ c.toLower = c := by
  have hall : f.name.toList.all
      (fun c => decide (c.toNat < 128 ∧ isBlank c = false ∧ c.toLower = c)) = true := by
    cases f <;> decide
  intro c hc
  exact of_decide_eq_true (List.all_eq_true.mp hall c hc)

theorem lowerAscii_name (f : Family) : lowerAscii f.name.toList = f.name.toList := by
  have hid : f.name.toList.map Char.toLower = f.name.toList.map id :=
    List.map_congr_left (fun c hc => (f.name_chars c hc).2.2)
  rw [lowerAscii, hid, List.map_id]

/-- A text is read as the family whose name it comes to. -/
theorem ofText?_eq_some_iff {s : String} {f : Family} :
    ofText? s = some f ↔ lowerAscii (trim s.toList) = f.name.toList := by
  unfold ofText?
  rw [Named.ofName?_eq_some_iff, eq_comm, ← String.toList_inj, String.toList_ofList]
  rfl

/-- **A text names a family** exactly if it comes to its name. -/
theorem spelling_iff {s : String} {f : Family} :
    f.Spelling s ↔ lowerAscii (trim s.toList) = f.name.toList := by
  constructor
  · intro h
    cases h with
    | @padded front word back hfront hword hback =>
        have hfold : lowerAscii word.toList = f.name.toList :=
          (sameLetters_iff.mp hword).trans f.lowerAscii_name
        have hword' : ∀ c ∈ word.toList, isBlank c = false := by
          intro c hc
          have hmem : c.toLower ∈ f.name.toList := by
            rw [← hfold]
            exact List.mem_map_of_mem hc
          rw [← isBlank_toLower]
          exact (f.name_chars _ hmem).2.1
        rw [String.toList_append, String.toList_append, trim_padded hfront hback,
          trim_word hword', hfold]
  · intro h
    obtain ⟨front, back, hsplit, hfront, hback⟩ := exists_trim s.toList
    have hs : s = String.ofList front ++ String.ofList (trim s.toList) ++ String.ofList back := by
      apply String.toList_inj.mp
      simpa using hsplit
    have hword : SameLetters (String.ofList (trim s.toList)) f.name := by
      rw [sameLetters_iff, String.toList_ofList, h, lowerAscii_name]
    rw [hs]
    refine .padded ?_ hword ?_
    · intro c hc
      exact hfront c (by simpa using hc)
    · intro c hc
      exact hback c (by simpa using hc)

theorem ofText_eq_ok_iff {s : String} {f : Family} : ofText s = .ok f ↔ f.Spelling s := by
  rw [spelling_iff, ← ofText?_eq_some_iff, ofText]
  cases ofText? s <;> simp

/-- **A text that names no family** is refused as it stands. -/
theorem ofText_eq_error {s : String} (h : ∀ f : Family, ¬ f.Spelling s) :
    ofText s = .error ⟨s⟩ := by
  cases hread : ofText? s with
  | none => rw [ofText, hread]
  | some f =>
      have hok : ofText s = .ok f := by rw [ofText, hread]
      exact absurd (ofText_eq_ok_iff.mp hok) (h f)

/-- **A spelling has one word**, of characters that are not blank and among the first
128, between blank characters. -/
theorem Spelling.exists_word {s : String} {f : Family} (h : f.Spelling s) :
    ∃ front word back, s.toList = front ++ word ++ back
      ∧ (∀ c ∈ front, isBlank c = true)
      ∧ (∀ c ∈ word, isBlank c = false ∧ c.toNat < 128)
      ∧ ∀ c ∈ back, isBlank c = true := by
  obtain ⟨front, back, hsplit, hfront, hback⟩ := exists_trim s.toList
  refine ⟨front, trim s.toList, back, hsplit, hfront, fun c hc => ?_, hback⟩
  have hmem : c.toLower ∈ f.name.toList := by
    rw [← spelling_iff.mp h]
    exact List.mem_map_of_mem hc
  obtain ⟨hascii, hblank, -⟩ := f.name_chars _ hmem
  refine ⟨(isBlank_toLower c).symm.trans hblank, ?_⟩
  apply Nat.not_le.mp
  intro hbeyond
  rw [toLower_of_not_ascii hbeyond] at hascii
  exact Nat.not_le.mpr hascii hbeyond

theorem Spelling.ascii {s : String} {f : Family} (h : f.Spelling s) (c : Char)
    (hc : c ∈ s.toList) (hblank : isBlank c = false) : c.toNat < 128 := by
  obtain ⟨front, word, back, hsplit, hfront, hword, hback⟩ := h.exists_word
  rw [hsplit, List.mem_append, List.mem_append] at hc
  rcases hc with (hc | hc) | hc
  · exact absurd ((hfront c hc).symm.trans hblank) (by decide)
  · exact (hword c hc).2
  · exact absurd ((hback c hc).symm.trans hblank) (by decide)

/-- What stands behind another character of the word, and before one, is in the word. -/
theorem Spelling.not_blank_between {s : String} {f : Family} (h : f.Spelling s)
    {before between behind : Char} (hsub : [before, between, behind].Sublist s.toList)
    (hbefore : isBlank before = false) (hbehind : isBlank behind = false) :
    isBlank between = false := by
  obtain ⟨front, word, back, hsplit, hfront, hword, hback⟩ := h.exists_word
  rw [hsplit] at hsub
  -- the last of the three is not behind the word, so none of them is
  obtain ⟨inner, outer, hthree, hinner, houter⟩ := List.sublist_append_iff.mp hsub
  have hnone : outer = [] := by
    cases hlast : outer.getLast? with
    | none => exact List.getLast?_eq_none_iff.mp hlast
    | some c =>
        have hc : c = behind := by
          have hwhole := congrArg List.getLast? hthree
          rw [List.getLast?_append, hlast] at hwhole
          exact (Option.some.inj hwhole).symm
        have hmem := houter.subset (List.mem_of_getLast? hlast)
        rw [hc] at hmem
        exact absurd ((hback behind hmem).symm.trans hbehind) (by decide)
  rw [hnone, List.append_nil] at hthree
  rw [← hthree] at hinner
  -- and the first is not in front of it
  obtain ⟨outer', inner', hthree', houter', hinner'⟩ := List.sublist_append_iff.mp hinner
  cases outer' with
  | nil =>
      rw [List.nil_append] at hthree'
      rw [← hthree'] at hinner'
      exact (hword between (hinner'.subset (by simp))).1
  | cons c outer' =>
      obtain ⟨rfl, -⟩ := List.cons.inj hthree'
      have hmem := houter'.subset List.mem_cons_self
      exact absurd ((hfront before hmem).symm.trans hbefore) (by decide)

/-! ## §4. Reading a name. -/

/-- The names as a refusal lists them. -/
theorem names_listed :
    String.intercalate ", " names
      = "x86-32, x86-64, arm-v5, arm-v7, arm-thumb2, ppc-32, ppc-64, mips-32, unsupported" := by
  decide +kernel

/-- **THE TEXTS THAT NAME A FAMILY**, out of all texts.  A text is read as a family
exactly if it is the canonical name, in either case, between blank characters; any other
is refused, and the refusal quotes it as it was given.  So no text names two families;
blank characters around a text and the case of its letters change nothing; and a text
with a blank between two characters that are not, or with a letter beyond the first 128
characters, names none. -/
theorem ofText_exact (s : String) :
    (∀ f : Family, ofText s = .ok f ↔ f.Spelling s)
      ∧ ((∀ f : Family, ¬ f.Spelling s) → ∃ e, ofText s = .error e ∧ e.text = s
          ∧ e.message = "unknown architecture family '" ++ s ++ "' (expected one of: "
            ++ "x86-32, x86-64, arm-v5, arm-v7, arm-thumb2, ppc-32, ppc-64, mips-32, unsupported"
            ++ ")")
      ∧ (∀ f g : Family, f.Spelling s → g.Spelling s → f = g)
      ∧ (∀ front back, IsBlankText front → IsBlankText back →
          ∀ f, ofText (front ++ s ++ back) = .ok f ↔ ofText s = .ok f)
      ∧ (∀ t, SameLetters t s → ∀ f, ofText t = .ok f ↔ ofText s = .ok f)
      ∧ (∀ before between behind, [before, between, behind].Sublist s.toList →
          isBlank before = false → isBlank between = true → isBlank behind = false →
          ofText s = .error ⟨s⟩)
      ∧ ∀ c ∈ s.toList, 128 ≤ c.toNat → isBlank c = false → ofText s = .error ⟨s⟩ := by
  have hrefused : (∀ f : Family, ¬ f.Spelling s) → ofText s = .error ⟨s⟩ := ofText_eq_error
  have hsame : ∀ t : String, lowerAscii (trim t.toList) = lowerAscii (trim s.toList) →
      ∀ f, ofText t = .ok f ↔ ofText s = .ok f := by
    intro t ht f
    rw [ofText_eq_ok_iff, ofText_eq_ok_iff, spelling_iff, spelling_iff, ht]
  refine ⟨fun f => ofText_eq_ok_iff, fun h => ⟨⟨s⟩, hrefused h, rfl, ?_⟩, ?_, ?_, ?_, ?_, ?_⟩
  · exact congrArg
      (fun listed =>
        "unknown architecture family '" ++ s ++ "' (expected one of: " ++ listed ++ ")")
      names_listed
  · intro f g hf hg
    have hname := (spelling_iff.mp hf).symm.trans (spelling_iff.mp hg)
    exact Named.name_injective f g (String.toList_inj.mp hname)
  · intro front back hfront hback
    apply hsame
    rw [String.toList_append, String.toList_append, trim_padded hfront hback]
  · intro t ht
    apply hsame
    rw [← trim_lowerAscii, ← trim_lowerAscii, sameLetters_iff.mp ht]
  · intro before between behind hsub hbefore hbetween hbehind
    apply hrefused
    intro f hf
    have hnot := hf.not_blank_between hsub hbefore hbehind
    exact absurd (hbetween.symm.trans hnot) (by decide)
  · intro c hc hbeyond hblank
    apply hrefused
    intro f hf
    exact Nat.not_le.mpr (hf.ascii c hc hblank) hbeyond

/-- A name in capitals, one between a tab and an ideographic space, one with a blank
inside, one with a Cyrillic letter, and a name that is none. -/
theorem ofText_exact_capitals :
    ofText "PPC-64" = .ok ppc64 ∧ ofText ("\t" ++ "PPC-64" ++ "\u3000") = .ok ppc64
      ∧ ofText "ppc -64" = .error ⟨"ppc -64"⟩ ∧ ofText "pp\u0441-64" = .error ⟨"pp\u0441-64"⟩
      ∧ ∃ e, ofText "vax" = .error e ∧ e.text = "vax" := by
  have hletters : SameLetters "PPC-64" "ppc-64" := sameLetters_iff.mpr (by decide)
  have hsmall : ofText "ppc-64" = .ok ppc64 := by decide +kernel
  have hread := ((ofText_exact "ppc-64").2.2.2.2.1 _ hletters ppc64).mpr hsmall
  have htab : IsBlankText "\t" := List.all_eq_true.mp (by decide)
  have hspace : IsBlankText "\u3000" := List.all_eq_true.mp (by decide)
  have hnone : ∀ f : Family, ¬ f.Spelling "vax" := by
    intro f hf
    have hcomes := spelling_iff.mp hf
    revert hcomes
    cases f <;> decide
  obtain ⟨e, he, htext, -⟩ := (ofText_exact "vax").2.1 hnone
  refine ⟨hread, ((ofText_exact "PPC-64").2.2.2.1 _ _ htab hspace ppc64).mpr hread, ?_, ?_,
    e, he, htext⟩
  · exact (ofText_exact "ppc -64").2.2.2.2.2.1 'c' ' ' '-' (by decide) (by decide) (by decide)
      (by decide)
  · exact (ofText_exact "pp\u0441-64").2.2.2.2.2.2 '\u0441' (by decide) (by decide) (by decide)

end Family

end JitTarget
