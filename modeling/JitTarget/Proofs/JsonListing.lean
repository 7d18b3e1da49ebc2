/-
  JitTarget.Proofs.JsonListing
  ────────────────────────────────
  **AN OBJECT WITH A LINE FOR EACH FIELD IS READ AS THESE FIELDS.**

  Reading keeps no order: each field goes to its place among those behind it.  What
  a text lists is therefore read from the text, and the object it is read as has the
  same fields, if no key is listed twice:

      fields?_eq           — the reader of fields, by what it lists
      parse?_of_listing?   — the value of a text, by what it lists
      inPlaces_perm        — places change the order only
      listing?_unlines     — what a text of lines lists
-/
import Mathlib.Data.List.DropRight
import JitTarget.Json.Listing
import JitTarget.Proofs.Decimals
import JitTarget.Proofs.JsonKeys

namespace JitTarget.Json

/-! ## §1. What a text lists and what it holds. -/

/-- **The fields of an object** are read as they come and put in their places. -/
theorem fields?_eq (n : Nat) (cs : List Char) :
    fields? n cs = (entries? n cs).map (fun (fs, r) => (inPlaces fs, r)) := by
  -- both readers ask the same questions, in the same order
  fun_induction entries? n cs with
  | case1 => rfl
  | case2 _ _ _ hquote hkey => simp only [fields?, hquote, hkey, Option.map_none]
  | case3 _ _ _ hquote _ _ hkey _ hcolon hvalue =>
      simp only [fields?, hquote, hkey, hcolon, hvalue, Option.map_none]
  | case4 _ _ _ hquote _ _ hkey _ hcolon _ _ hvalue _ hcomma ih =>
      simp only [fields?, hquote, hkey, hcolon, hvalue, hcomma, ih, Option.map_map]
      rfl
  | case5 _ _ _ hquote _ _ hkey _ hcolon _ _ hvalue _ hclose =>
      simp only [fields?, hquote, hkey, hcolon, hvalue, hclose]
      rfl
  | case6 _ _ _ hquote _ _ hkey _ hcolon _ _ hvalue hcomma hclose =>
      simp only [fields?, hquote, hkey, hcolon, hvalue, Option.map_none]
  | case7 _ _ _ hquote _ _ hkey hcolon => simp only [fields?, hquote, hkey, Option.map_none]
  | case8 _ _ hquote => simp only [fields?, Option.map_none]

/-- **The value of a text** that lists fields is the object of these, in their places. -/
theorem parse?_of_listing? {s : String} {fs : List (String × Json)} (h : listing? s = some fs) :
    parse? s = some (.object (inPlaces fs)) := by
  revert h
  fun_cases listing? s with
  | case1 r hopen r' hclose hrest =>
      intro h
      cases h
      simp only [parse?, value?, hopen, hclose, hrest, if_true]
      rfl
  | case3 r hopen fs' r' hrest hmore hentries =>
      intro h
      cases h
      simp only [parse?, value?, hopen, fields?_eq, hentries, Option.map_some, hrest, if_true]
  | case2 | case4 | case5 | case6 =>
      intro h
      cases h

/-- **Places change the order only**, if no key is listed twice. -/
theorem inPlaces_perm {fs : List (String × Json)} (h : (fs.map Prod.fst).Nodup) :
    (inPlaces fs).Perm fs := by
  induction fs with
  | nil => exact .refl _
  | cons field fs ih =>
      obtain ⟨k, v⟩ := field
      obtain ⟨hkey, hrest⟩ := List.nodup_cons.mp h
      have hplaces := ih hrest
      have hfree : k ∉ (inPlaces fs).map Prod.fst :=
        fun hmem => hkey ((hplaces.map Prod.fst).mem_iff.mp hmem)
      exact (addField_perm hfree).trans (hplaces.cons (k, v))

theorem lookup_inPlaces {fs : List (String × Json)} (h : (fs.map Prod.fst).Nodup)
    (key : String) : (inPlaces fs).lookup key = fs.lookup key :=
  (lookup_eq_of_perm (inPlaces_perm h).symm h key).symm

/-! ## §2. Texts that spell values. -/

theorem skipSpace_cons {c : Char} (hc : (c == ' ' || c == '\n' || c == '\r' || c == '\t') = false)
    (r : List Char) : skipSpace (c :: r) = c :: r := by
  simp only [skipSpace, List.dropWhile_cons, hc, Bool.false_eq_true, if_false]

/-- A text without escapes is read up to the quote that closes it. -/
theorem stringBody?_unescaped {body : List Char}
    (h : ∀ c ∈ body, 32 ≤ c.toNat ∧ c ≠ '"' ∧ c ≠ '\\') (done rest : List Char) :
    stringBody? .plain done (body ++ '"' :: rest) = some (done.reverse ++ body, rest) := by
  induction body generalizing done with
  | nil => simp [stringBody?]
  | cons c r ih =>
      obtain ⟨hprinted, hquote, hescape⟩ := h c List.mem_cons_self
      have hrest := ih (fun c hc => h c (List.mem_cons_of_mem _ hc)) (c :: done)
      rw [List.cons_append, stringBody?, if_neg (Nat.not_lt.mpr hprinted), hrest]
      · simp
      · exact hquote
      · exact hescape

theorem string?_unescaped {text : String} (h : IsUnescaped text) (rest : List Char) :
    string? (text.toList ++ '"' :: rest) = some (text, rest) := by
  rw [string?, stringBody?_unescaped h, List.reverse_nil, List.nil_append, Option.map_some]
  simp only [String.ofList_toList]

/-- **A text between quotes** spells itself, if it needs no escapes. -/
theorem spells_quoted {text : String} (h : IsUnescaped text) :
    Spells ("\"" ++ text ++ "\"") (.string text) := by
  intro n c rest _
  have hchars : ("\"" ++ text ++ "\"").toList ++ c :: rest
      = '"' :: (text.toList ++ '"' :: c :: rest) := by
    simp
  rw [hchars, value?, skipSpace_cons (by decide)]
  simp only [string?_unescaped h, Option.map_some]

theorem spells_true : Spells "true" (.bool true) := fun _ _ _ _ => rfl

theorem spells_false : Spells "false" (.bool false) := fun _ _ _ _ => rfl

/-- What starts with a digit is a number. -/
theorem value?_number {c : Char} (hc : c.isDigit = true) (n : Nat) (r : List Char) :
    value? (n + 1) (c :: r) = number? (c :: r) := by
  have hspace : (c == ' ' || c == '\n' || c == '\r' || c == '\t') = false := by
    simp [isDigit_ne hc (d := ' ') (by decide), isDigit_ne hc (d := '\n') (by decide),
      isDigit_ne hc (d := '\r') (by decide), isDigit_ne hc (d := '\t') (by decide)]
  unfold value?
  rw [skipSpace_cons hspace]
  split
  -- no word, no quote and no bracket is a digit
  iterate 6
    next heq => exact absurd (List.cons.inj heq).1 (isDigit_ne hc (by decide))
  next => rfl

/-- **A number of 64 bits** spells itself. -/
theorem spells_decimal {n : Nat} (hn : n < 2 ^ 64) : Spells (toString n) (.int n) := by
  intro depth c rest hc
  obtain ⟨d, r, hdecimal, hd⟩ := exists_decimal n
  have hend : ∀ d ∈ (c :: rest).head?, d.isDigit = false ∧ d ≠ '.' ∧ d ≠ 'e' ∧ d ≠ 'E' := by
    intro d hd
    cases hd
    rcases hc with rfl | rfl <;> decide
  have hnumber := number?_decimal hn hend
  rw [hdecimal, List.cons_append] at hnumber
  rw [toList_toString, hdecimal, List.cons_append, value?_number hd, hnumber]

/-! ## §3. Lines. -/

theorem toList_line (f : Field) :
    f.line.toList = ' ' :: ' ' :: '"' :: (f.key.toList ++ '"' :: ':' :: ' ' :: f.text.toList) := by
  simp [Field.line]

/-- What stands on a line: the key, and the value behind blanks. -/
theorem skipSpace_line (f : Field) (rest : List Char) :
    skipSpace (f.line.toList ++ rest)
      = '"' :: (f.key.toList ++ '"' :: ':' :: ' ' :: (f.text.toList ++ rest)) := by
  rw [toList_line]
  simp only [List.cons_append, List.append_assoc]
  rfl

/-- Fields are read from behind the blanks in front of them. -/
theorem entries?_skipSpace (n : Nat) (cs : List Char) :
    entries? n (skipSpace cs) = entries? n cs := by
  have hidem : skipSpace (skipSpace cs) = skipSpace cs := List.dropWhile_idempotent _ _
  cases n with
  | zero => rfl
  | succ n => simp only [entries?, hidem]

theorem entries?_newline (n : Nat) (cs : List Char) : entries? n ('\n' :: cs) = entries? n cs := by
  rw [← entries?_skipSpace n cs, ← entries?_skipSpace n ('\n' :: cs)]
  rfl

section Line

variable {f : Field} (h : f.WellFormed) (n : Nat) (rest : List Char)
include h

theorem value?_line {c : Char} (hc : c = ',' ∨ c = '\n') :
    value? (n + 1) (' ' :: (f.text.toList ++ c :: rest)) = some (f.value, c :: rest) := by
  rw [← h.value n rest hc, value?, value?]
  rfl

/-- **A line that is not the last** is the field it holds, in front of the others. -/
theorem entries?_line :
    entries? (n + 2) (f.line.toList ++ ',' :: rest)
      = (entries? (n + 1) rest).map (fun (fs, r) => ((f.key, f.value) :: fs, r)) := by
  have hkey := string?_unescaped h.key (':' :: ' ' :: (f.text.toList ++ ',' :: rest))
  have hvalue := value?_line h n rest (Or.inl rfl)
  have hcolon : ∀ r, skipSpace (':' :: r) = ':' :: r := fun r => skipSpace_cons (by decide) r
  have hcomma : ∀ r, skipSpace (',' :: r) = ',' :: r := fun r => skipSpace_cons (by decide) r
  rw [entries?]
  simp only [skipSpace_line, hkey, hcolon, hvalue, hcomma]

/-- **The last line** is the field it holds. -/
theorem entries?_lastLine :
    entries? (n + 2) (f.line.toList ++ '\n' :: '\x7d' :: rest)
      = some ([(f.key, f.value)], rest) := by
  have hkey := string?_unescaped h.key
    (':' :: ' ' :: (f.text.toList ++ '\n' :: '\x7d' :: rest))
  have hvalue := value?_line h n ('\x7d' :: rest) (Or.inr rfl)
  have hcolon : ∀ r, skipSpace (':' :: r) = ':' :: r := fun r => skipSpace_cons (by decide) r
  have hclose : skipSpace ('\n' :: '\x7d' :: rest) = '\x7d' :: rest := rfl
  rw [entries?]
  simp only [skipSpace_line, hkey, hcolon, hvalue, hclose]

end Line

theorem lines_singleton (f : Field) : lines [f] = f.line.toList := by
  rw [lines, List.map_singleton, String.intercalate_singleton]

theorem lines_cons_cons (f g : Field) (fields : List Field) :
    lines (f :: g :: fields) = f.line.toList ++ ',' :: '\n' :: lines (g :: fields) := by
  rw [lines, List.map_cons, List.map_cons, String.intercalate_cons_cons, String.toList_append,
    String.toList_append, List.append_assoc]
  rfl

theorem lines_eq_cons (f : Field) (fields : List Field) :
    ∃ r, lines (f :: fields) = ' ' :: ' ' :: '"' :: r := by
  cases fields with
  | nil => exact ⟨_, by rw [lines_singleton, toList_line]⟩
  | cons g fields => exact ⟨_, by rw [lines_cons_cons, toList_line]; rfl⟩

theorem two_le_length_lines (f : Field) (fields : List Field) :
    2 ≤ (lines (f :: fields)).length := by
  obtain ⟨r, hr⟩ := lines_eq_cons f fields
  rw [hr, List.length_cons, List.length_cons]
  omega

/-- **Lines are read one by one**, up to the closing brace. -/
theorem entries?_lines {f : Field} {fields : List Field} (h : ∀ g ∈ f :: fields, g.WellFormed)
    {n : Nat} (hn : (lines (f :: fields)).length ≤ n) (rest : List Char) :
    entries? n (lines (f :: fields) ++ '\n' :: '\x7d' :: rest)
      = some ((f :: fields).map (fun g => (g.key, g.value)), rest) := by
  have hfirst := h f List.mem_cons_self
  induction fields generalizing f n with
  | nil =>
      have htwo := two_le_length_lines f []
      obtain ⟨n, rfl⟩ : ∃ m, n = m + 2 := ⟨n - 2, by omega⟩
      rw [lines_singleton]
      exact entries?_lastLine hfirst n rest
  | cons g fields ih =>
      have hmore := (List.forall_mem_cons.mp h).2
      -- a line is longer than what ends it, so the bound holds for the others
      have htwo := two_le_length_lines g fields
      rw [lines_cons_cons] at hn ⊢
      rw [List.length_append, List.length_cons, List.length_cons] at hn
      obtain ⟨n, rfl⟩ : ∃ m, n = m + 2 := ⟨n - 2, by omega⟩
      have hothers := ih hmore (n := n + 1) (by omega) (hmore g List.mem_cons_self)
      rw [List.append_assoc, List.cons_append, List.cons_append, entries?_line hfirst,
        entries?_newline, hothers]
      rfl

/-- **WHAT A TEXT OF LINES LISTS** are the fields of its lines, in their order. -/
theorem listing?_unlines {fields : List Field} (hne : fields ≠ [])
    (h : ∀ f ∈ fields, f.WellFormed) :
    listing? (unlines fields) = some (fields.map (fun f => (f.key, f.value))) := by
  obtain ⟨f, fields, rfl⟩ := List.exists_cons_of_ne_nil hne
  have hchars : (unlines (f :: fields)).toList
      = '\x7b' :: '\n' :: (lines (f :: fields) ++ '\n' :: '\x7d' :: []) := by
    simp [unlines, lines]
  have hlength : (lines (f :: fields)).length ≤ (unlines (f :: fields)).toList.length := by
    rw [hchars, List.length_cons, List.length_cons, List.length_append]
    omega
  have hentries := entries?_lines h hlength []
  rw [← entries?_newline, ← entries?_skipSpace] at hentries
  have hopen : ∀ r, skipSpace ('\x7b' :: r) = '\x7b' :: r := fun r => skipSpace_cons (by decide) r
  unfold listing?
  simp only [hchars, hopen]
  split
  next hclose =>
    obtain ⟨r, hr⟩ := lines_eq_cons f fields
    rw [hr] at hclose
    exact absurd (List.cons.inj hclose).1 (by decide)
  next =>
    rw [← hchars, hentries]
    rfl

end JitTarget.Json
