/-
  JitTarget.Proofs.TomlLines
  ────────────────────────────────
  **A PLAIN DOCUMENT IS READ LINE BY LINE.**

  Each reader is given what a line holds for it, with anything behind that, and
  leaves what is behind.  The laws go up with the readers: words, values, lines,
  and the document as a whole.

      key?_bare         — a bare key
      spells_quoted     — a text between quotes
      statements_lines  — one statement for each line that says something
      read_unlines      — the document that is built of them
-/
import Mathlib.Data.List.TakeDrop
import JitTarget.Toml.Line
import JitTarget.Toml.Document

namespace JitTarget.Toml

/-! ## §1. Words. -/

theorem span_append {p : Char → Bool} {word behind : List Char} (hword : ∀ c ∈ word, p c = true)
    (hbehind : ∀ c ∈ behind.head?, p c = false) :
    (word ++ behind).span p = (word, behind) := by
  rw [List.span_eq_takeWhile_dropWhile, List.takeWhile_append_of_pos hword,
    List.dropWhile_append_of_pos hword]
  cases behind with
  | nil => simp
  | cons c r => simp [hbehind c rfl]

theorem skipBlanks_cons {c : Char} (hc : isBlank c = false) (r : List Char) :
    skipBlanks (c :: r) = c :: r := by
  simp [skipBlanks, hc]

theorem isBareChar_ne {c d : Char} (hc : isBareChar c = true) (hd : isBareChar d = false) :
    c ≠ d := by
  rintro rfl
  exact absurd (hc.symm.trans hd) (by decide)

theorem isBlank_of_isBareChar {c : Char} (hc : isBareChar c = true) : isBlank c = false := by
  simp [isBlank, isBareChar_ne hc (d := ' ') (by decide), isBareChar_ne hc (d := '\t') (by decide)]

theorem IsBare.exists_cons {key : String} (h : IsBare key) :
    ∃ c r, key.toList = c :: r ∧ isBareChar c = true := by
  cases hk : key.toList with
  | nil => exact absurd (String.toList_eq_nil_iff.mp hk) h.1
  | cons c r => exact ⟨c, r, rfl, h.2 c (by rw [hk]; exact List.mem_cons_self)⟩

theorem partText?_bare {key : String} (h : IsBare key) {behind : List Char}
    (hbehind : ∀ c ∈ behind.head?, isBareChar c = false) :
    partText? (key.toList ++ behind) = some (key, behind) := by
  obtain ⟨c, r, hkey, hc⟩ := h.exists_cons
  have hspan := span_append h.2 hbehind
  rw [hkey, List.cons_append] at hspan ⊢
  unfold partText?
  split
  next heq => exact absurd (List.cons.inj heq).1 (isBareChar_ne hc (by decide))
  next heq => exact absurd (List.cons.inj heq).1 (isBareChar_ne hc (by decide))
  next =>
      simp only [hspan]
      rw [← hkey, String.ofList_toList]

/-- A key of one bare part is read up to what follows the blanks behind it, unless
that is the point before another part. -/
theorem keyParts?_bare {key : String} (h : IsBare key) (behind : List Char) {r : List Char}
    {d : Char} (hbehind : ∀ c ∈ behind.head?, isBareChar c = false)
    (hnext : skipBlanks behind = d :: r) (hd : d ≠ '.') (n : Nat) :
    ∃ e, keyParts? (n + 1) (key.toList ++ behind) = some (⟨[], ⟨key, e⟩⟩, d :: r) := by
  obtain ⟨c, tail, hkey, hc⟩ := h.exists_cons
  have hpart := partText?_bare h hbehind
  rw [hkey, List.cons_append] at hpart ⊢
  refine ⟨.between (c :: (tail ++ behind)) behind, ?_⟩
  rw [keyParts?, skipBlanks_cons (isBlank_of_isBareChar hc)]
  simp only [keyPart?, located, hpart, Option.map_some, hnext]
  split
  next heq => exact absurd (List.cons.inj heq).1 hd
  next => rfl

/-- **A bare key** with the blanks behind it. -/
theorem key?_bare {key : String} (h : IsBare key) (behind : List Char) {r : List Char} {d : Char}
    (hbehind : ∀ c ∈ behind.head?, isBareChar c = false)
    (hnext : skipBlanks behind = d :: r) (hd : d ≠ '.') :
    ∃ e, key? (key.toList ++ behind) = some (⟨[], ⟨key, e⟩⟩, d :: r) :=
  keyParts?_bare h behind hbehind hnext hd (depthLimit - 2)

/-! ## §2. Values. -/

/-- A text without escapes is read up to the quote that closes it. -/
theorem basicBody?_unescaped {body : List Char}
    (h : ∀ c ∈ body, isStringChar c = true ∧ c ≠ '"' ∧ c ≠ '\\') (done rest : List Char) :
    basicBody? .plain done (body ++ '"' :: rest)
      = some (String.ofList (done.reverse ++ body), rest) := by
  induction body generalizing done with
  | nil => simp [basicBody?]
  | cons c r ih =>
      obtain ⟨hstring, hquote, hescape⟩ := h c List.mem_cons_self
      have hrest := ih (fun c hc => h c (List.mem_cons_of_mem _ hc)) (c :: done)
      rw [List.cons_append, basicBody?, if_pos hstring, hrest]
      · simp
      · exact hquote
      · exact hescape

/-- **A text between quotes** spells itself, if it needs no escapes. -/
theorem spells_quoted {text : String} (h : IsUnescaped text) :
    Spells ("\"" ++ text ++ "\"") (.string text) := by
  have hchars : ("\"" ++ text ++ "\"").toList = '"' :: (text.toList ++ ['"']) := by
    simp
  refine ⟨⟨'"', text.toList ++ ['"'], hchars, by decide, by decide, by decide⟩, fun rest => ?_⟩
  -- no third quote follows, so the string is on one line
  have hsingle : ∀ r, text.toList ++ '"' :: '\n' :: rest = '"' :: '"' :: r → False := by
    intro r heq
    cases htext : text.toList with
    | nil =>
        rw [htext, List.nil_append] at heq
        exact absurd (List.cons.inj (List.cons.inj heq).2).1 (by decide)
    | cons c tail =>
        rw [htext, List.cons_append] at heq
        exact (h c (by rw [htext]; exact List.mem_cons_self)).2.1 (List.cons.inj heq).1
  have hquoted : quoted? ('"' :: (text.toList ++ '"' :: '\n' :: rest))
      = some (text, '\n' :: rest) := by
    rw [quoted?]
    · rw [basic?, basicBody?_unescaped h, List.reverse_nil, List.nil_append,
        String.ofList_toList]
    · exact hsingle
  rw [hchars, List.cons_append, List.append_assoc, List.singleton_append, atom?, hquoted]
  rfl

theorem spells_true : Spells "true" (.boolean true) :=
  ⟨⟨'t', ['r', 'u', 'e'], rfl, by decide, by decide, by decide⟩, fun _ => rfl⟩

theorem spells_false : Spells "false" (.boolean false) :=
  ⟨⟨'f', ['a', 'l', 's', 'e'], rfl, by decide, by decide, by decide⟩, fun _ => rfl⟩

/-- What spells a value is read as one, nested or not. -/
theorem Spells.value? {text : String} {a : Atom} (h : Spells text a) (n : Nat)
    (rest : List Char) :
    ∃ e, Toml.value? n (text.toList ++ '\n' :: rest) = some (.atom a e, '\n' :: rest) := by
  obtain ⟨c, tail, htext, -, hbracket, hbrace⟩ := h.opens
  have hplain : plainValue? (text.toList ++ '\n' :: rest)
      = some (.atom a (.between (text.toList ++ '\n' :: rest) ('\n' :: rest)), '\n' :: rest) := by
    simp only [plainValue?, located, h.reads, Option.map_some]
  refine ⟨_, Eq.trans ?_ hplain⟩
  cases n with
  | zero => rfl
  | succ n =>
      rw [htext, List.cons_append, Toml.value?]
      · intro r heq
        exact hbracket (List.cons.inj heq).1
      · intro r heq
        exact hbrace (List.cons.inj heq).1

/-! ## §3. Lines. -/

theorem lineEnd?_newline (rest : List Char) : lineEnd? ('\n' :: rest) = some rest := rfl

theorem lineEnd?_comment {text : List Char} (h : ∀ c ∈ text, isCommentChar c = true)
    (rest : List Char) : lineEnd? ('#' :: (text ++ '\n' :: rest)) = some rest := by
  have hdrop : (text ++ '\n' :: rest).dropWhile isCommentChar = '\n' :: rest := by
    rw [List.dropWhile_append_of_pos h]
    rfl
  rw [lineEnd?, skipBlanks_cons (by decide), skipComment, hdrop]
  rfl

/-- A line does not end in front of a character that opens a statement. -/
theorem lineEnd?_eq_none {c : Char} (hblank : isBlank c = false) (hcomment : c ≠ '#')
    (hnewline : c ≠ '\n') (hreturn : c ≠ '\r') (rest : List Char) :
    lineEnd? (c :: rest) = none := by
  have hskip : skipComment (c :: rest) = c :: rest := by
    rw [skipComment]
    intro r heq
    exact hcomment (List.cons.inj heq).1
  rw [lineEnd?, skipBlanks_cons hblank, hskip]
  simp only
  rw [newline?]
  · intro r heq
    exact hnewline (List.cons.inj heq).1
  · intro r heq
    exact hreturn (List.cons.inj heq).1

theorem statement?_header {name : String} (h : IsBare name) (rest : List Char) :
    ∃ s, Line.Says (.header name) s
      ∧ statement? ('[' :: (name.toList ++ ']' :: '\n' :: rest)) = some (s, '\n' :: rest) := by
  obtain ⟨e, hkey⟩ := key?_bare h (']' :: '\n' :: rest) (by simp; decide)
    (skipBlanks_cons (by decide) _) (by decide)
  -- a bare name is no second bracket
  have hsingle : ∀ r, name.toList ++ ']' :: '\n' :: rest = '[' :: r → False := by
    obtain ⟨c, tail, hname, hc⟩ := h.exists_cons
    intro r heq
    rw [hname, List.cons_append] at heq
    exact isBareChar_ne hc (by decide) (List.cons.inj heq).1
  refine ⟨.header ⟨[], ⟨name, e⟩⟩
    (.between ('[' :: (name.toList ++ ']' :: '\n' :: rest)) ('\n' :: rest)), .header .., ?_⟩
  rw [statement?]
  · simp only [hkey]
  · exact hsingle

theorem statement?_setting {set : Setting} (hkey : IsBare set.key)
    (hvalue : Spells set.text set.value) (rest : List Char) :
    ∃ s, Line.Says (.setting set) s
      ∧ statement? (set.key.toList ++ ' ' :: '=' :: ' ' :: (set.text.toList ++ '\n' :: rest))
          = some (s, '\n' :: rest) := by
  obtain ⟨e, hread⟩ := key?_bare hkey
    (' ' :: '=' :: ' ' :: (set.text.toList ++ '\n' :: rest)) (by simp; decide) rfl
    (by decide)
  obtain ⟨e', hnode⟩ := hvalue.value? (depthLimit - 1) rest
  obtain ⟨v, vs, htext, hv, -⟩ := hvalue.opens
  obtain ⟨c, tail, hchars, hc⟩ := hkey.exists_cons
  have hassign : assignment? (Toml.value? (depthLimit - 1))
      (set.key.toList ++ ' ' :: '=' :: ' ' :: (set.text.toList ++ '\n' :: rest))
      = some ((⟨[], ⟨set.key, e⟩⟩, .atom set.value e'), '\n' :: rest) := by
    have hskip : skipBlanks (' ' :: (set.text.toList ++ '\n' :: rest))
        = set.text.toList ++ '\n' :: rest := by
      rw [htext]
      exact skipBlanks_cons hv _
    rw [assignment?, hread]
    simp only [hskip, hnode, Option.map_some]
  refine ⟨_, .setting set e e', ?_⟩
  rw [hchars, List.cons_append] at hassign ⊢
  rw [statement?, hassign]
  · rfl
  · intro r heq
    exact isBareChar_ne hc (by decide) (List.cons.inj heq).1
  · intro r heq
    exact isBareChar_ne hc (by decide) (List.cons.inj heq).1

/-! ## §4. Documents. -/

/-- **What one line comes to**: the statement it holds, if it holds one, in front
of those of the lines behind it. -/
theorem statements_line {line : Line} (h : line.WellFormed) (n : Nat) (rest : List Char) :
    (line.isStatement = false ∧ statements (n + 1) (line.text ++ rest) = statements n rest)
      ∨ (line.isStatement = true ∧ ∃ s, line.Says s
        ∧ statements (n + 1) (line.text ++ rest) = (statements n rest).map (s :: ·)) := by
  cases line with
  | blank => exact Or.inl ⟨rfl, rfl⟩
  | comment text =>
      refine Or.inl ⟨rfl, ?_⟩
      have hend := lineEnd?_comment h rest
      simp only [Line.text, List.cons_append, List.append_assoc, List.nil_append,
        statements, skipBlanks_cons (c := '#') (by decide), hend]
  | header name =>
      obtain ⟨s, hs, hread⟩ := statement?_header h rest
      refine Or.inr ⟨rfl, s, hs, ?_⟩
      have hend : lineEnd? ('[' :: (name.toList ++ ']' :: '\n' :: rest)) = none :=
        lineEnd?_eq_none (by decide) (by decide) (by decide) (by decide) _
      simp only [Line.text, List.cons_append, List.append_assoc, List.nil_append,
        statements, skipBlanks_cons (c := '[') (by decide), hend, hread, lineEnd?_newline]
  | setting set =>
      obtain ⟨s, hs, hread⟩ := statement?_setting h.1 h.2 rest
      refine Or.inr ⟨rfl, s, hs, ?_⟩
      obtain ⟨c, tail, hkey, hc⟩ := h.1.exists_cons
      have hblank := isBlank_of_isBareChar hc
      rw [hkey, List.cons_append] at hread
      have hend : lineEnd? (c :: (tail ++ ' ' :: '=' :: ' ' :: (set.text.toList ++ '\n' :: rest)))
          = none :=
        lineEnd?_eq_none hblank (isBareChar_ne hc (by decide)) (isBareChar_ne hc (by decide))
          (isBareChar_ne hc (by decide)) _
      simp only [Line.text, hkey, List.cons_append, List.append_assoc, List.nil_append,
        statements, skipBlanks_cons hblank, hend, hread, lineEnd?_newline]

/-- Every line has a character, and it is not the mark that may open a document. -/
theorem Line.text_eq_cons {line : Line} (h : line.WellFormed) :
    ∃ c r, line.text = c :: r ∧ c ≠ '\uFEFF' := by
  cases line with
  | blank => exact ⟨_, _, rfl, by decide⟩
  | comment text => exact ⟨_, _, rfl, by decide⟩
  | header name => exact ⟨_, _, rfl, by decide⟩
  | setting set =>
      obtain ⟨c, r, hkey, hc⟩ := h.1.exists_cons
      refine ⟨c, r ++ ' ' :: '=' :: ' ' :: set.text.toList ++ ['\n'], ?_,
        isBareChar_ne hc (by decide)⟩
      rw [Line.text, hkey]
      rfl

/-- **The statements of a plain document**: one for each line that says something,
in the order of the lines. -/
theorem statements_lines {lines : List Line} (h : ∀ line ∈ lines, line.WellFormed) {n : Nat}
    (hn : (lines.flatMap Line.text).length < n) :
    ∃ ss, statements n (lines.flatMap Line.text) = .ok ss
      ∧ Line.SayAll (lines.filter Line.isStatement) ss := by
  obtain ⟨n, rfl⟩ : ∃ m, n = m + 1 := ⟨n - 1, by omega⟩
  induction lines generalizing n with
  | nil => exact ⟨[], rfl, .nil⟩
  | cons line lines ih =>
      have hline := h line List.mem_cons_self
      have hlines : ∀ l ∈ lines, l.WellFormed := fun l hl => h l (List.mem_cons_of_mem _ hl)
      rw [List.flatMap_cons] at hn ⊢
      -- a line is a character at least, so the bound holds for the others
      have hlength : (lines.flatMap Line.text).length + 1 ≤ n := by
        obtain ⟨c, r, htext, -⟩ := Line.text_eq_cons hline
        rw [htext, List.length_append, List.length_cons] at hn
        omega
      obtain ⟨n, rfl⟩ : ∃ m, n = m + 1 := ⟨n - 1, by omega⟩
      obtain ⟨ss, hss, hsaid⟩ := ih hlines n hlength
      rcases statements_line hline (n + 1) (lines.flatMap Line.text) with
        ⟨hplain, hread⟩ | ⟨hplain, s, hs, hread⟩
      · rw [hread, List.filter_cons_of_neg (by simp [hplain])]
        exact ⟨ss, hss, hsaid⟩
      · rw [hread, List.filter_cons_of_pos hplain, hss]
        exact ⟨s :: ss, rfl, .cons hs hsaid⟩

/-- **A plain document is read** into what the statements of its lines build. -/
theorem read_unlines {lines : List Line} (h : ∀ line ∈ lines, line.WellFormed) :
    ∃ ss, read (unlines lines) = assemble ss
      ∧ Line.SayAll (lines.filter Line.isStatement) ss := by
  have hmark : skipMark (lines.flatMap Line.text) = lines.flatMap Line.text := by
    cases lines with
    | nil => rfl
    | cons line lines =>
        obtain ⟨c, r, htext, hc⟩ := Line.text_eq_cons (h line List.mem_cons_self)
        rw [List.flatMap_cons, htext, List.cons_append, skipMark]
        intro r' heq
        exact hc (List.cons.inj heq).1
  obtain ⟨ss, hss, hsaid⟩ := statements_lines h (Nat.lt_succ_self _)
  refine ⟨ss, ?_, hsaid⟩
  simp only [read, unlines, String.toList_ofList, hmark, hss]
  rfl

end JitTarget.Toml
