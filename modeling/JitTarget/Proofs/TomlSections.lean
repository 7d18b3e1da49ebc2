/-
  JitTarget.Proofs.TomlSections
  ────────────────────────────────
  **A PLAIN DOCUMENT IS THE TABLE OF ITS SECTIONS.**

  A header opens an empty table at the end of the document, and a setting goes to
  the end of the table that is open.  So where no key is set twice, what the
  statements build is what the lines outline:

      Holds.step_setting, Holds.step_header  — what one statement adds
      Holds.run_settings, Holds.run_sections — what a list of them adds
      read_outline                           — the document as a whole
-/
import JitTarget.Proofs.Records
import JitTarget.Proofs.TomlLines

namespace JitTarget.Toml

/-! ## §1. Tables. -/

theorem dataOfEntries_eq (entries : Entries) :
    dataOfEntries entries = entries.map (fun (k, _, n) => (k, n.data)) := by
  induction entries with
  | nil => rfl
  | cons entry entries ih =>
      rw [dataOfEntries, ih]
      rfl

theorem dataOfEntries_append (entries more : Entries) :
    dataOfEntries (entries ++ more) = dataOfEntries entries ++ dataOfEntries more := by
  simp only [dataOfEntries_eq, List.map_append]

theorem keys_dataOfEntries (entries : Entries) :
    (dataOfEntries entries).map Prod.fst = entries.map Prod.fst := by
  rw [dataOfEntries_eq, List.map_map]
  rfl

/-- What stands under the last key is replaced there. -/
theorem replaceNode_last {key : String} {done : Entries} (h : key ∉ done.map Prod.fst)
    (e : Extent) (n n' : Node) :
    replaceNode key n' (done ++ [(key, e, n)]) = done ++ [(key, e, n')] := by
  induction done with
  | nil => simp [replaceNode]
  | cons entry done ih =>
      rw [List.map_cons, List.mem_cons, not_or] at h
      rw [List.cons_append, replaceNode, if_neg (Ne.symm h.1), ih h.2]
      rfl

namespace Branch

variable {b : Branch Node} {p : Part}

theorem data_eq (b : Branch Node) : b.data = dataOfEntries b.entries := by
  cases b
  rfl

theorem get?_eq_none {key : String} (h : key ∉ b.data.map Prod.fst) : b.get? key = none := by
  rw [data_eq, keys_dataOfEntries] at h
  rw [get?, lookup_eq_none h]
  rfl

/-- **A free key** is put at the end of a table that has its own header. -/
theorem set?_bare (hwritten : b.origin = .written) (hfree : p.text ∉ b.data.map Prod.fst)
    (v : Node) :
    ∃ b', b.set? ⟨[], p⟩ v = some b' ∧ b'.origin = .written
      ∧ b'.entries = b.entries ++ [(p.text, p.extent, v)] := by
  have hlast : setLast ⟨[], p⟩ v b = some (b.append p v) := by
    rw [setLast, hwritten, get?_eq_none hfree]
    rfl
  refine ⟨(b.append p v).reaching v, ?_, ?_, ?_⟩
  · rw [set?, descend, hlast]
    rfl
  · unfold reaching
    split <;> exact hwritten
  · unfold reaching
    split <;> rfl

/-- A header that is free opens an empty table at the end. -/
theorem openTable?_bare (hfree : p.text ∉ b.data.map Prod.fst) (e : Extent) :
    b.openTable? ⟨[], p⟩ e = some (b.append p (.branch ⟨.written, some e, []⟩)) := by
  rw [openTable?, descend, get?_eq_none hfree]

/-- A change to the last table of a document changes nothing else. -/
theorem descend_last {done : Entries} {e : Extent} {child child' : Branch Node}
    (hentries : b.entries = done ++ [(p.text, e, .branch child)])
    (hfree : p.text ∉ done.map Prod.fst) (change : Branch Node → Option (Branch Node))
    (hchange : change child = some child') :
    descend false change [p] b
      = some { b with entries := done ++ [(p.text, e, .branch child')] } := by
  have hget : b.get? p.text = some (.branch child) := by
    rw [get?, hentries, List.lookup_append, lookup_eq_none hfree]
    simp
  rw [descend, hget]
  simp only [descend, hchange, Option.map_some, Bool.false_and, Bool.false_eq_true, if_false]
  rw [replace, hentries, replaceNode_last hfree]

end Branch

/-! ## §2. Drafts. -/

namespace Draft

/-- **Which table of a draft is open**, and what it holds: the document itself, or
its last section, by what stands before it and its name. -/
inductive Holds : Draft → Option (Table × String) → Table → Prop where
  | top {b : Branch Node} (hwritten : b.origin = .written) : Holds ⟨b, none⟩ none b.data
  | last {b : Branch Node} {done : Entries} {name : String} {e e' : Extent}
      {child : Branch Node} (hentries : b.entries = done ++ [(name, e, .branch child)])
      (hfree : name ∉ done.map Prod.fst) (hwritten : child.origin = .written) :
      Holds ⟨b, some ⟨[], ⟨name, e'⟩⟩⟩ (some (dataOfEntries done, name)) child.data

/-- The document whose open table holds these entries. -/
def whole : Option (Table × String) → Table → Table
  | none, t => t
  | some (before, name), t => before ++ [(name, .table t)]

variable {d : Draft} {place : Option (Table × String)} {t : Table}

/-- The document is told by its open table and what stands before that. -/
theorem Holds.data (h : d.Holds place t) : d.document.data = whole place t := by
  cases h with
  | top hwritten => rfl
  | last hentries hfree hwritten =>
      rw [Branch.data_eq, hentries, dataOfEntries_append]
      simp [whole, dataOfEntries, Node.data]

/-- **A setting** goes to the end of the open table. -/
theorem Holds.step_setting (h : d.Holds place t) {key : String} (hfree : key ∉ t.map Prod.fst)
    (e : Extent) (v : Node) :
    ∃ d', d.step (.entry ⟨[], ⟨key, e⟩⟩ v) = .ok d' ∧ d'.Holds place (t ++ [(key, v.data)]) := by
  have hdata : ∀ {b b' : Branch Node}, b'.entries = b.entries ++ [(key, e, v)] →
      b'.data = b.data ++ [(key, v.data)] := by
    intro b b' hentries
    rw [Branch.data_eq, Branch.data_eq, hentries, dataOfEntries_append]
    rfl
  -- a setting changes the document itself, or its last section only
  cases h with
  | @top b hwritten =>
      obtain ⟨b', hset, hwritten', hentries⟩ := Branch.set?_bare (p := ⟨key, e⟩) hwritten hfree v
      refine ⟨⟨b', none⟩, ?_, ?_⟩
      · simp only [step, step?, openPath, descend, hset, Option.map_some]
      · rw [← hdata hentries]
        exact .top hwritten'
  | @last b done name ename ename' child hentries hname hwritten =>
      obtain ⟨child', hset, hwritten', hentries'⟩ :=
        Branch.set?_bare (p := ⟨key, e⟩) hwritten hfree v
      have hdescend := Branch.descend_last (p := ⟨name, ename'⟩) hentries hname
        (fun b => b.set? ⟨[], ⟨key, e⟩⟩ v) hset
      refine ⟨⟨{ b with entries := done ++ [(name, ename, .branch child')] },
        some ⟨[], ⟨name, ename'⟩⟩⟩, ?_, ?_⟩
      · simp only [step, step?, openPath, List.nil_append, hdescend, Option.map_some]
      · rw [← hdata hentries']
        exact .last rfl hname hwritten'

/-- **A header** opens an empty section behind everything else. -/
theorem Holds.step_header (h : d.Holds place t) {name : String}
    (hfree : name ∉ (whole place t).map Prod.fst) (e e' : Extent) :
    ∃ d', d.step (.header ⟨[], ⟨name, e⟩⟩ e') = .ok d'
      ∧ d'.Holds (some (whole place t, name)) [] := by
  rw [← h.data] at hfree ⊢
  have hopen := Branch.openTable?_bare (p := ⟨name, e⟩) hfree e'
  refine ⟨⟨d.document.append ⟨name, e⟩ (.branch ⟨.written, some e', []⟩), some ⟨[], ⟨name, e⟩⟩⟩,
    ?_, ?_⟩
  · simp only [step, step?, hopen, Option.map_some]
  · rw [Branch.data_eq] at hfree ⊢
    rw [keys_dataOfEntries] at hfree
    have hentries : (d.document.append ⟨name, e⟩ (.branch ⟨.written, some e', []⟩)).entries
        = d.document.entries ++ [(name, e, .branch ⟨.written, some e', []⟩)] := rfl
    exact .last hentries hfree rfl

theorem foldlM_cons_ok {d d' : Draft} {s : Statement} (ss : List Statement)
    (h : d.step s = .ok d') : (s :: ss).foldlM step d = ss.foldlM step d' := by
  rw [List.foldlM_cons, h]
  rfl

/-- **Settings** go to the end of the open table, one by one. -/
theorem Holds.run_settings (h : d.Holds place t) {settings : List Setting}
    (hkeys : ((t ++ settingTable settings).map Prod.fst).Nodup) {more : List Line}
    {ss : List Statement}
    (hsaid : Line.SayAll (settings.map .setting ++ more) ss) :
    ∃ d' ss', ss.foldlM step d = ss'.foldlM step d' ∧ Line.SayAll more ss'
      ∧ d'.Holds place (t ++ settingTable settings) := by
  -- on the settings: what is set has moved into the table, so the keys stay distinct
  induction settings generalizing d t ss with
  | nil => exact ⟨d, ss, rfl, hsaid, by simpa [settingTable] using h⟩
  | cons set settings ih =>
      cases hsaid with
      | @cons _ s _ ss hs hsaid =>
          cases hs with
          | setting _ e e' =>
              have hsplit : t ++ settingTable (set :: settings)
                  = (t ++ [(set.key, .atom set.value)]) ++ settingTable settings := by
                simp [settingTable]
              rw [hsplit] at hkeys ⊢
              have hfree : set.key ∉ t.map Prod.fst := by
                rw [List.map_append, List.map_append] at hkeys
                have hfront := (List.nodup_append.mp (List.nodup_append.mp hkeys).1).2.2
                intro hmem
                exact hfront _ hmem _ (by simp) rfl
              obtain ⟨d₁, hstep, hholds⟩ := h.step_setting hfree e (.atom set.value e')
              obtain ⟨d₂, ss', hrun, hmore, hdone⟩ := ih hholds hkeys hsaid
              exact ⟨d₂, ss', (foldlM_cons_ok ss hstep).trans hrun, hmore, hdone⟩

/-- **Sections** go to the end of the document, one by one. -/
theorem Holds.run_sections (h : d.Holds place t) {sections : List Section}
    (hkeys : ((whole place t ++ sectionTable sections).map Prod.fst).Nodup)
    (hwithin : ∀ s ∈ sections, ((settingTable s.settings).map Prod.fst).Nodup)
    {ss : List Statement}
    (hsaid : Line.SayAll
      (sections.flatMap (fun s => .header s.name :: s.settings.map .setting)) ss) :
    ∃ d', ss.foldlM step d = .ok d'
      ∧ d'.document.data = whole place t ++ sectionTable sections := by
  -- on the sections: a header turns all of the document into what stands before it
  induction sections generalizing d place t ss with
  | nil =>
      cases hsaid
      exact ⟨d, rfl, by simp [h.data, sectionTable]⟩
  | cons sec sections ih =>
      rw [List.flatMap_cons, List.cons_append] at hsaid
      cases hsaid with
      | @cons _ s _ ss hs hsaid =>
          cases hs with
          | header _ e e' =>
              have hsplit : whole place t ++ sectionTable (sec :: sections)
                  = whole (some (whole place t, sec.name)) (settingTable sec.settings)
                    ++ sectionTable sections := by
                simp [sectionTable, whole]
              have hfree : sec.name ∉ (whole place t).map Prod.fst := by
                rw [List.map_append] at hkeys
                intro hmem
                exact (List.nodup_append.mp hkeys).2.2 _ hmem _ (by simp [sectionTable]) rfl
              obtain ⟨d₁, hstep, hopened⟩ := h.step_header hfree e e'
              obtain ⟨d₂, ss', hrun, hmore, hholds⟩ := hopened.run_settings
                (hwithin sec List.mem_cons_self) hsaid
              rw [hsplit] at hkeys ⊢
              obtain ⟨d₃, hrest, hdone⟩ := ih hholds hkeys
                (fun s hs => hwithin s (List.mem_cons_of_mem _ hs)) hmore
              exact ⟨d₃, (foldlM_cons_ok ss hstep).trans (hrun.trans hrest), hdone⟩

end Draft

/-! ## §3. Documents. -/

/-- **A PLAIN DOCUMENT IS READ AS THE TABLE IT OUTLINES**, where its lines say what
the outline says and no key is set twice. -/
theorem read_outline {lines : List Line} {o : Outline}
    (hwell : ∀ line ∈ lines, line.WellFormed)
    (hlines : lines.filter Line.isStatement = o.lines) (hdistinct : o.Distinct) :
    ∃ d, read (unlines lines) = .ok d ∧ d.data = o.table := by
  obtain ⟨ss, hread, hsaid⟩ := read_unlines hwell
  rw [hlines] at hsaid
  have hempty : Draft.empty.Holds none [] := .top rfl
  have hkeys := hdistinct.keys
  have hfront : ((settingTable o.settings).map Prod.fst).Nodup := by
    rw [Outline.table, List.map_append] at hkeys
    exact (List.nodup_append.mp hkeys).1
  obtain ⟨d, ss', hrun, hmore, hholds⟩ := hempty.run_settings hfront hsaid
  obtain ⟨d', hrest, hdone⟩ := hholds.run_sections hkeys hdistinct.within hmore
  refine ⟨d'.document, ?_, hdone⟩
  rw [hread, assemble, hrun, hrest]
  rfl

/-- **The data of a plain document** is the table it outlines. -/
theorem parse?_outline {lines : List Line} {o : Outline}
    (hwell : ∀ line ∈ lines, line.WellFormed)
    (hlines : lines.filter Line.isStatement = o.lines) (hdistinct : o.Distinct) :
    parse? (unlines lines) = some o.table := by
  obtain ⟨d, hread, hdata⟩ := read_outline hwell hlines hdistinct
  rw [parse?, hread, ← hdata]
  rfl

end JitTarget.Toml
