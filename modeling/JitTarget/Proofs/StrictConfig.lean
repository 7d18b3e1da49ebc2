/-
  JitTarget.Proofs.StrictConfig
  ────────────────────────────────
  **A CONFIGURATION FILE IS READ STRICTLY, AND BY WHAT IT SAYS ALONE.**

  A document is a configuration exactly if it has no key that means nothing and no
  value that means nothing; the configuration is what it says.  Two documents that
  say the same are one configuration, however they are spelled:

      sectionOfToml_reads  — a section
      ofToml_eq_ok_iff     — a document
      Describes.alike      — two documents that say the same
      parse_strict         — every text
-/
import JitTarget.Config.Strict
import JitTarget.Proofs.ConfigText
import JitTarget.Proofs.TomlKeys

namespace JitTarget.Config

open Schema Toml

/-! ## §1. Settings. -/

/-- A string is read as the family it names, exactly as it is spelled. -/
theorem familyOfToml_string_iff {name : String} {f : Family} :
    familyOfToml (.atom (.string name)) = .ok f ↔ name = f.name := by
  have hname : Named.ofName? name = some f ↔ name = f.name :=
    (Named.ofName?_eq_some_iff name f).trans eq_comm
  rw [← hname]
  simp only [familyOfToml]
  cases hfound : (Named.ofName? name : Option Family) with
  | none => constructor <;> intro h <;> cases h
  | some g => simp

/-- Nothing but a boolean is read as the fastcall setting. -/
theorem fastcallOfToml_iff {v : Value} {b : Bool} :
    fastcallOfToml v = .ok b ↔ v = .atom (.boolean b) := by
  unfold fastcallOfToml
  split
  next b' => simp
  next hother =>
    constructor
    · intro h
      cases h
    · rintro rfl
      exact absurd rfl (hother b)

/-- What is read of the family, where it is a string. -/
theorem reads_family_iff {o : Option Value}
    (hstring : ∀ v, o = some v → ∃ name, v = .atom (.string name)) {family : Option Family} :
    Reads familyOfToml o family ↔ o = family.map (fun f => .atom (.string f.name)) := by
  refine reads_iff (fun v hv f => ?_)
  obtain ⟨name, rfl⟩ := hstring v hv
  rw [familyOfToml_string_iff, Value.atom.injEq, Atom.string.injEq]

/-- What is read of the fastcall setting. -/
theorem reads_fastcall_iff {o : Option Value} {fastcall : Option Bool} :
    Reads fastcallOfToml o fastcall ↔ o = fastcall.map (fun b => .atom (.boolean b)) :=
  reads_iff (fun _ _ _ => fastcallOfToml_iff)

/-! ## §2. Sections and documents. -/

/-- **A section** that is a table or left out has no other key than its own, and its
setting is read. -/
theorem sectionOfToml_reads {α : Type} (name key : String) (read : Value → Except Flaw α)
    {document : Table} {sectionKey : String} (hkeyed : (Value.table document).Keyed)
    (htable : ∀ v, document.lookup sectionKey = some v → ∃ entries, v = .table entries)
    {a : Option α} :
    (∃ part, Reads (sectionOfToml name key read) (document.lookup sectionKey) part
        ∧ part.join = a)
      ↔ OnlyKey document sectionKey key ∧ Reads read (setting? document sectionKey key) a := by
  unfold OnlyKey setting?
  cases hfound : document.lookup sectionKey with
  | none =>
      constructor
      · rintro ⟨part, hpart, rfl⟩
        cases hpart
        exact ⟨fun entries h => absurd h.symm (Option.some_ne_none _), .absent⟩
      · rintro ⟨-, hread⟩
        cases hread
        exact ⟨none, .absent, rfl⟩
  | some v =>
      obtain ⟨entries, rfl⟩ := htable v hfound
      have hnodup : (entries.map Prod.fst).Nodup :=
        (keyed_table ((keyed_table hkeyed).2 _ (mem_of_lookup_eq_some hfound))).1
      constructor
      · rintro ⟨part, hpart, rfl⟩
        cases hpart with
        | present hread =>
            obtain ⟨hkeys, hread⟩ := (oneField_eq_ok_iff hnodup).mp hread
            refine ⟨fun entries' heq => ?_, hread⟩
            cases heq
            exact hkeys
      · rintro ⟨hkeys, hread⟩
        have hone := (oneField_eq_ok_iff hnodup).mpr ⟨hkeys entries rfl, hread⟩
        exact ⟨some a, .present hone, rfl⟩

/-- **A document** whose sections are tables is read as the configuration it
describes. -/
theorem ofToml_eq_ok_iff {document : Table} (hkeyed : (Value.table document).Keyed)
    (hshape : Sectioned document) {c : Config} :
    ofToml document = .ok c ↔ Describes document c := by
  have hnodup := (keyed_table hkeyed).1
  have hne : targetKey ≠ toolchainKey := by decide
  have htarget := fun family => sectionOfToml_reads targetName familyKey familyOfToml hkeyed
    hshape.target (a := family)
  have htoolchain := fun fastcall => sectionOfToml_reads toolchainName fastcallKey
    fastcallOfToml hkeyed hshape.toolchain (a := fastcall)
  constructor
  · intro h
    obtain ⟨⟨part, part'⟩, hfields, hc⟩ := bind_eq_ok_iff.mp h
    cases hc
    obtain ⟨hkeys, hpart, hpart'⟩ := (twoFields_eq_ok_iff hne hnodup).mp hfields
    obtain ⟨htargetKeys, hfamily⟩ := (htarget _).mp ⟨part, hpart, rfl⟩
    obtain ⟨htoolchainKeys, hfastcall⟩ := (htoolchain _).mp ⟨part', hpart', rfl⟩
    exact ⟨hkeys, htargetKeys, htoolchainKeys, (reads_family_iff hshape.family).mp hfamily,
      reads_fastcall_iff.mp hfastcall⟩
  · rintro ⟨hkeys, htargetKeys, htoolchainKeys, hfamily, hfastcall⟩
    obtain ⟨part, hpart, hjoin⟩ :=
      (htarget _).mpr ⟨htargetKeys, (reads_family_iff hshape.family).mpr hfamily⟩
    obtain ⟨part', hpart', hjoin'⟩ :=
      (htoolchain _).mpr ⟨htoolchainKeys, reads_fastcall_iff.mpr hfastcall⟩
    have hfields := (twoFields_eq_ok_iff hne hnodup).mpr ⟨hkeys, hpart, hpart'⟩
    refine bind_eq_ok_iff.mpr ⟨(part, part'), hfields, ?_⟩
    show Except.ok (⟨part.join, part'.join⟩ : Config) = .ok c
    rw [hjoin, hjoin']

/-- **A document that may be a configuration** is one. -/
theorem strict_iff (document : Table) : Strict document ↔ ∃ c, Describes document c := by
  have hnames : ∀ v : Value, (∃ name ∈ Family.names, v = .atom (.string name))
      ↔ ∃ f : Family, v = .atom (.string f.name) := by
    intro v
    constructor
    · rintro ⟨name, hname, rfl⟩
      obtain ⟨f, -, rfl⟩ := List.mem_map.mp hname
      exact ⟨f, rfl⟩
    · rintro ⟨f, rfl⟩
      exact ⟨f.name, List.mem_map_of_mem (Named.mem_all f), rfl⟩
  constructor
  · rintro ⟨hkeys, htargetKeys, htoolchainKeys, hfamily, hfastcall⟩
    obtain ⟨family, hfamily⟩ :=
      exists_eq_map_iff.mpr (fun v hv => (hnames v).mp (hfamily v hv))
    obtain ⟨fastcall, hfastcall⟩ := exists_eq_map_iff.mpr hfastcall
    exact ⟨⟨family, fastcall⟩, hkeys, htargetKeys, htoolchainKeys, hfamily, hfastcall⟩
  · rintro ⟨c, hkeys, htargetKeys, htoolchainKeys, hfamily, hfastcall⟩
    refine ⟨hkeys, htargetKeys, htoolchainKeys, fun v hv => (hnames v).mpr ?_, ?_⟩
    · exact exists_eq_map_iff.mp ⟨_, hfamily⟩ v hv
    · exact exists_eq_map_iff.mp ⟨_, hfastcall⟩

/-! ## §3. Documents that say the same. -/

section Alike

variable {document document' : Table} {c : Config}

/-- A setting of the one is a setting of the other. -/
theorem setting?_alike (h : (Value.table document).Alike (.table document'))
    {sectionKey key : String} {b : Value} (hb : setting? document' sectionKey key = some b) :
    ∃ a, setting? document sectionKey key = some a ∧ a.Alike b := by
  obtain ⟨w, hw, hunder⟩ := Option.bind_eq_some_iff.mp hb
  obtain ⟨v, hv, hvw⟩ := h.lookup hw
  -- nothing but a table has settings, however it is spelled
  obtain ⟨entries', rfl⟩ : ∃ entries', w = .table entries' := by
    cases w with
    | table entries' => exact ⟨entries', rfl⟩
    | atom _ => cases hunder
    | array _ => cases hunder
    | series _ => cases hunder
  obtain ⟨entries, rfl⟩ := hvw.exists_table
  obtain ⟨a, ha, hab⟩ := hvw.lookup hunder
  exact ⟨a, Option.bind_eq_some_iff.mpr ⟨_, hv, ha⟩, hab⟩

/-- A setting that is an atom, or is left out, is the same in both. -/
theorem setting?_eq_of_atoms (h : (Value.table document).Alike (.table document'))
    {sectionKey key : String} {o : Option Atom}
    (heq : setting? document sectionKey key = o.map .atom) :
    setting? document' sectionKey key = o.map .atom := by
  cases hb : setting? document' sectionKey key with
  | none =>
      cases o with
      | none => rfl
      | some x =>
          obtain ⟨a, ha, -⟩ := setting?_alike h.symm heq
          rw [hb] at ha
          cases ha
  | some b =>
      obtain ⟨a, ha, hab⟩ := setting?_alike h hb
      rw [ha] at heq
      obtain ⟨x, rfl, rfl⟩ := Option.map_eq_some_iff.mp heq.symm
      rw [hab.symm.eq_atom]
      rfl

theorem OnlyKey.alike (h : (Value.table document).Alike (.table document'))
    {sectionKey key : String} (honly : OnlyKey document sectionKey key) :
    OnlyKey document' sectionKey key := by
  intro entries' hentries' k hk
  obtain ⟨v, hv, halike⟩ := h.lookup hentries'
  obtain ⟨entries, rfl⟩ := halike.exists_table
  exact honly entries hv k (halike.mem_keys hk)

/-- **A document that says the same** is the same configuration. -/
theorem Describes.alike (hdescribes : Describes document c)
    (h : (Value.table document).Alike (.table document')) : Describes document' c := by
  obtain ⟨hkeys, htargetKeys, htoolchainKeys, hfamily, hfastcall⟩ := hdescribes
  have hfamilyAtom : setting? document "target" "family"
      = (c.family.map (fun f => .string f.name)).map .atom := by
    rw [hfamily, Option.map_map]
    rfl
  have hfastcallAtom : setting? document "toolchain" "fastcall-available"
      = (c.fastcall.map .boolean).map .atom := by
    rw [hfastcall, Option.map_map]
    rfl
  refine ⟨fun k hk => hkeys k (h.mem_keys hk), htargetKeys.alike h, htoolchainKeys.alike h,
    ?_, ?_⟩
  · rw [setting?_eq_of_atoms h hfamilyAtom, Option.map_map]
    rfl
  · rw [setting?_eq_of_atoms h hfastcallAtom, Option.map_map]
    rfl

/-- A document that says the same has sections that are tables, and a family that is
a string. -/
theorem Sectioned.alike (hshape : Sectioned document)
    (h : (Value.table document).Alike (.table document')) : Sectioned document' := by
  have htables : ∀ {sectionKey : String},
      (∀ v, document.lookup sectionKey = some v → ∃ entries, v = .table entries) →
      ∀ v, document'.lookup sectionKey = some v → ∃ entries, v = .table entries := by
    intro sectionKey htable v hv
    obtain ⟨a, ha, halike⟩ := h.lookup hv
    obtain ⟨entries, rfl⟩ := htable a ha
    exact halike.symm.exists_table
  refine ⟨htables hshape.target, htables hshape.toolchain, fun v hv => ?_⟩
  obtain ⟨a, ha, halike⟩ := setting?_alike h hv
  obtain ⟨name, rfl⟩ := hshape.family a ha
  exact ⟨name, halike.symm.eq_atom⟩

end Alike

/-! ## §4. Texts. -/

/-- A text is the configuration its document is read as. -/
theorem parse_eq_ok_iff {text : String} {document : Table}
    (h : Toml.parse? text = some document) {c : Config} :
    parse text = .ok c ↔ ofToml document = .ok c := by
  obtain ⟨d, hd, rfl⟩ := Option.map_eq_some_iff.mp h
  simp only [parse, toOption_eq_some_iff.mp hd]
  exact mapError_eq_ok_iff

/-- **A CONFIGURATION FILE IS READ STRICTLY, AND BY WHAT IT SAYS ALONE**, where its
sections are tables and its family is a string.  It is read exactly if it has no other
keys than `target` with `family` and `toolchain` with `fastcall-available`, the family
is one of the names and fastcall is a boolean; it is read as those values, and as none
where they are left out; and every text that says the same is read alike. -/
theorem parse_strict {text : String} {document : Table}
    (hdocument : Toml.parse? text = some document) (hshape : Sectioned document) :
    ((∃ c, parse text = .ok c) ↔ Strict document)
      ∧ (∀ c, parse text = .ok c → Says document c)
      ∧ ∀ text' document', Toml.parse? text' = some document' →
          (Value.table document).Alike (.table document') →
          ∀ c, parse text' = .ok c ↔ parse text = .ok c := by
  have hread : ∀ c, parse text = .ok c ↔ Describes document c := fun c =>
    (parse_eq_ok_iff hdocument).trans (ofToml_eq_ok_iff (keyed_of_parse? hdocument) hshape)
  refine ⟨?_, fun c hc => ((hread c).mp hc).holds, ?_⟩
  · rw [strict_iff]
    exact exists_congr hread
  · intro text' document' hdocument' halike c
    have hread' := (parse_eq_ok_iff hdocument').trans
      (ofToml_eq_ok_iff (keyed_of_parse? hdocument') (hshape.alike halike) (c := c))
    rw [hread', hread]
    exact ⟨fun h => h.alike halike.symm, fun h => h.alike halike⟩

/-- Both settings, the sections the other way round. -/
def turned : Outline where
  sections := [⟨toolchainKey, [fastcallSetting false]⟩, ⟨targetKey, [familySetting .ppc64]⟩]

/-- The lines of it, under a comment. -/
def turnedLines : List Line :=
  [.comment " big", .header toolchainKey, .setting (fastcallSetting false), .blank,
   .header targetKey, .setting (familySetting .ppc64)]

/-- The text that is written, and another one that says the same. -/
theorem parse_strict_turned :
    let c : Config := ⟨some .ppc64, some false⟩
    Sectioned c.outline.table ∧ Strict c.outline.table
      ∧ parse (Toml.unlines turnedLines) = .ok c := by
  intro c
  have hdocument : Toml.parse? c.toToml = some c.outline.table := by
    rw [toToml_eq_unlines]
    exact parse?_outline c.wellFormed_lines c.filter_lines c.outline_distinct
  have hshape : Sectioned c.outline.table := by
    refine ⟨fun v hv => ?_, fun v hv => ?_, fun v hv => ?_⟩ <;> cases hv <;> exact ⟨_, rfl⟩
  have hdocument' : Toml.parse? (Toml.unlines turnedLines) = some turned.table := by
    refine parse?_outline ?_ rfl ⟨by decide, by decide⟩
    have hcomment : " big".toList.all isCommentChar = true := by decide +kernel
    have htoolchain : IsBare toolchainKey := by decide
    have htarget : IsBare targetKey := by decide
    simp only [turnedLines, List.forall_mem_cons]
    exact ⟨List.all_eq_true.mp hcomment, htoolchain, wellFormed_fastcallSetting false, trivial,
      htarget, wellFormed_familySetting .ppc64, fun _ h => absurd h List.not_mem_nil⟩
  have halike : (Value.table c.outline.table).Alike (.table turned.table) :=
    .of_perm (List.Perm.swap _ _ []) (keyed_of_parse? hdocument)
  obtain ⟨hstrict, -, hspelling⟩ := parse_strict hdocument hshape
  have hc := parse_toToml c
  exact ⟨hshape, hstrict.mp ⟨c, hc⟩, (hspelling _ _ hdocument' halike c).mpr hc⟩

/-- The same data under dotted keys and between braces. -/
example :
    (parse "toolchain = { fastcall-available = false }\ntarget.'family' = 'ppc-64' # big\n").toOption
      = some ⟨some .ppc64, some false⟩ := by
  decide +kernel

end JitTarget.Config
