/-
  JitTarget.Proofs.ConfigData
  ────────────────────────────────
  **WHICH JSON VALUES ARE A CONFIGURATION.**

  A configuration is a record of two sections, each a record of one setting, in any of
  the shapes records have, and nothing else.  The laws go up with the readers:
  settings, sections, the configuration; at each level a value is read exactly if it
  has one of the shapes, and as what the shape holds:

      IsData                  — the values that are a configuration, and which one
      StrayKey                — a key that means nothing, at any level
      sectionOfJson_eq_ok_iff — a section
      ofJson_eq_ok_iff        — a configuration
      not_strayKey_of_isData  — a key that means nothing
      ofJson_exact            — what is accepted, and what is refused
-/
import JitTarget.Config.FromJson
import JitTarget.Proofs.JsonKeys
import JitTarget.Proofs.JsonShapes

namespace JitTarget.Config

open Json Schema

/-! ## §1. What a JSON value may be. -/

/-- **A section**: a record of one setting. -/
structure IsSection {α : Type} (key : String) (is : Json → α → Prop) (v : Json)
    (setting : Option α) : Prop where
  record : v.IsRecord [key]
  setting : IsPart (IsSetting is) (v.part? key 0) setting

/-- **A value is a configuration**: a record of two sections, of which one holds the
family and the other the fastcall setting. -/
structure IsData (v : Json) (c : Config) : Prop where
  record : v.IsRecord ["target", "toolchain"]
  target : IsPart (IsSection "family" IsChoice) (v.part? "target" 0) c.family
  toolchain : IsPart (IsSection "fastcall-available" IsFlag) (v.part? "toolchain" 1) c.fastcall

/-- **A key that means nothing**: in the record, in one of its sections, or in what
stands for a setting. -/
inductive StrayKey (v : Json) : Prop where
  | record {k : String} (h : v.HasKey k) (hk : k ∉ ["target", "toolchain"])
  | target {part : Json} {k : String} (hpart : v.part? "target" 0 = some part)
      (h : part.HasKey k) (hk : k ≠ "family")
  | toolchain {part : Json} {k : String} (hpart : v.part? "toolchain" 1 = some part)
      (h : part.HasKey k) (hk : k ≠ "fastcall-available")
  | family {part setting : Json} {k : String} (hpart : v.part? "target" 0 = some part)
      (hsetting : part.part? "family" 0 = some setting) (h : setting.HasKey k)
      (hk : k ∉ Family.names)
  | fastcall {part setting : Json} {k : String} (hpart : v.part? "toolchain" 1 = some part)
      (hsetting : part.part? "fastcall-available" 0 = some setting) (h : setting.HasKey k)

/-! ## §2. Settings and sections. -/

section Sections

variable {α : Type} [Codec α] {is : Json → α → Prop}

/-- **A section** is read exactly if it is a record of its setting. -/
theorem sectionOfJson_eq_ok_iff
    (hread : ∀ v a, (Codec.ofJson v : Except Flaw α) = .ok a ↔ is v a)
    (hnull : ∀ a, ¬ is .null a) (name key : String) {v : Json} (hkeyed : v.Keyed)
    (setting : Option α) :
    sectionOfJson name key v = .ok setting ↔ IsSection key is v setting := by
  have hsetting : ∀ {o : Option Json}, (∃ part, Reads Codec.ofJson o part ∧ part.join = setting)
      ↔ IsPart (IsSetting is) o setting :=
    reads_join_iff (fun v _ a => ofJson_option_eq_ok_iff hread hnull v a)
  cases v with
  | object fields =>
      obtain ⟨hnodup, -⟩ := keyed_object_iff.mp hkeyed
      constructor
      · intro h
        obtain ⟨part, hfields, hjoin⟩ := bind_eq_ok_iff.mp h
        obtain ⟨hkeys, hpart⟩ := (oneField_eq_ok_iff hnodup).mp hfields
        refine ⟨.object (fun k hk => List.mem_singleton.mpr (hkeys k hk)), ?_⟩
        exact hsetting.mp ⟨part, hpart, Except.ok.inj hjoin⟩
      · rintro ⟨hrecord, hpart⟩
        obtain ⟨part, hpart, hjoin⟩ := hsetting.mpr hpart
        cases hrecord with
        | object hkeys =>
            refine bind_eq_ok_iff.mpr ⟨part, ?_, congrArg Except.ok hjoin⟩
            exact (oneField_eq_ok_iff hnodup).mpr
              ⟨fun k hk => List.mem_singleton.mp (hkeys k hk), hpart⟩
  | array items =>
      constructor
      · intro h
        obtain ⟨part, helement, h⟩ := bind_eq_ok_iff.mp h
        obtain ⟨_, hlength, hjoin⟩ := bind_eq_ok_iff.mp h
        refine ⟨.array (atMost_eq_ok_iff.mp hlength), ?_⟩
        exact hsetting.mp ⟨part, element_eq_ok_iff.mp helement, Except.ok.inj hjoin⟩
      · rintro ⟨hrecord, hpart⟩
        obtain ⟨part, hpart, hjoin⟩ := hsetting.mpr hpart
        cases hrecord with
        | array hlength =>
            refine bind_eq_ok_iff.mpr ⟨part, element_eq_ok_iff.mpr hpart, ?_⟩
            exact bind_eq_ok_iff.mpr
              ⟨(), atMost_eq_ok_iff.mpr hlength, congrArg Except.ok hjoin⟩
  | _ => exact ⟨nofun, fun h => nomatch h.record⟩

end Sections

theorem targetOfJson_eq_ok_iff {v : Json} (hkeyed : v.Keyed) (family : Option Family) :
    targetOfJson v = .ok family ↔ IsSection "family" IsChoice v family :=
  sectionOfJson_eq_ok_iff (fun _ _ => toChoice_eq_ok_iff) not_isChoice_null targetName familyKey
    hkeyed family

theorem toolchainOfJson_eq_ok_iff {v : Json} (hkeyed : v.Keyed) (fastcall : Option Bool) :
    toolchainOfJson v = .ok fastcall ↔ IsSection "fastcall-available" IsFlag v fastcall :=
  sectionOfJson_eq_ok_iff (fun _ _ => toFlag_eq_ok_iff) not_isFlag_null toolchainName fastcallKey
    hkeyed fastcall

/-! ## §3. Configurations. -/

/-- What is in an object or in an array has each of its keys once. -/
theorem keyed_of_part? {v part : Json} {key : String} {position : Nat} (hkeyed : v.Keyed)
    (h : v.part? key position = some part) : part.Keyed := by
  cases hkeyed with
  | object _ hfields => exact hfields _ (mem_of_lookup_eq_some h)
  | array hitems => exact hitems _ (List.mem_of_getElem? h)
  | _ => cases h

/-- **A value is read as a configuration** exactly if it is one. -/
theorem ofJson_eq_ok_iff {v : Json} (hkeyed : v.Keyed) (c : Config) :
    ofJson v = .ok c ↔ IsData v c := by
  have htarget : (∃ part, Reads targetOfJson (v.part? "target" 0) part ∧ part.join = c.family)
      ↔ IsPart (IsSection "family" IsChoice) (v.part? "target" 0) c.family :=
    reads_join_iff (fun _ hpart => targetOfJson_eq_ok_iff (keyed_of_part? hkeyed hpart))
  have htoolchain : (∃ part, Reads toolchainOfJson (v.part? "toolchain" 1) part
        ∧ part.join = c.fastcall)
      ↔ IsPart (IsSection "fastcall-available" IsFlag) (v.part? "toolchain" 1) c.fastcall :=
    reads_join_iff (fun _ hpart => toolchainOfJson_eq_ok_iff (keyed_of_part? hkeyed hpart))
  have hne : targetKey ≠ toolchainKey := by decide
  have hpair : ∀ k, k ∈ ["target", "toolchain"] ↔ k = targetKey ∨ k = toolchainKey := by
    intro k
    rw [List.mem_cons, List.mem_singleton]
    rfl
  cases v with
  | object fields =>
      obtain ⟨hnodup, -⟩ := keyed_object_iff.mp hkeyed
      have htwo : ∀ {part part'}, twoFields targetKey toolchainKey targetOfJson toolchainOfJson
            fields = .ok (part, part')
          ↔ (∀ k ∈ fields.map Prod.fst, k = targetKey ∨ k = toolchainKey)
            ∧ Reads targetOfJson (fields.lookup targetKey) part
            ∧ Reads toolchainOfJson (fields.lookup toolchainKey) part' :=
        twoFields_eq_ok_iff hne hnodup
      constructor
      · intro h
        obtain ⟨⟨part, part'⟩, hfields, hc⟩ := bind_eq_ok_iff.mp h
        cases hc
        obtain ⟨hkeys, hpart, hpart'⟩ := htwo.mp hfields
        refine ⟨.object (fun k hk => ?_), htarget.mp ⟨part, hpart, rfl⟩,
          htoolchain.mp ⟨part', hpart', rfl⟩⟩
        exact (hpair k).mpr (hkeys k hk)
      · rintro ⟨hrecord, hpart, hpart'⟩
        obtain ⟨part, hpart, hjoin⟩ := htarget.mpr hpart
        obtain ⟨part', hpart', hjoin'⟩ := htoolchain.mpr hpart'
        cases hrecord with
        | object hkeys =>
            refine bind_eq_ok_iff.mpr ⟨(part, part'),
              htwo.mpr ⟨fun k hk => (hpair k).mp (hkeys k hk), hpart, hpart'⟩, ?_⟩
            show Except.ok (⟨part.join, part'.join⟩ : Config) = .ok c
            rw [hjoin, hjoin']
  | array items =>
      constructor
      · intro h
        obtain ⟨part, helement, h⟩ := bind_eq_ok_iff.mp h
        obtain ⟨part', helement', h⟩ := bind_eq_ok_iff.mp h
        obtain ⟨_, hlength, hc⟩ := bind_eq_ok_iff.mp h
        cases hc
        exact ⟨.array (atMost_eq_ok_iff.mp hlength),
          htarget.mp ⟨part, element_eq_ok_iff.mp helement, rfl⟩,
          htoolchain.mp ⟨part', element_eq_ok_iff.mp helement', rfl⟩⟩
      · rintro ⟨hrecord, hpart, hpart'⟩
        obtain ⟨part, hpart, hjoin⟩ := htarget.mpr hpart
        obtain ⟨part', hpart', hjoin'⟩ := htoolchain.mpr hpart'
        cases hrecord with
        | array hlength =>
            refine bind_eq_ok_iff.mpr ⟨part, element_eq_ok_iff.mpr hpart, ?_⟩
            refine bind_eq_ok_iff.mpr ⟨part', element_eq_ok_iff.mpr hpart', ?_⟩
            refine bind_eq_ok_iff.mpr ⟨(), atMost_eq_ok_iff.mpr hlength, ?_⟩
            show Except.ok (⟨part.join, part'.join⟩ : Config) = .ok c
            rw [hjoin, hjoin']
  | _ => exact ⟨nofun, fun h => nomatch h.record⟩

/-! ## §4. Keys that mean nothing. -/

section Stray

variable {v : Json} {c : Config}

theorem mem_of_hasKey {keys : List String} {k : String} (h : v.IsRecord keys)
    (hk : v.HasKey k) : k ∈ keys := by
  obtain ⟨fields, rfl, hmem⟩ := hk
  cases h with
  | object hkeys => exact hkeys k hmem

theorem not_isRecord_null (keys : List String) : ¬ IsRecord keys .null := nofun

/-- A setting with keys is not left open. -/
theorem exists_of_hasKey {α : Type} {is : Json → α → Prop} {setting : Json} {a : Option α}
    {k : String} (h : IsSetting is setting a) (hk : setting.HasKey k) : ∃ b, is setting b := by
  cases h with
  | null =>
      obtain ⟨fields, heq, -⟩ := hk
      cases heq
  | given h => exact ⟨_, h⟩

/-- A part that is there is what it has to be. -/
theorem of_isPart {α : Type} {is : Json → Option α → Prop} {o : Option Json} {a : Option α}
    (h : IsPart is o a) {part : Json} (ho : o = some part) : is part a := by
  cases h with
  | absent => cases ho
  | present h =>
      cases ho
      exact h

/-- **A configuration has no key that means nothing.** -/
theorem not_strayKey_of_isData (h : IsData v c) : ¬ StrayKey v := by
  intro hstray
  cases hstray with
  | record hkey hk => exact hk (mem_of_hasKey h.record hkey)
  | target hpart hkey hk =>
      exact hk (List.mem_singleton.mp (mem_of_hasKey (of_isPart h.target hpart).record hkey))
  | toolchain hpart hkey hk =>
      exact hk (List.mem_singleton.mp (mem_of_hasKey (of_isPart h.toolchain hpart).record hkey))
  | family hpart hsetting hkey hk =>
      obtain ⟨f, hchoice⟩ :=
        exists_of_hasKey (of_isPart (of_isPart h.target hpart).setting hsetting) hkey
      obtain ⟨fields, rfl, hmem⟩ := hkey
      cases hchoice with
      | key =>
          rw [List.mem_singleton.mp hmem] at hk
          exact hk (List.mem_map_of_mem (Named.mem_all f))
  | fastcall hpart hsetting hkey =>
      obtain ⟨b, hflag⟩ :=
        exists_of_hasKey (of_isPart (of_isPart h.toolchain hpart).setting hsetting) hkey
      obtain ⟨fields, rfl, hmem⟩ := hkey
      cases hflag

/-- **A section of a configuration is not null.** -/
theorem part?_ne_null_of_isData (h : IsData v c) :
    v.part? "target" 0 ≠ some .null ∧ v.part? "toolchain" 1 ≠ some .null :=
  ⟨fun hnull => not_isRecord_null _ (of_isPart h.target hnull).record,
    fun hnull => not_isRecord_null _ (of_isPart h.toolchain hnull).record⟩

/-- What is no configuration is refused. -/
theorem ofJson_eq_error (hkeyed : v.Keyed) (h : ∀ c, ¬ IsData v c) :
    ∃ flaw, ofJson v = .error flaw := by
  cases hread : ofJson v with
  | error flaw => exact ⟨flaw, rfl⟩
  | ok c => exact absurd ((ofJson_eq_ok_iff hkeyed c).mp hread) (h c)

end Stray

/-! ## §5. Reading a configuration. -/

/-- **THE JSON VALUES THAT ARE A CONFIGURATION**, out of all in which a key stands once
in its object.  A value is read exactly if it is a record of at most two sections, each a
record of at most its setting, as an object or by position; the family is null, a name or
a name over null, and fastcall is null or a flag.  It is read as those settings, and null
reads like what is left out.  A key that means nothing is refused at every level, whatever
stands beside it, and so is a section that is null. -/
theorem ofJson_exact {v : Json} (hkeyed : v.Keyed) :
    (∀ c, ofJson v = .ok c ↔ IsData v c)
      ∧ (StrayKey v → ∃ flaw, ofJson v = .error flaw)
      ∧ (v.part? "target" 0 = some .null ∨ v.part? "toolchain" 1 = some .null →
          ∃ flaw, ofJson v = .error flaw) := by
  refine ⟨ofJson_eq_ok_iff hkeyed, fun hstray => ?_, fun hnull => ?_⟩
  · exact ofJson_eq_error hkeyed (fun c hc => not_strayKey_of_isData hc hstray)
  · refine ofJson_eq_error hkeyed (fun c hc => ?_)
    obtain ⟨htarget, htoolchain⟩ := part?_ne_null_of_isData hc
    exact hnull.elim htarget htoolchain

/-- A section by position, with a family over null, before one with a setting that null
leaves open. -/
def mixed : Json :=
  .array [.object [("family", .object [("arm-v7", .null)])], .array [.null]]

/-- The same family, with one key more beside it. -/
def overfull : Json :=
  .object [("target", .object [("cpu", .int 8), ("family", .string "arm-v7")])]

/-- The one is read, and the other is refused. -/
theorem ofJson_exact_mixed :
    mixed.Keyed ∧ IsData mixed { family := some .armV7 }
      ∧ ofJson mixed = .ok { family := some .armV7 }
      ∧ overfull.Keyed ∧ StrayKey overfull ∧ ∃ flaw, ofJson overfull = .error flaw := by
  have hmixed : mixed.Keyed := by
    refine .array (List.forall_mem_cons.mpr ⟨.object (by decide) ?_, ?_⟩)
    · exact List.forall_mem_singleton.mpr
        (.object (by decide) (List.forall_mem_singleton.mpr .null))
    · exact List.forall_mem_singleton.mpr (.array (List.forall_mem_singleton.mpr .null))
  have hoverfull : overfull.Keyed := by
    refine .object (by decide) (List.forall_mem_singleton.mpr (.object (by decide) ?_))
    exact List.forall_mem_cons.mpr ⟨.int 8, List.forall_mem_singleton.mpr (.string _)⟩
  have hdata : IsData mixed { family := some .armV7 } := by
    refine ⟨.array (by decide), .present ⟨.object ?_, .present (.given (.key Family.armV7))⟩,
      .present ⟨.array (by decide), .present .null⟩⟩
    exact List.forall_mem_singleton.mpr (List.mem_singleton.mpr rfl)
  have hstray : StrayKey overfull :=
    .target (k := "cpu") rfl ⟨_, rfl, List.mem_cons_self⟩ (by decide)
  exact ⟨hmixed, hdata, ((ofJson_exact hmixed).1 _).mpr hdata, hoverfull, hstray,
    (ofJson_exact hoverfull).2.1 hstray⟩

end JitTarget.Config
