/-
  JitTarget.Proofs.ProfileText
  ────────────────────────────────
  **A PROFILE THAT IS WRITTEN LOSES NOTHING.**

  Both formats write the same list of keys and scalars.  The words in it are bare, so
  no format has to escape one, and each scalar spells itself in both.  So what is read
  of either text is that list again, and a profile is told by its list:

      ofFields?_fields   — a profile is read out of its fields
      listing?_toJson    — what the JSON text lists
      parse?_toToml      — what the TOML text lists
      output_loses_nothing
-/
import JitTarget.Proofs.JsonListing
import JitTarget.Proofs.TomlSections
import JitTarget.Profile.Reading

namespace JitTarget

open Toml (IsBare)

/-! ## §1. Bare words. -/

/-- The characters of bare words are printed ones. -/
theorem toNat_of_isBareChar {c : Char} (h : Toml.isBareChar c = true) :
    45 ≤ c.toNat ∧ c.toNat ≤ 122 := by
  simp only [Toml.isBareChar, Bool.or_eq_true, Bool.and_eq_true, decide_eq_true_eq,
    beq_iff_eq, Char.le_def, UInt32.le_iff_toNat_le] at h
  rcases h with (((hrange | hrange) | hrange) | rfl) | rfl
  -- the three ranges are between the hyphen and the last small letter
  iterate 3
    exact ⟨Nat.le_trans (by decide) hrange.1, Nat.le_trans hrange.2 (by decide)⟩
  · decide
  · decide

theorem Toml.isUnescaped_of_isBare {word : String} (h : IsBare word) : Toml.IsUnescaped word := by
  intro c hc
  have hbare := h.2 c hc
  obtain ⟨hlow, hhigh⟩ := toNat_of_isBareChar hbare
  have hstring : isStringChar c = true := by
    simp only [isStringChar, isCommentChar, Bool.or_eq_true, Bool.and_eq_true, decide_eq_true_eq,
      bne_iff_ne]
    omega
  exact ⟨hstring, isBareChar_ne hbare (by decide), isBareChar_ne hbare (by decide)⟩

theorem Json.isUnescaped_of_isBare {word : String} (h : IsBare word) : Json.IsUnescaped word := by
  intro c hc
  have hbare := h.2 c hc
  have hlow := (toNat_of_isBareChar hbare).1
  exact ⟨by omega, Toml.isBareChar_ne hbare (by decide), Toml.isBareChar_ne hbare (by decide)⟩

/-- The names of a finite type are bare if they are in its list. -/
theorem isBare_name {α : Type} [Named α]
    (h : ∀ a ∈ (Named.all : List α), IsBare (Named.name a)) (a : α) : IsBare (Named.name a) :=
  h a (Named.mem_all a)

/-! ## §2. Scalars. -/

namespace Scalar

/-- A scalar whose text, if it is one, is a bare word. -/
def IsPlain : Scalar → Prop
  | text s => IsBare s
  | number _ | flag _ => True

variable {s : Scalar}

/-- **A scalar spells itself** in JSON. -/
theorem spells_toJson (h : s.IsPlain) : Json.Spells s.render s.toJson := by
  cases s with
  | text s => exact Json.spells_quoted (Json.isUnescaped_of_isBare h)
  | number n => exact Json.spells_decimal (Nat.lt_trans n.toNat_lt (by decide))
  | flag b =>
      cases b
      · exact Json.spells_false
      · exact Json.spells_true

/-- **A scalar spells itself** in TOML. -/
theorem spells_toToml (h : s.IsPlain) : Toml.Spells s.render s.toToml := by
  cases s with
  | text s => exact Toml.spells_quoted (Toml.isUnescaped_of_isBare h)
  | number n => exact Toml.spells_decimal (Nat.lt_trans n.toNat_lt (by decide))
  | flag b =>
      cases b
      · exact Toml.spells_false
      · exact Toml.spells_true

theorem ofInt?_toNat (n : UInt32) : ofInt? n.toNat = some (.number n) := by
  have hn := n.toNat_lt
  rw [ofInt?, if_pos ⟨by omega, by omega⟩, Int.toNat_natCast, UInt32.ofNat_toNat]

theorem ofJson?_toJson (s : Scalar) : ofJson? s.toJson = some s := by
  cases s with
  | text s => rfl
  | number n => exact ofInt?_toNat n
  | flag b => rfl

theorem ofToml?_toToml (s : Scalar) : ofToml? (.atom s.toToml) = some s := by
  cases s with
  | text s => rfl
  | number n => exact ofInt?_toNat n
  | flag b => rfl

/-- What was found among scalars is found when they are written and read back. -/
theorem bind_map_eq {α : Type} {write : Scalar → α} {read : α → Option Scalar}
    (h : ∀ s, read (write s) = some s) (found : Option Scalar) :
    found.map write >>= read = found := by
  cases found with
  | none => rfl
  | some s => exact h s

end Scalar

/-! ## §3. Fields. -/

/-- **Facts are read out of their fields.** -/
theorem Facts.ofFields?_fields (f : Facts) {get : String → Option Scalar}
    (h : ∀ field ∈ f.fields, get field.1 = some field.2) : Facts.ofFields? get = some f := by
  simp only [Facts.fields, List.forall_mem_cons] at h
  obtain ⟨hbytes, hword, hfloat, horder, hconvention, hindirect, hunaligned, hcaches, hvector, -⟩ :=
    h
  have horderName : Named.ofName? f.byteOrder.name = some f.byteOrder := Named.ofName?_name _
  have hconventionName : Named.ofName? f.callingConvention.name = some f.callingConvention :=
    Named.ofName?_name _
  have hcachesName : Named.ofName? f.cacheModel.name = some f.cacheModel := Named.ofName?_name _
  have hvectorName : Named.ofName? f.vectorFp.name = some f.vectorFp := Named.ofName?_name _
  simp only [Facts.ofFields?, hbytes, hword, hfloat, horder, hconvention, hindirect, hunaligned,
    hcaches, hvector, Option.bind_eq_bind, Option.bind_some, Scalar.number?, Scalar.flag?,
    Scalar.named?, horderName, hconventionName, hcachesName, hvectorName]
  rfl

namespace Profile

/-- Every key of a profile and every word in it is bare. -/
theorem fields_plain (p : Profile) : ∀ field ∈ p.fields, IsBare field.1 ∧ field.2.IsPlain := by
  obtain ⟨family, facts⟩ := p
  have hfamily : IsBare family.name := isBare_name (α := Family) (by decide) family
  have hkey : IsBare "family" := by decide
  refine List.forall_mem_cons.mpr ⟨⟨hkey, hfamily⟩, ?_⟩
  cases facts with
  | none => exact fun field hfield => absurd hfield List.not_mem_nil
  | some f =>
      have horder : IsBare f.byteOrder.name := isBare_name (α := ByteOrder) (by decide) _
      have hconvention : IsBare f.callingConvention.name :=
        isBare_name (α := CallingConvention) (by decide) _
      have hcaches : IsBare f.cacheModel.name := isBare_name (α := CacheModel) (by decide) _
      have hvector : IsBare f.vectorFp.name := isBare_name (α := VectorFp) (by decide) _
      simp only [Facts.fields, List.forall_mem_cons]
      exact ⟨⟨by decide, trivial⟩, ⟨by decide, trivial⟩, ⟨by decide, trivial⟩,
        ⟨by decide, horder⟩, ⟨by decide, hconvention⟩, ⟨by decide, trivial⟩, ⟨by decide, trivial⟩,
        ⟨by decide, hcaches⟩, ⟨by decide, hvector⟩,
        fun field hfield => absurd hfield List.not_mem_nil⟩

theorem keys_nodup (p : Profile) : (p.fields.map Prod.fst).Nodup := by
  obtain ⟨family, facts⟩ := p
  cases facts with
  | none => simp [fields]
  | some f => simp [fields, Facts.fields]

/-- **A profile is read out of its fields.** -/
theorem ofFields?_fields (p : Profile) :
    ofFields? (fun key => p.fields.lookup key) = some p := by
  have hfound : ∀ field ∈ p.fields, p.fields.lookup field.1 = some field.2 :=
    fun field hfield => (lookup_eq_some_iff p.keys_nodup).mpr hfield
  have hname : Named.ofName? p.family.name = some p.family := Named.ofName?_name p.family
  have hfacts : Facts.ofFields? (fun key => p.fields.lookup key) = p.facts? := by
    obtain ⟨family, facts⟩ := p
    cases facts with
    | none => rfl
    | some f =>
        exact f.ofFields?_fields (fun field hfield => hfound field (List.mem_cons_of_mem _ hfield))
  simp only [ofFields?, hfound _ List.mem_cons_self, hfacts, Option.bind_eq_bind, Option.bind_some,
    Scalar.named?, hname]
  rfl

/-! ## §4. JSON. -/

/-- What the fields of a profile say in JSON. -/
def jsonFields (p : Profile) : List Json.Field :=
  p.fields.map (fun (key, value) => ⟨key, value.render, value.toJson⟩)

theorem toJson_eq_unlines (p : Profile) : p.toJson = Json.unlines p.jsonFields := by
  rw [Json.unlines, jsonFields, List.map_map]
  rfl

theorem wellFormed_jsonFields (p : Profile) : ∀ f ∈ p.jsonFields, f.WellFormed := by
  intro f hf
  obtain ⟨field, hfield, rfl⟩ := List.mem_map.mp hf
  obtain ⟨hkey, hvalue⟩ := p.fields_plain field hfield
  exact ⟨Json.isUnescaped_of_isBare hkey, Scalar.spells_toJson hvalue⟩

/-- **What the JSON text lists** are the fields. -/
theorem listing?_toJson (p : Profile) :
    Json.listing? p.toJson = some (p.fields.map (fun (key, value) => (key, value.toJson))) := by
  have hne : p.jsonFields ≠ [] := List.cons_ne_nil _ _
  rw [toJson_eq_unlines, Json.listing?_unlines hne p.wellFormed_jsonFields, jsonFields,
    List.map_map]
  rfl

/-- **The JSON text is read back.** -/
theorem ofJson?_toJson (p : Profile) : (Json.parse? p.toJson).bind ofJson? = some p := by
  have hkeys : ((p.fields.map (fun (key, value) => (key, value.toJson))).map Prod.fst).Nodup := by
    rw [List.map_map]
    exact p.keys_nodup
  have hget : ∀ key, (Json.object (Json.inPlaces
      (p.fields.map (fun (key, value) => (key, value.toJson))))).field? key >>= Scalar.ofJson?
      = p.fields.lookup key := by
    intro key
    rw [Json.field?, Json.lookup_inPlaces hkeys, lookup_map]
    exact Scalar.bind_map_eq Scalar.ofJson?_toJson _
  rw [Json.parse?_of_listing? p.listing?_toJson, Option.bind_some, ofJson?]
  simp only [hget]
  exact p.ofFields?_fields

/-! ## §5. TOML. -/

/-- What the fields of a profile say in TOML. -/
def settings (p : Profile) : List Toml.Setting :=
  p.fields.map (fun (key, value) => ⟨key, value.render, value.toToml⟩)

theorem toToml_eq_unlines (p : Profile) :
    p.toToml = Toml.unlines (p.settings.map .setting) := by
  have hline : ∀ field : String × Scalar,
      (field.1 ++ " = " ++ field.2.render ++ "\n").toList
        = (Toml.Line.setting ⟨field.1, field.2.render, field.2.toToml⟩).text := by
    intro field
    simp [Toml.Line.text]
  apply String.toList_inj.mp
  rw [toToml, String.toList_join, Toml.unlines, String.toList_ofList, settings, List.map_map,
    List.flatMap_map, List.flatMap_map]
  exact List.flatMap_congr (fun field _ => hline field)

theorem wellFormed_settings (p : Profile) :
    ∀ line ∈ p.settings.map Toml.Line.setting, line.WellFormed := by
  intro line hline
  obtain ⟨set, hset, rfl⟩ := List.mem_map.mp hline
  obtain ⟨field, hfield, rfl⟩ := List.mem_map.mp hset
  obtain ⟨hkey, hvalue⟩ := p.fields_plain field hfield
  exact ⟨hkey, Scalar.spells_toToml hvalue⟩

theorem settingTable_settings (p : Profile) : Toml.settingTable p.settings
    = p.fields.map (fun (key, value) => (key, .atom value.toToml)) := by
  rw [Toml.settingTable, settings, List.map_map]
  rfl

/-- **What the TOML text lists** are the fields. -/
theorem parse?_toToml (p : Profile) :
    Toml.parse? p.toToml = some (p.fields.map (fun (key, value) => (key, .atom value.toToml))) := by
  have hlines : (p.settings.map Toml.Line.setting).filter Toml.Line.isStatement
      = Toml.Outline.lines { settings := p.settings } := by
    have hall : ∀ line ∈ p.settings.map Toml.Line.setting, line.isStatement = true := by
      intro line hline
      obtain ⟨set, -, rfl⟩ := List.mem_map.mp hline
      rfl
    rw [List.filter_eq_self.mpr hall]
    exact (List.append_nil _).symm
  have htable : Toml.Outline.table { settings := p.settings } = Toml.settingTable p.settings :=
    List.append_nil _
  have hdistinct : Toml.Outline.Distinct { settings := p.settings } := by
    refine ⟨?_, fun s hs => absurd hs List.not_mem_nil⟩
    rw [htable, settingTable_settings, List.map_map]
    exact p.keys_nodup
  rw [toToml_eq_unlines, Toml.parse?_outline p.wellFormed_settings hlines hdistinct, htable,
    settingTable_settings]

/-- **The TOML text is read back.** -/
theorem ofToml?_toToml (p : Profile) : (Toml.parse? p.toToml).bind ofToml? = some p := by
  have hget : ∀ key, (p.fields.map (fun (key, value) => (key, Toml.Value.atom value.toToml))).lookup
      key >>= Scalar.ofToml? = p.fields.lookup key := by
    intro key
    rw [lookup_map (fun value : Scalar => Toml.Value.atom value.toToml)]
    exact Scalar.bind_map_eq Scalar.ofToml?_toToml _
  rw [p.parse?_toToml, Option.bind_some, ofToml?]
  simp only [hget]
  exact p.ofFields?_fields

/-! ## §6. Both formats. -/

/-- What a profile can be read back of tells the profile. -/
theorem eq_iff_of_read {write : Profile → String} (read : String → Option Profile)
    (h : ∀ p, read (write p) = some p) {p q : Profile} : write p = write q ↔ p = q := by
  refine ⟨fun heq => ?_, fun heq => heq ▸ rfl⟩
  have hread := h p
  rw [heq, h q] at hread
  exact (Option.some.inj hread).symm

/-- **The JSON text tells the profile.** -/
theorem toJson_inj {p q : Profile} : p.toJson = q.toJson ↔ p = q :=
  eq_iff_of_read (fun s => (Json.parse? s).bind ofJson?) ofJson?_toJson

/-- **The TOML text tells the profile.** -/
theorem toToml_inj {p q : Profile} : p.toToml = q.toToml ↔ p = q :=
  eq_iff_of_read (fun s => (Toml.parse? s).bind ofToml?) ofToml?_toToml

theorem toJson_alone (f : Family) :
    (Profile.mk f none).toJson = "\x7b\n  \"family\": \"" ++ f.name ++ "\"\n\x7d" := by
  apply String.toList_inj.mp
  simp [toJson, fields, Scalar.render]

theorem toToml_alone (f : Family) :
    (Profile.mk f none).toToml = "family = \"" ++ f.name ++ "\"\n" := by
  apply String.toList_inj.mp
  simp [toToml, fields, Scalar.render]

/-- A profile has no facts exactly if it is its family alone. -/
theorem facts?_eq_none_iff (p : Profile) : p.facts? = none ↔ p = ⟨p.family, none⟩ := by
  obtain ⟨family, facts⟩ := p
  simp

/-- **THE OUTPUT OF A PROFILE LOSES NOTHING, IN EITHER FORMAT.** Both texts list the
fields under the same keys in the same order, and either is read back as the profile;
so two profiles have the same text in one format exactly if they have in the other, and
then they are equal.  Where the family stands alone there are no facts. -/
theorem output_loses_nothing (p : Profile) :
    (Json.listing? p.toJson = some (p.fields.map (fun (key, value) => (key, value.toJson)))
        ∧ Toml.parse? p.toToml
          = some (p.fields.map (fun (key, value) => (key, .atom value.toToml))))
      ∧ ((Json.parse? p.toJson).bind ofJson? = some p
        ∧ (Toml.parse? p.toToml).bind ofToml? = some p)
      ∧ (∀ q : Profile, (p.toJson = q.toJson ↔ p.toToml = q.toToml)
        ∧ (p.toToml = q.toToml ↔ p = q))
      ∧ ((p.facts? = none ↔ p.toJson = "\x7b\n  \"family\": \"" ++ p.family.name ++ "\"\n\x7d")
        ∧ (p.facts? = none ↔ p.toToml = "family = \"" ++ p.family.name ++ "\"\n")) := by
  refine ⟨⟨p.listing?_toJson, p.parse?_toToml⟩, ⟨p.ofJson?_toJson, p.ofToml?_toToml⟩,
    fun q => ⟨?_, toToml_inj⟩, ?_, ?_⟩
  · rw [toJson_inj, toToml_inj]
  · rw [← toJson_alone, toJson_inj, facts?_eq_none_iff]
  · rw [← toToml_alone, toToml_inj, facts?_eq_none_iff]

end Profile

end JitTarget
