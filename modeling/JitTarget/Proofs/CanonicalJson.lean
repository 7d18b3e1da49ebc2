/-
  JitTarget.Proofs.CanonicalJson
  ────────────────────────────────
  **READING JSON IS CANONICAL FOR EVERY TYPE THAT HAS A JSON FORM.**

  That a reader does not tell spellings apart is shown for one step and from the inside
  out: choices and flags, settings, sections, the configuration.  Together with the
  round trip of each type this makes what is written the one spelling that all others
  are read as:

      oneField_replace, twoFields_replace, element_replace
                             — a record with one value replaced
      sectionOfJson_respects, ofJson_respects
                             — sections and configurations, respelt at any depth
      Canonical.of_respects  — a step and a round trip are enough
      reading_canonical      — every type
-/
import JitTarget.Config.FromJson
import JitTarget.Json.Respelling
import JitTarget.Proofs.JsonShapes

namespace JitTarget

open Json Schema

/-! ## §1. Records. -/

section Records

variable {V α β : Type} {read read₁ : V → Except Flaw α} {read₂ : V → Except Flaw β}

/-- **One value replaced** by another that is read alike, in a record with a single
key. -/
theorem Schema.oneField_replace {key k : String} {v v' : V} {front back : List (String × V)}
    (h : k = key → ∀ a, read v = .ok a → read v' = .ok a) {a : Option α}
    (hread : oneField key read (front ++ (k, v) :: back) = .ok a) :
    oneField key read (front ++ (k, v') :: back) = .ok a := by
  induction front generalizing a with
  | nil =>
      rw [List.nil_append, oneField] at hread ⊢
      split at hread
      next hk =>
        simp only [if_pos hk, bind_eq_ok_iff, within_eq_ok_iff] at hread ⊢
        obtain ⟨a', hv, hrest⟩ := hread
        exact ⟨a', h hk a' hv, hrest⟩
      next => cases hread
  | cons entry rest ih =>
      rw [List.cons_append, oneField] at hread ⊢
      split at hread
      next hk =>
        simp only [if_pos hk, bind_eq_ok_iff] at hread ⊢
        obtain ⟨a', hfirst, b, hrest, heq⟩ := hread
        exact ⟨a', hfirst, b, ih hrest, heq⟩
      next => cases hread

/-- **One value replaced** in a record with two keys. -/
theorem Schema.twoFields_replace {key₁ key₂ k : String} {v v' : V}
    {front back : List (String × V)} (h₁ : k = key₁ → ∀ a, read₁ v = .ok a → read₁ v' = .ok a)
    (h₂ : k = key₂ → ∀ b, read₂ v = .ok b → read₂ v' = .ok b) {ab : Option α × Option β}
    (hread : twoFields key₁ key₂ read₁ read₂ (front ++ (k, v) :: back) = .ok ab) :
    twoFields key₁ key₂ read₁ read₂ (front ++ (k, v') :: back) = .ok ab := by
  induction front generalizing ab with
  | nil =>
      rw [List.nil_append, twoFields] at hread ⊢
      split at hread
      next hk =>
        simp only [if_pos hk, bind_eq_ok_iff, within_eq_ok_iff] at hread ⊢
        obtain ⟨a, hv, hrest⟩ := hread
        exact ⟨a, h₁ hk a hv, hrest⟩
      next hk₁ =>
        split at hread
        next hk =>
          simp only [if_neg hk₁, if_pos hk, bind_eq_ok_iff, within_eq_ok_iff] at hread ⊢
          obtain ⟨b, hv, hrest⟩ := hread
          exact ⟨b, h₂ hk b hv, hrest⟩
        next => cases hread
  | cons entry rest ih =>
      rw [List.cons_append, twoFields] at hread ⊢
      split at hread
      next hk =>
        simp only [if_pos hk, bind_eq_ok_iff] at hread ⊢
        obtain ⟨a, hfirst, others, hrest, heq⟩ := hread
        exact ⟨a, hfirst, others, ih hrest, heq⟩
      next hk₁ =>
        split at hread
        next hk =>
          simp only [if_neg hk₁, if_pos hk, bind_eq_ok_iff] at hread ⊢
          obtain ⟨b, hfirst, others, hrest, heq⟩ := hread
          exact ⟨b, hfirst, others, ih hrest, heq⟩
        next => cases hread

/-- **One item replaced** in a list that stands for a record. -/
theorem Schema.element_replace {items : List V} {i position : Nat} {v v' : V}
    (hitem : items[i]? = some v) (h : i = position → ∀ a, read v = .ok a → read v' = .ok a)
    {a : Option α} (hread : element read position items = .ok a) :
    element read position (items.set i v') = .ok a := by
  rw [element_eq_ok_iff] at hread ⊢
  by_cases hi : i = position
  · subst hi
    rw [hitem] at hread
    rw [List.getElem?_set_self (List.getElem?_eq_some_iff.mp hitem).1]
    cases hread with
    | present hv => exact .present (h rfl _ hv)
  · rw [List.getElem?_set_ne hi]
    exact hread

end Records

/-! ## §2. Respellings. -/

namespace Json

variable {α : Type}

/-- **A reader respects respellings**: where it reads a value, it reads the other
spelling alike. -/
def Respects (respells : Respelling) (read : Json → Except Flaw α) : Prop :=
  ∀ v v', respells v v' → ∀ a, read v = .ok a → read v' = .ok a

theorem toChoice_respects [Named α] : Respects RespellsChoice (toChoice (α := α)) := by
  intro v v' h a hread
  rw [toChoice_eq_ok_iff] at hread ⊢
  cases h with
  | key name =>
      cases hread with
      | name => exact .key a

theorem toFlag_respects : Respects RespellsFlag toFlag :=
  fun _ _ h => absurd h id

/-- **A setting is respelt** in its content; null has no other spelling. -/
theorem ofJson_option_respects [Codec α] {respells : Respelling}
    (h : Respects respells (Codec.ofJson (α := α)))
    (hread : ∀ a, (Codec.ofJson .null : Except Flaw α) ≠ .ok a)
    (hnull : ∀ v', ¬ respells .null v') :
    Respects respells (Codec.ofJson (α := Option α)) := by
  intro v v' hv a ha
  rw [ofJson_option_eq_ok_iff (fun _ _ => Iff.rfl) hread] at ha ⊢
  cases ha with
  | null => exact absurd hv (hnull v')
  | given hcontent => exact .given (h v v' hv _ hcontent)

end Json

namespace Config

variable {α : Type} [Codec α]

/-- **A section** is read by position as by key, and with its setting respelt. -/
theorem sectionOfJson_respects {respells : Respelling}
    (h : Respects respells (Codec.ofJson (α := Option α))) (name key : String) :
    Respects (RespellsRecord [(key, respells)]) (sectionOfJson (α := α) name key) := by
  intro v v' hrespells a hread
  cases hrespells with
  | positions hparts =>
      cases hparts with
      | cons hsetting hnil =>
          cases hnil
          obtain ⟨part, hfields, hjoin⟩ := bind_eq_ok_iff.mp hread
          obtain ⟨-, hpart⟩ := keys_and_reads_of_oneField hfields
          rw [hsetting] at hpart
          refine bind_eq_ok_iff.mpr ⟨part, element_eq_ok_iff.mpr hpart, ?_⟩
          exact bind_eq_ok_iff.mpr ⟨(), atMost_eq_ok_iff.mpr (Nat.le_refl 1), hjoin⟩
  | field hpart hvalue =>
      cases List.mem_singleton.mp hpart
      obtain ⟨part, hfields, hjoin⟩ := bind_eq_ok_iff.mp hread
      exact bind_eq_ok_iff.mpr ⟨part, oneField_replace (fun _ => h _ _ hvalue) hfields, hjoin⟩
  | @item _ _ _ _ _ position hpart hitem hvalue =>
      obtain ⟨part, helement, hread⟩ := bind_eq_ok_iff.mp hread
      obtain ⟨_, hlength, hjoin⟩ := bind_eq_ok_iff.mp hread
      have helement' := element_replace hitem (fun hi => by
        subst hi
        cases hpart
        exact h _ _ hvalue) helement
      refine bind_eq_ok_iff.mpr ⟨part, helement', bind_eq_ok_iff.mpr ⟨(), ?_, hjoin⟩⟩
      rw [atMost_eq_ok_iff, List.length_set]
      exact atMost_eq_ok_iff.mp hlength

/-! ## §3. Configurations. -/

/-- The respellings of a configuration: those of its two sections, and its own. -/
def Respells : Respelling :=
  RespellsRecord [("target", RespellsRecord [("family", RespellsChoice)]),
    ("toolchain", RespellsRecord [("fastcall-available", RespellsFlag)])]

theorem targetOfJson_respects :
    Respects (RespellsRecord [("family", RespellsChoice)]) targetOfJson :=
  sectionOfJson_respects (ofJson_option_respects toChoice_respects nofun nofun) targetName familyKey

theorem toolchainOfJson_respects :
    Respects (RespellsRecord [("fastcall-available", RespellsFlag)]) toolchainOfJson :=
  sectionOfJson_respects (ofJson_option_respects toFlag_respects nofun (fun _ h => h))
    toolchainName fastcallKey

/-- **A configuration** is read by position as by key, and with a section respelt. -/
theorem ofJson_respects : Respects Respells ofJson := by
  intro v v' hrespells c hread
  cases hrespells with
  | @positions fields items hparts =>
      obtain ⟨target, toolchain, rfl, htarget, htoolchain⟩ : ∃ target toolchain,
          items = [target, toolchain] ∧ fields.lookup targetKey = some target
            ∧ fields.lookup toolchainKey = some toolchain := by
        cases hparts with
        | cons htarget hrest =>
            cases hrest with
            | cons htoolchain hnil =>
                cases hnil
                exact ⟨_, _, rfl, htarget, htoolchain⟩
      obtain ⟨⟨family, fastcall⟩, hfields, heq⟩ := bind_eq_ok_iff.mp hread
      obtain ⟨-, hfamily, hfastcall⟩ := keys_and_reads_of_twoFields (by decide) hfields
      rw [htarget] at hfamily
      rw [htoolchain] at hfastcall
      refine bind_eq_ok_iff.mpr ⟨family, element_eq_ok_iff.mpr hfamily, ?_⟩
      refine bind_eq_ok_iff.mpr ⟨fastcall, element_eq_ok_iff.mpr hfastcall, ?_⟩
      exact bind_eq_ok_iff.mpr ⟨(), atMost_eq_ok_iff.mpr (Nat.le_refl 2), heq⟩
  | @field key respells w w' front back hpart hvalue =>
      obtain ⟨settings, hfields, heq⟩ := bind_eq_ok_iff.mp hread
      refine bind_eq_ok_iff.mpr ⟨settings, twoFields_replace ?_ ?_ hfields, heq⟩
      · rintro rfl
        rcases List.mem_cons.mp hpart with h | h
        · cases h
          exact targetOfJson_respects w w' hvalue
        · exact absurd (Prod.mk.inj (List.mem_singleton.mp h)).1 (by decide)
      · rintro rfl
        rcases List.mem_cons.mp hpart with h | h
        · exact absurd (Prod.mk.inj h).1 (by decide)
        · cases List.mem_singleton.mp h
          exact toolchainOfJson_respects w w' hvalue
  | @item _ _ w w' items position hpart hitem hvalue =>
      obtain ⟨family, hfamily, hread⟩ := bind_eq_ok_iff.mp hread
      obtain ⟨fastcall, hfastcall, hread⟩ := bind_eq_ok_iff.mp hread
      obtain ⟨_, hlength, heq⟩ := bind_eq_ok_iff.mp hread
      have hfamily' := element_replace hitem (fun hi => by
        subst hi
        cases hpart
        exact targetOfJson_respects w w' hvalue) hfamily
      have hfastcall' := element_replace hitem (fun hi => by
        subst hi
        cases hpart
        exact toolchainOfJson_respects w w' hvalue) hfastcall
      refine bind_eq_ok_iff.mpr ⟨family, hfamily', bind_eq_ok_iff.mpr ⟨fastcall, hfastcall', ?_⟩⟩
      refine bind_eq_ok_iff.mpr ⟨(), ?_, heq⟩
      rw [atMost_eq_ok_iff, List.length_set]
      exact atMost_eq_ok_iff.mp hlength

/-! ## §4. Round trips. -/

/-- A section that is written is read back, if its setting is and is not null. -/
theorem sectionOfJson_sectionToJson {is : Json → α → Prop}
    (hread : ∀ v a, (Codec.ofJson v : Except Flaw α) = .ok a ↔ is v a)
    (hnull : ∀ a, ¬ is .null a) (hwritten : ∀ a, is (Codec.toJson a) a) (name key : String)
    (setting : Option α) :
    sectionOfJson name key (sectionToJson key setting) = .ok setting := by
  cases setting with
  | none => rfl
  | some a =>
      have hsetting : (Codec.ofJson (Codec.toJson a) : Except Flaw (Option α)) = .ok (some a) :=
        (ofJson_option_eq_ok_iff hread hnull _ _).mpr (.given (hwritten a))
      refine bind_eq_ok_iff.mpr ⟨some (some a), ?_, rfl⟩
      simp only [oneField, if_true, bind_eq_ok_iff, within_eq_ok_iff]
      exact ⟨some a, hsetting, none, rfl, rfl⟩

/-- **A configuration that is written is read back.** -/
theorem ofJson_toJson (c : Config) : ofJson c.toJson = .ok c := by
  have hfamily : targetOfJson (sectionToJson familyKey c.family) = .ok c.family :=
    sectionOfJson_sectionToJson (fun _ _ => toChoice_eq_ok_iff) not_isChoice_null .name
      targetName familyKey c.family
  have hfastcall : toolchainOfJson (sectionToJson fastcallKey c.fastcall) = .ok c.fastcall :=
    sectionOfJson_sectionToJson (fun _ _ => toFlag_eq_ok_iff) not_isFlag_null .flag
      toolchainName fastcallKey c.fastcall
  have hne : toolchainKey ≠ targetKey := by decide
  refine bind_eq_ok_iff.mpr ⟨(some c.family, some c.fastcall), ?_, rfl⟩
  simp only [twoFields, if_true, if_neg hne, bind_eq_ok_iff, within_eq_ok_iff]
  exact ⟨c.family, hfamily, (none, some c.fastcall),
    ⟨c.fastcall, hfastcall, (none, none), rfl, rfl⟩, rfl⟩

end Config

/-! ## §5. Toolchains. -/

namespace Toolchain

/-- The respellings of a toolchain. -/
def Respells : Respelling := RespellsRecord [("fastcall-available", RespellsFlag)]

/-- **A toolchain** is read by position as by key; keys that mean nothing are lost on
the way. -/
theorem ofJson_respects : Respects Respells ofJson := by
  intro v v' hrespells t hread
  cases hrespells with
  | @positions fields items hparts =>
      cases hparts with
      | @cons _ flag _ _ hflag hnil =>
          cases hnil
          have hkey : fields.lookup fastcallKey = some flag := hflag
          simp only [ofJson, hkey, map_eq_ok_iff, within_eq_ok_iff] at hread
          obtain ⟨b, hb, rfl⟩ := hread
          refine bind_eq_ok_iff.mpr ⟨some b, element_eq_ok_iff.mpr (.present hb), ?_⟩
          exact bind_eq_ok_iff.mpr ⟨(), atMost_eq_ok_iff.mpr (Nat.le_refl 1), rfl⟩
  | field hpart hvalue =>
      cases List.mem_singleton.mp hpart
      exact absurd hvalue id
  | @item _ _ _ _ _ position hpart hitem hvalue =>
      cases position with
      | zero =>
          cases hpart
          exact absurd hvalue id
      | succ n => cases hpart

/-- A toolchain that is written is read back. -/
theorem ofJson_toJson (t : Toolchain) : ofJson t.toJson = .ok t := rfl

end Toolchain

/-! ## §6. Every type. -/

namespace Json

/-- **A step and a round trip are enough** for reading to be canonical: steps are taken
one after the other, and what is written was read. -/
theorem Canonical.of_respects {α : Type} [Codec α] {respells : Respelling}
    (hback : ∀ a : α, Codec.ofJson (Codec.toJson a) = .ok a)
    (hstep : Respects respells (Codec.ofJson (α := α))) : Canonical α respells where
  readsBack := fun _ a _ => hback a
  settles := by
    intro v w hw
    obtain ⟨a, -, rfl⟩ := map_eq_ok_iff.mp hw
    exact map_eq_ok_iff.mpr ⟨a, hback a, rfl⟩
  respelt := by
    intro v v' a hsteps hread
    induction hsteps with
    | refl => exact hread
    | tail _ hlast ih => exact hstep _ _ hlast a ih

/-- Choices are read so, whatever they are among. -/
theorem canonical_choice (α : Type) [Named α] :
    @Canonical α ⟨ofChoice, toChoice⟩ RespellsChoice :=
  @Canonical.of_respects α ⟨ofChoice, toChoice⟩ _ (fun a => toChoice_eq_ok_iff.mpr (.name a))
    toChoice_respects

/-- **READING JSON IS CANONICAL FOR EVERY TYPE THAT HAS A JSON FORM.**  Whatever a value
is read as, what is written for it is read as the same and written as the same again;
and a name spelt as a key over null, or a record without gaps spelt by position, reads
as before, alone or within a configuration, and however many of them are respelt. -/
theorem reading_canonical :
    Canonical Family RespellsChoice
      ∧ Canonical WordWidth RespellsChoice
      ∧ Canonical CallingConvention RespellsChoice
      ∧ Canonical Toolchain Toolchain.Respells
      ∧ Canonical ByteOrder RespellsChoice
      ∧ Canonical CacheModel RespellsChoice
      ∧ Canonical VectorFp RespellsChoice
      ∧ Canonical Config Config.Respells :=
  ⟨canonical_choice Family, canonical_choice WordWidth, canonical_choice CallingConvention,
    .of_respects Toolchain.ofJson_toJson Toolchain.ofJson_respects, canonical_choice ByteOrder,
    canonical_choice CacheModel, canonical_choice VectorFp,
    .of_respects Config.ofJson_toJson Config.ofJson_respects⟩

/-- A configuration by keys. -/
def byKeys : Json :=
  .object [("target", .object [("family", .string "arm-v7")]),
    ("toolchain", .object [("fastcall-available", .bool true)])]

/-- The same configuration by position, with the family over null. -/
def byPosition : Json :=
  .array [.array [.object [("arm-v7", .null)]], .array [.bool true]]

/-- The one is the other respelt in four steps, reads as it, and is written as it. -/
theorem reading_canonical_nested :
    Relation.ReflTransGen Config.Respells byKeys byPosition
      ∧ (Codec.ofJson byPosition : Except Flaw Config) = .ok ⟨some .armV7, some true⟩
      ∧ canonical? Config byPosition = .ok byKeys := by
  let target : Json := .object [("family", .string "arm-v7")]
  let toolchain : Json := .object [("fastcall-available", .bool true)]
  let named : Json := .array [.string "arm-v7"]
  let keyed : Json := .array [.object [("arm-v7", .null)]]
  let listed : Json := .array [.bool true]
  have hsections : Config.Respells byKeys (.array [target, toolchain]) :=
    .positions (.cons rfl (.cons rfl .nil))
  have htarget : Config.Respells (.array [target, toolchain]) (.array [named, toolchain]) :=
    @RespellsRecord.item _ _ _ target named [target, toolchain] 0 rfl rfl
      (.positions (.cons rfl .nil))
  have hname : Config.Respells (.array [named, toolchain]) (.array [keyed, toolchain]) :=
    @RespellsRecord.item _ _ _ named keyed [named, toolchain] 0 rfl rfl
      (@RespellsRecord.item _ _ _ _ _ [.string "arm-v7"] 0 rfl rfl (.key "arm-v7"))
  have htoolchain : Config.Respells (.array [keyed, toolchain]) byPosition :=
    @RespellsRecord.item _ _ _ toolchain listed [keyed, toolchain] 1 rfl rfl
      (.positions (.cons rfl .nil))
  have hsteps : Relation.ReflTransGen Config.Respells byKeys byPosition :=
    (((Relation.ReflTransGen.single hsections).tail htarget).tail hname).tail htoolchain
  obtain ⟨-, -, -, -, -, -, -, hconfig⟩ := reading_canonical
  have hread := hconfig.respelt byKeys byPosition ⟨some .armV7, some true⟩ hsteps rfl
  exact ⟨hsteps, hread, map_eq_ok_iff.mpr ⟨_, hread, rfl⟩⟩

end Json

end JitTarget
