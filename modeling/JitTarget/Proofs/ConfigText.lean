/-
  JitTarget.Proofs.ConfigText
  ────────────────────────────────
  **A CONFIGURATION THAT IS WRITTEN IS READ BACK.**

  The text of a configuration is a plain document of two sections, and so is a
  template, whose explanations are comments.  Both are read as the table of these
  sections, and that table as the configuration:

      ofToml_outline  — the table
      parse_toToml    — the text
      parse_template  — the text of a template
-/
import JitTarget.Proofs.TomlSections
import JitTarget.Config.FromToml
import JitTarget.Config.Basic

namespace JitTarget.Config

open Toml

/-! ## §1. What a configuration says. -/

/-- The setting of the family. -/
def familySetting (f : Family) : Setting := ⟨familyKey, "\"" ++ f.name ++ "\"", .string f.name⟩

/-- The setting of fastcall. -/
def fastcallSetting (b : Bool) : Setting := ⟨fastcallKey, toString b, .boolean b⟩

/-- A configuration as two sections. -/
def outline (c : Config) : Outline where
  sections := [⟨targetKey, (c.family.map familySetting).toList⟩,
    ⟨toolchainKey, (c.fastcall.map fastcallSetting).toList⟩]

/-- The lines of a configuration's text. -/
def lines (c : Config) : List Line :=
  .header targetKey :: (c.family.map familySetting).toList.map .setting
    ++ .blank :: .header toolchainKey :: (c.fastcall.map fastcallSetting).toList.map .setting

/-- The section about the target, of at most the family. -/
theorem targetOfToml_setting (family : Option Family) :
    targetOfToml (.table (settingTable (family.map familySetting).toList)) = .ok family := by
  cases family with
  | none => rfl
  | some f =>
      have hname : Named.ofName? f.name = some f := Named.ofName?_name f
      have hread : familyOfToml (.atom (.string f.name)) = .ok f := by
        simp only [familyOfToml, hname]
      simp only [targetOfToml, sectionOfToml, settingTable, familySetting, Option.map_some,
        Option.toList_some, List.map_cons, List.map_nil, Schema.oneField, if_true, hread]
      rfl

/-- The section about the toolchain, of at most the fastcall setting. -/
theorem toolchainOfToml_setting (fastcall : Option Bool) :
    toolchainOfToml (.table (settingTable (fastcall.map fastcallSetting).toList))
      = .ok fastcall := by
  cases fastcall with
  | none => rfl
  | some b =>
      simp only [toolchainOfToml, sectionOfToml, settingTable, fastcallSetting, Option.map_some,
        Option.toList_some, List.map_cons, List.map_nil, Schema.oneField, if_true]
      rfl

/-- **The table of a configuration** is read as that configuration. -/
theorem ofToml_outline (c : Config) : ofToml c.outline.table = .ok c := by
  have hkeys : toolchainKey ≠ targetKey := by decide
  have htable : c.outline.table
      = [(targetKey, .table (settingTable (c.family.map familySetting).toList)),
         (toolchainKey, .table (settingTable (c.fastcall.map fastcallSetting).toList))] := rfl
  rw [htable]
  simp only [ofToml, Schema.twoFields, if_true, if_neg hkeys, targetOfToml_setting,
    toolchainOfToml_setting]
  rfl

theorem outline_distinct (c : Config) : c.outline.Distinct := by
  have hsingle : ∀ {α : Type} (o : Option α) (g : α → Setting),
      ((settingTable (o.map g).toList).map Prod.fst).Nodup := by
    intro α o g
    cases o <;> simp [settingTable]
  have hkeys : [targetKey, toolchainKey].Nodup := by decide
  refine ⟨hkeys, fun s hs => ?_⟩
  simp only [outline, List.mem_cons, List.not_mem_nil, or_false] at hs
  rcases hs with rfl | rfl
  · exact hsingle c.family familySetting
  · exact hsingle c.fastcall fastcallSetting

/-! ## §3. The text. -/

theorem wellFormed_familySetting (f : Family) : (Line.setting (familySetting f)).WellFormed := by
  have hkey : IsBare familyKey := by decide
  refine ⟨hkey, spells_quoted ?_⟩
  cases f <;> decide

theorem wellFormed_fastcallSetting (b : Bool) : (Line.setting (fastcallSetting b)).WellFormed := by
  have hkey : IsBare fastcallKey := by decide
  refine ⟨hkey, ?_⟩
  cases b
  · exact spells_false
  · exact spells_true

theorem wellFormed_lines (c : Config) : ∀ line ∈ c.lines, line.WellFormed := by
  intro line hline
  simp only [lines, List.cons_append, List.mem_cons, List.mem_append, List.mem_map,
    Option.mem_toList, Option.map_eq_some_iff] at hline
  rcases hline with rfl | ⟨_, ⟨f, -, rfl⟩, rfl⟩ | rfl | rfl | ⟨_, ⟨b, -, rfl⟩, rfl⟩
  · show IsBare targetKey
    decide
  · exact wellFormed_familySetting f
  · trivial
  · show IsBare toolchainKey
    decide
  · exact wellFormed_fastcallSetting b

/-- The lines that say something are those of the two sections. -/
theorem filter_lines (c : Config) : c.lines.filter Line.isStatement = c.outline.lines := by
  obtain ⟨family, fastcall⟩ := c
  cases family <;> cases fastcall <;> rfl

theorem toList_familyLine (family : Option Family) :
    (familyLine family).toList
      = ((family.map familySetting).toList.map Line.setting).flatMap Line.text := by
  cases family with
  | none => rfl
  | some f => simp [familyLine, familySetting, Line.text]

theorem toList_fastcallLine (fastcall : Option Bool) :
    (fastcallLine fastcall).toList
      = ((fastcall.map fastcallSetting).toList.map Line.setting).flatMap Line.text := by
  rcases fastcall with _ | _ | _ <;> rfl

theorem toToml_eq_unlines (c : Config) : c.toToml = Toml.unlines c.lines := by
  apply String.toList_inj.mp
  simp [toToml, Toml.unlines, lines, Line.text, toList_familyLine, toList_fastcallLine]

/-- **Lines that say what a configuration says** are read as that configuration. -/
theorem parse_unlines {c : Config} {ls : List Line} (hwell : ∀ line ∈ ls, line.WellFormed)
    (hlines : ls.filter Line.isStatement = c.outline.lines) :
    parse (Toml.unlines ls) = .ok c := by
  obtain ⟨d, hread, hdata⟩ := read_outline hwell hlines c.outline_distinct
  rw [parse, hread]
  simp only [hdata, ofToml_outline]
  rfl

/-- **A configuration is read back from its text.** -/
theorem parse_toToml (c : Config) : parse c.toToml = .ok c := by
  rw [toToml_eq_unlines]
  exact parse_unlines c.wellFormed_lines c.filter_lines

end JitTarget.Config
