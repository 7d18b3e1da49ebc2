/-
  JitTarget.Proofs.Arguments
  ────────────────────────────────
  **WHAT COMMAND LINES ARE UNDERSTOOD AS.**

  Arguments are taken one by one.  An argument without a hyphen in front is a
  path, or the value of the option before it; an option with an equals sign takes
  whatever stands behind it.  From these two steps follow the command lines
  people write:

      check PATH              show --config PATH
      init PATH [--family F]  show [--family=F] [--config=PATH] [--format=X]
-/
import Mathlib.Data.List.TakeDrop
import JitTarget.Command.Run

namespace JitTarget.Command

/-! ## §1. Single arguments. -/

/-- An argument that does not look like an option. -/
def IsPlain (text : String) : Prop := text.toList.head? ≠ some '-'

instance (text : String) : Decidable (IsPlain text) :=
  inferInstanceAs (Decidable (text.toList.head? ≠ some '-'))

theorem Argument.ofText_plain {text : String} (h : IsPlain text) :
    Argument.ofText text = .plain text := by
  unfold IsPlain at h
  unfold Argument.ofText
  split <;> simp_all

/-- An option spelt with its value behind an equals sign. -/
def Switch.spell (s : Switch) (value : String) : String := "--" ++ s.name ++ "=" ++ value

/-- What stands behind an equals sign is the value, whatever it looks like. -/
theorem Argument.ofText_spell (s : Switch) (value : String) :
    Argument.ofText (s.spell value) = .long s.name (some value) := by
  cases s <;>
    simp [Argument.ofText, Switch.spell, Switch.name, String.toList_append,
      List.span_eq_takeWhile_dropWhile]

/-- An option without an equals sign has no value yet. -/
theorem Argument.ofText_name (s : Switch) :
    Argument.ofText ("--" ++ s.name) = .long s.name none := by
  cases s <;> rfl

theorem Switch.ofName?_name (s : Switch) : Switch.ofName? s.name = some s := by
  cases s <;> rfl

theorem Switch.name_ne_help (s : Switch) : s.name ≠ "help" := by
  cases s <;> decide

/-! ## §2. Steps. -/

theorem Given.takeAll_plain {shape : Shape} {g g' : Given} {text : String} (h : IsPlain text)
    (htake : g.takePath shape text = .ok g') (rest : List String) :
    Given.takeAll shape g (text :: rest) = Given.takeAll shape g' rest := by
  rw [Given.takeAll, Argument.ofText_plain h]
  simp only [htake]
  rfl

/-- An option with its value behind an equals sign is taken with it. -/
theorem Given.takeAll_spell {shape : Shape} {g g' : Given} {s : Switch} {value : String}
    (htake : g.takeValue shape s value = .ok g') (rest : List String) :
    Given.takeAll shape g (s.spell value :: rest) = Given.takeAll shape g' rest := by
  rw [Given.takeAll, Argument.ofText_spell]
  simp only [s.name_ne_help, if_false, Switch.ofName?_name, htake]
  rfl

/-- An option takes the argument behind it, unless that looks like an option; where
the value is not allowed, nothing further counts. -/
theorem Given.takeAll_pair {shape : Shape} {g : Given} {s : Switch} {value : String}
    (hvalue : Argument.ofText value = .plain value) (rest : List String) :
    Given.takeAll shape g (("--" ++ s.name) :: value :: rest)
      = (g.takeValue shape s value).bind (fun g' => Given.takeAll shape g' rest) := by
  rw [Given.takeAll.eq_def]
  simp only [Argument.ofText_name, s.name_ne_help, if_false, Switch.ofName?_name, hvalue]
  rfl

theorem Given.takePath_eq_ok {shape : Shape} {g : Given} {path : String}
    (hroom : g.paths.length < shape.paths) (hne : path ≠ "") :
    g.takePath shape path = .ok { g with paths := g.paths ++ [path] } := by
  unfold Given.takePath
  rw [if_pos ⟨hroom, hne⟩]

theorem Given.takeValue_eq_ok {shape : Shape} {g : Given} {s : Switch} {value : String}
    (hknown : s ∈ shape.switches) (hnew : g.value? s = none) (hallows : s.allows value = true) :
    g.takeValue shape s value = .ok { g with values := g.values ++ [(s, value)] } := by
  unfold Given.takeValue
  rw [if_pos ⟨hknown, by rw [hnew]; rfl, hallows⟩]

/-! ## §3. Command lines. -/

theorem Request.ofArguments_check {path : String} (h : IsPlain path) :
    Request.ofArguments ["check", path] = if path = "" then .misuse else .run (.check path) := by
  show requestOf ⟨[], 1⟩ [path] (fun g => g.paths.head?.map .check) = _
  unfold requestOf
  by_cases hne : path = ""
  · subst hne
    rfl
  · rw [Given.takeAll_plain h (Given.takePath_eq_ok (by decide) hne), if_neg hne]
    rfl

theorem Request.ofArguments_show_config {path : String} (h : IsPlain path) :
    Request.ofArguments ["show", "--config", path]
      = if path = "" then .misuse else .run (.show none (some path) none) := by
  show requestOf ⟨[.family, .config, .format], 0⟩ (("--" ++ Switch.config.name) :: path :: [])
    (fun g => some (.show (g.value? .family) (g.value? .config) (g.value? .format))) = _
  unfold requestOf
  by_cases hne : path = ""
  · subst hne
    have hrefused : Given.takeValue ⟨[.family, .config, .format], 0⟩ {} .config ""
        = .error .misuse := rfl
    rw [Given.takeAll_pair (Argument.ofText_plain h), hrefused, if_pos rfl]
    rfl
  · have htake : Given.takeValue ⟨[.family, .config, .format], 0⟩ {} .config path
        = .ok { values := [(.config, path)] } :=
      Given.takeValue_eq_ok (by decide) rfl (by simpa [Switch.allows] using hne)
    rw [Given.takeAll_pair (Argument.ofText_plain h), htake, if_neg hne]
    rfl

/-- Options that are known, differ from each other and from those before them, and
allow their values are all taken. -/
theorem Given.takeAll_spelled (shape : Shape) (options : List (Switch × String)) (g : Given)
    (hknown : ∀ o ∈ options, o.1 ∈ shape.switches ∧ o.1.allows o.2 = true)
    (hnew : ((g.values ++ options).map Prod.fst).Nodup) :
    Given.takeAll shape g (options.map (fun o => o.1.spell o.2))
      = .ok { g with values := g.values ++ options } := by
  -- on the options: each is new to those taken before it, since they all differ
  induction options generalizing g with
  | nil => rw [List.map_nil, Given.takeAll, List.append_nil]
  | cons o rest ih =>
      obtain ⟨s, value⟩ := o
      obtain ⟨hin, hallows⟩ := hknown _ List.mem_cons_self
      have hfree : g.value? s = none := by
        refine List.lookup_eq_none_iff.mpr (fun entry hentry => ?_)
        rw [List.map_append, List.nodup_append] at hnew
        have hne := hnew.2.2 _ (List.mem_map_of_mem hentry) s (by simp)
        simpa using Ne.symm hne
      rw [List.map_cons, Given.takeAll_spell (Given.takeValue_eq_ok hin hfree hallows)]
      have hrest := ih { g with values := g.values ++ [(s, value)] }
        (fun o ho => hknown o (List.mem_cons_of_mem _ ho)) (by simpa using hnew)
      simpa using hrest

/-- The options of a profile to show. -/
def showOptions (family config format : Option String) : List (Switch × String) :=
  (family.map (Switch.family, ·)).toList ++ (config.map (Switch.config, ·)).toList
    ++ (format.map (Switch.format, ·)).toList

/-- The command line of a profile to show, each value behind an equals sign. -/
def showLine (family config format : Option String) : List String :=
  "show" :: (showOptions family config format).map (fun o => o.1.spell o.2)

/-- **Every combination of options can be asked for**: whatever the values are, if
only the path is not empty. -/
theorem Request.ofArguments_showLine (family config format : Option String)
    (h : config ≠ some "") :
    Request.ofArguments (showLine family config format) = .run (.show family config format) := by
  have hknown : ∀ o ∈ showOptions family config format,
      o.1 ∈ [Switch.family, .config, .format] ∧ o.1.allows o.2 = true := by
    intro o ho
    simp only [showOptions, List.mem_append, Option.mem_toList, Option.map_eq_some_iff]
      at ho
    rcases ho with (⟨v, -, rfl⟩ | ⟨v, rfl, rfl⟩) | ⟨v, -, rfl⟩
    · exact ⟨by simp, rfl⟩
    · exact ⟨by simp, by simpa [Switch.allows] using h⟩
    · exact ⟨by simp, rfl⟩
  have hnew : (showOptions family config format).map Prod.fst |>.Nodup := by
    cases family <;> cases config <;> cases format <;> simp [showOptions]
  show requestOf ⟨[.family, .config, .format], 0⟩ _
    (fun g => some (.show (g.value? .family) (g.value? .config) (g.value? .format))) = _
  unfold requestOf
  rw [Given.takeAll_spelled _ _ {} hknown (by simpa using hnew)]
  cases family <;> cases config <;> cases format <;> rfl

end JitTarget.Command
