/-
  JitTarget.Proofs.FastcallSetting
  ────────────────────────────────
  **WHERE THE FASTCALL SETTING COUNTS.**

  One configuration is resolved twice, with the setting on and with it off.  Facts
  look at the toolchain for the calling convention alone, so nothing else can tell
  the two profiles apart, and the convention does on 32-bit x86 alone.  Validation
  does not compare profiles; it warns by a rule of its own:

      resolve_eq_iff            — profiles of a family are told apart by the convention
      warnsIdle_iff             — when the warning is given
      fastcall_counts_unwarned  — the two compared, on every machine
-/
import JitTarget.Proofs.Validation

namespace JitTarget

/-! ## §1. Profiles but for the convention. -/

namespace Profile

/-- The profile with another calling convention, where it has one at all. -/
def withConvention (p : Profile) (convention : CallingConvention) : Profile :=
  { p with facts? := p.facts?.map (fun f => { f with callingConvention := convention }) }

/-- Two profiles have the same family, are supported or not alike, and have the same
facts but for the calling convention. -/
structure SameButConvention (p q : Profile) : Prop where
  family_eq : p.family = q.family
  isSupported_eq : p.isSupported = q.isSupported
  /-- With one convention put into both they are the same. -/
  facts_eq : ∀ convention, p.withConvention convention = q.withConvention convention

variable (f : Family) (t t' : Toolchain)

/-- **The toolchain shows in the convention alone.** -/
theorem sameButConvention_resolve : (resolve f t).SameButConvention (resolve f t') where
  family_eq := rfl
  isSupported_eq := by rw [isSupported_resolve, isSupported_resolve]
  facts_eq := by
    intro convention
    cases f <;> rfl

/-- Two toolchains give a family one profile exactly where they give it one
convention. -/
theorem resolve_eq_iff :
    resolve f t = resolve f t' ↔ f.callingConvention? t = f.callingConvention? t' := by
  constructor
  · intro h
    rw [← callingConvention_resolve f t, ← callingConvention_resolve f t', h]
  · intro h
    unfold resolve Family.facts?
    rw [h]

end Profile

/-- The fastcall setting changes the convention of 32-bit x86 and of no other family. -/
theorem Family.callingConvention?_eq_iff (f : Family) :
    f.callingConvention? ⟨true⟩ = f.callingConvention? ⟨false⟩ ↔ f ≠ .x86_32 := by
  cases f <;> simp [callingConvention?]

namespace Config

/-! ## §2. The warning. -/

/-- An issue is the warning that the fastcall setting has no effect, whatever family
it names. -/
def Issue.SaysIdle (i : Issue) : Prop :=
  i.severity = .warning ∧ ∃ rest, i.message = "fastcall-available has no effect on " ++ rest

/-- No other issue reads like that warning. -/
theorem Issue.saysIdle_iff (i : Issue) : i.SaysIdle ↔ ∃ f, i = .fastcallIdle f := by
  constructor
  · rintro ⟨hwarning, rest, hmessage⟩
    cases i with
    | fastcallIdle f => exact ⟨f, rfl⟩
    | foreignFamily chosen native =>
        -- of two beginnings of one text the shorter begins the longer
        have hidle : "fastcall-available has no effect on ".toList
            <+: (foreignFamily chosen native).message.toList := by
          rw [hmessage, String.toList_append]
          exact List.prefix_append _ _
        have hforeign : "family ".toList <+: (foreignFamily chosen native).message.toList := by
          unfold message
          simp only [String.append_assoc]
          rw [String.toList_append]
          exact List.prefix_append _ _
        have hbegins := List.prefix_of_prefix_length_le hforeign hidle (by decide)
        exact absurd hbegins (by decide)
    -- the other issues are errors
    | sentinelChosen => simp [severity] at hwarning
    | nothingDetected arch => simp [severity] at hwarning
    | conventionClash f resolved spelled => simp [severity] at hwarning
  · rintro ⟨f, rfl⟩
    exact ⟨rfl, f.name, rfl⟩

variable (c : Config) (host : Signals)

/-- The rule on the fastcall setting finds that one warning, about the family that is
selected. -/
theorem eq_of_mem_fastcallIssues {i : Issue} (hi : i ∈ c.fastcallIssues host) :
    i = .fastcallIdle (c.resolve host).family := by
  unfold fastcallIssues at hi
  simp only at hi
  split at hi
  next => exact List.mem_singleton.mp hi
  next => exact absurd hi List.not_mem_nil

/-- The rule on foreign code finds another. -/
theorem fastcallIdle_not_mem_foreignIssues (f : Family) :
    .fastcallIdle f ∉ c.foreignIssues host := by
  intro hi
  unfold foreignIssues at hi
  simp only at hi
  split at hi
  next => exact absurd (List.mem_singleton.mp hi) nofun
  next => exact absurd hi List.not_mem_nil

/-- So the warning comes from the rule on the fastcall setting and from no other. -/
theorem mem_fastcallIssues_of_saysIdle {i : Issue} (hi : i ∈ c.validate host)
    (hidle : i.SaysIdle) : i ∈ c.fastcallIssues host := by
  obtain ⟨hsupport, -, hconvention, -⟩ := c.severity_of_rules host
  obtain ⟨f, rfl⟩ := i.saysIdle_iff.mp hidle
  unfold validate at hi
  simp only [List.mem_append] at hi
  rcases hi with ((hi | hi) | hi) | hi
  · exact absurd (hsupport _ hi) nofun
  · exact hi
  · exact absurd (hconvention _ hi) nofun
  · exact absurd hi (c.fastcallIdle_not_mem_foreignIssues host f)

/-- **The warning is given** exactly where that rule speaks. -/
theorem warnsIdle_iff :
    (∃ i ∈ c.validate host, i.SaysIdle) ↔ c.fastcallIssues host ≠ [] := by
  constructor
  · rintro ⟨i, hi, hidle⟩
    exact List.ne_nil_of_mem (c.mem_fastcallIssues_of_saysIdle host hi hidle)
  · intro hspeaks
    obtain ⟨i, hi⟩ := List.exists_mem_of_ne_nil _ hspeaks
    have hidle : i.SaysIdle :=
      i.saysIdle_iff.mpr ⟨_, c.eq_of_mem_fastcallIssues host hi⟩
    exact ⟨i, by simp [validate, hi], hidle⟩

/-! ## §3. The setting on and off. -/

/-- The configuration with the fastcall setting given. -/
def withFastcall (c : Config) (available : Bool) : Config := { c with fastcall := some available }

/-- The setting has no part in which family is selected. -/
theorem resolve_withFastcall (available : Bool) :
    (c.withFastcall available).resolve host
      = Profile.resolve (c.resolve host).family ⟨available⟩ :=
  rfl

/-- **The setting tells the two profiles apart** on 32-bit x86 alone. -/
theorem resolve_withFastcall_eq_iff :
    (c.withFastcall true).resolve host = (c.withFastcall false).resolve host
      ↔ (c.resolve host).family ≠ .x86_32 := by
  rw [resolve_withFastcall, resolve_withFastcall, Profile.resolve_eq_iff,
      Family.callingConvention?_eq_iff]

/-- **THE FASTCALL SETTING COUNTS WHERE IT IS NOT WARNED OF.** With the setting on and
with it off a configuration selects the same family and the same facts, but for the
calling convention, which differs on 32-bit x86 and nowhere else.  The warning that
the setting has no effect is given exactly where there is a setting and the two
profiles are one; it names their family. -/
theorem fastcall_counts_unwarned (c : Config) (host : Signals) :
    let on := (c.withFastcall true).resolve host
    let off := (c.withFastcall false).resolve host
    on.SameButConvention off
      ∧ (on ≠ off ↔ (c.resolve host).family = .x86_32)
      ∧ ((∃ i ∈ c.validate host, i.SaysIdle) ↔ c.fastcall.isSome = true ∧ on = off)
      ∧ ∀ i ∈ c.validate host, i.SaysIdle → i = .fastcallIdle on.family := by
  intro on off
  have hsame : on = off ↔ (c.resolve host).family ≠ .x86_32 :=
    c.resolve_withFastcall_eq_iff host
  have hsilent : c.fastcallIssues host = []
      ↔ c.fastcall = none ∨ (c.resolve host).family = .x86_32 :=
    c.fastcallIssues_eq_nil_iff host
  refine ⟨Profile.sameButConvention_resolve _ _ _, ?_, ?_, ?_⟩
  · rw [ne_eq, hsame, ne_eq, Decidable.not_not]
  · rw [warnsIdle_iff, ne_eq, hsilent, not_or, hsame, Option.isSome_iff_ne_none]
  · intro i hi hidle
    exact c.eq_of_mem_fastcallIssues host (c.mem_fastcallIssues_of_saysIdle host hi hidle)

/-- It is the family in force that counts, not the one that was configured: an
override among the signals turns the setting idle. -/
example :
    let host : Signals := { arch := "i686", explicit := some .mips32 }
    Config.validate { fastcall := some true } host
        = [.fastcallIdle .mips32, .foreignFamily .mips32 .x86_32]
      ∧ Config.validate { family := some .x86_32, fastcall := some true } host = [] := by
  decide

end Config

end JitTarget
