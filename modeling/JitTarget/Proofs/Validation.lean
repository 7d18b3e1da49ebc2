/-
  JitTarget.Proofs.Validation
  ────────────────────────────────
  **VALIDATION IS SOUND AND COMPLETE.**

  A configuration is resolved in one place and held against a machine in another.
  Each of the four rules is silent under one condition on what is resolved, and two
  of them find errors alone; so the issues tell what became of the resolution, on
  every machine and under every override hidden in its signals:

      validate_eq_nil_iff          — no issue is found
      exists_error_iff             — an error is found
      validate_agrees_with_resolve — both, in terms of the resolved profile
-/
import JitTarget.Config.Validation
import JitTarget.Proofs.Detection

namespace JitTarget

/-! ## §1. Conventions. -/

/-- Host call sites have a convention on the supported families. -/
theorem Family.isSome_hostCallConvention (f : Family) :
    f.hostCallConvention?.isSome = f.isSupported := by
  cases f <;> rfl

/-- Generated code has a convention on the supported families. -/
theorem Family.isSome_callingConvention (f : Family) (toolchain : Toolchain) :
    (f.callingConvention? toolchain).isSome = f.isSupported := by
  cases f <;> rfl

namespace Config

variable (c : Config) (host : Signals)

/-! ## §2. The rules, one law each. -/

/-- The selected family is a supported one. -/
theorem supportIssues_eq_nil_iff :
    c.supportIssues host = [] ↔ (c.apply host).detect.isSupported = true := by
  unfold supportIssues
  by_cases hsentinel : c.family = some .unsupported
  · -- the sentinel that was asked for is what is detected
    have hexplicit : (c.apply host).explicit = some .unsupported := by
      unfold apply
      rw [hsentinel]
      rfl
    rw [if_pos hsentinel, Signals.detect_of_explicit hexplicit]
    exact iff_of_false nofun nofun
  · rw [if_neg hsentinel]
    by_cases hsupported : (c.apply host).detect.isSupported = true
    · rw [if_pos hsupported]
      exact iff_of_true rfl hsupported
    · rw [if_neg hsupported]
      exact iff_of_false nofun hsupported

/-- The fastcall setting is left open, or it counts. -/
theorem fastcallIssues_eq_nil_iff :
    c.fastcallIssues host = [] ↔ c.fastcall = none ∨ (c.apply host).detect = .x86_32 := by
  unfold fastcallIssues
  by_cases hopen : c.fastcall = none
  · simp [hopen]
  · have hset : c.fastcall.isSome = true := Option.isSome_iff_ne_none.mpr hopen
    simp [hopen, hset]

/-- Code for this machine is called as host call sites call it. -/
theorem conventionIssues_eq_nil_iff :
    c.conventionIssues host = []
      ↔ ((c.apply host).detect = nativeFamily host →
          (nativeFamily host).callingConvention? c.toolchain
            = (nativeFamily host).hostCallConvention?) := by
  unfold conventionIssues
  generalize nativeFamily host = native
  by_cases hnative : (c.apply host).detect = native
  · have hresolved := native.isSome_callingConvention c.toolchain
    have hspelled := native.isSome_hostCallConvention
    simp only [hnative, if_true, forall_const]
    -- a family has both conventions or neither
    cases hr : native.callingConvention? c.toolchain with
    | none =>
        cases hs : native.hostCallConvention? with
        | none => exact iff_of_true rfl rfl
        | some spelled =>
            rw [hr] at hresolved
            rw [hs] at hspelled
            exact absurd (hresolved.trans hspelled.symm) nofun
    | some resolved =>
        cases hs : native.hostCallConvention? with
        | none =>
            rw [hr] at hresolved
            rw [hs] at hspelled
            exact absurd (hresolved.trans hspelled.symm) nofun
        | some spelled => by_cases h : resolved = spelled <;> simp [h]
  · rw [if_neg hnative]
    exact iff_of_true rfl (fun h => absurd h hnative)

/-- Code is for this machine, where both families are supported ones. -/
theorem foreignIssues_eq_nil_iff :
    c.foreignIssues host = []
      ↔ ((c.apply host).detect.isSupported = true → (nativeFamily host).isSupported = true →
          (c.apply host).detect = nativeFamily host) := by
  unfold foreignIssues
  simp

/-- Two rules find errors alone, and two of them warnings. -/
theorem severity_of_rules :
    (∀ i ∈ c.supportIssues host, i.severity = .error)
      ∧ (∀ i ∈ c.fastcallIssues host, i.severity = .warning)
      ∧ (∀ i ∈ c.conventionIssues host, i.severity = .error)
      ∧ ∀ i ∈ c.foreignIssues host, i.severity = .warning := by
  refine ⟨?_, ?_, ?_, ?_⟩ <;> intro i hi
  · unfold supportIssues at hi
    split at hi
    next => rw [List.mem_singleton.mp hi]; rfl
    split at hi
    next => exact absurd hi List.not_mem_nil
    next => rw [List.mem_singleton.mp hi]; rfl
  · unfold fastcallIssues at hi
    simp only at hi
    split at hi
    next => rw [List.mem_singleton.mp hi]; rfl
    next => exact absurd hi List.not_mem_nil
  · unfold conventionIssues at hi
    simp only at hi
    split at hi
    next =>
      split at hi
      next =>
        split at hi
        next => exact absurd hi List.not_mem_nil
        next => rw [List.mem_singleton.mp hi]; rfl
      next => exact absurd hi List.not_mem_nil
    next => exact absurd hi List.not_mem_nil
  · unfold foreignIssues at hi
    simp only at hi
    split at hi
    next => rw [List.mem_singleton.mp hi]; rfl
    next => exact absurd hi List.not_mem_nil

/-! ## §3. All rules. -/

/-- Nothing is found where every rule is silent. -/
theorem validate_eq_nil_iff :
    c.validate host = []
      ↔ c.supportIssues host = [] ∧ c.fastcallIssues host = []
        ∧ c.conventionIssues host = [] ∧ c.foreignIssues host = [] := by
  unfold validate
  rw [List.append_eq_nil_iff, List.append_eq_nil_iff, List.append_eq_nil_iff, and_assoc,
      and_assoc]

/-- **An error is found** where one of the two rules that find errors speaks. -/
theorem exists_error_iff :
    (∃ i ∈ c.validate host, i.severity = .error)
      ↔ c.supportIssues host ≠ [] ∨ c.conventionIssues host ≠ [] := by
  obtain ⟨hsupport, hfastcall, hconvention, hforeign⟩ := c.severity_of_rules host
  constructor
  · rintro ⟨i, hi, herror⟩
    unfold validate at hi
    simp only [List.mem_append] at hi
    rcases hi with ((hi | hi) | hi) | hi
    · exact Or.inl (List.ne_nil_of_mem hi)
    · exact absurd ((hfastcall i hi).symm.trans herror) nofun
    · exact Or.inr (List.ne_nil_of_mem hi)
    · exact absurd ((hforeign i hi).symm.trans herror) nofun
  · intro hspeaks
    rcases hspeaks with hne | hne
    · obtain ⟨i, hi⟩ := List.exists_mem_of_ne_nil _ hne
      exact ⟨i, by simp [validate, hi], hsupport i hi⟩
    · obtain ⟨i, hi⟩ := List.exists_mem_of_ne_nil _ hne
      exact ⟨i, by simp [validate, hi], hconvention i hi⟩

/-- The convention of the resolved profile is the one of its family under the
configured toolchain. -/
theorem callingConvention_of_resolve :
    (c.resolve host).callingConvention.toOption
      = (c.apply host).detect.callingConvention? c.toolchain :=
  Profile.callingConvention_resolve (c.apply host).detect c.toolchain

/-- **VALIDATION IS SOUND AND COMPLETE** against resolution.  An error is found
exactly where the resolved profile is unsupported, or is this machine's and called
otherwise than host call sites call.  On a supported machine nothing at all is found
exactly where the resolved profile is this machine's, is called as host call sites
call, and the fastcall setting is left open or counts. -/
theorem validate_agrees_with_resolve :
    let native := Signals.detect { host with explicit := none }
    ((∃ i ∈ c.validate host, i.severity = .error)
        ↔ (c.resolve host).isSupported = false
          ∨ ((c.resolve host).family = native
            ∧ (c.resolve host).callingConvention.toOption ≠ native.hostCallConvention?))
      ∧ (native.isSupported = true →
          (c.validate host = []
            ↔ (c.resolve host).family = native
              ∧ (c.resolve host).callingConvention.toOption = native.hostCallConvention?
              ∧ (c.fastcall = none ∨ native = .x86_32))) := by
  intro native
  have hnative : nativeFamily host = native := rfl
  have hfamily : (c.resolve host).family = (c.apply host).detect := rfl
  have hsupported : (c.resolve host).isSupported = (c.apply host).detect.isSupported :=
    Profile.isSupported_resolve (c.apply host).detect c.toolchain
  rw [exists_error_iff, validate_eq_nil_iff, ne_eq, ne_eq, supportIssues_eq_nil_iff,
      fastcallIssues_eq_nil_iff, conventionIssues_eq_nil_iff, foreignIssues_eq_nil_iff,
      callingConvention_of_resolve, hsupported, hfamily, hnative]
  generalize (c.apply host).detect = chosen
  constructor
  · rw [Bool.not_eq_true, Classical.not_imp]
    -- where the family is this machine's, so is its convention
    refine or_congr_right (and_congr_right (fun h => ?_))
    rw [h]
  · intro hsupports
    constructor
    · rintro ⟨hs, hfastcall, hconvention, hforeign⟩
      obtain rfl : chosen = native := hforeign hs hsupports
      exact ⟨rfl, hconvention rfl, hfastcall⟩
    · rintro ⟨rfl, hconvention, hfastcall⟩
      exact ⟨hsupports, hfastcall, fun _ => hconvention, fun _ _ => rfl⟩

/-- An override among the signals of a machine selects the family, but the machine
stays what it is. -/
example :
    let host : Signals := { Signals.hostIdentity with explicit := some .ppc64 }
    Config.validate {} host = [.foreignFamily .ppc64 .x86_64]
      ∧ Config.validate { family := some .x86_64 } host = [] := by
  decide

end Config

end JitTarget
