/-
  JitTarget.Proofs.Detection
  ────────────────────────────────
  **DETECTION IS ITS SPECIFICATION.**

  Names are tried in an order, and what is reported besides rejects a candidate in
  two checks, the second on what the first left.  Neither the order nor the second
  check's place shows in the outcome: a supported family is detected exactly when
  the name stands for it and nothing that is reported speaks against it.

      StandsFor        — the family a name stands for, without an order
      Agrees           — nothing that is reported speaks against a family
      candidate_eq_iff — the candidate is the family the name stands for
      detect_eq_iff    — the family that is detected
      detect_exact     — the whole of it, and what becomes of it when less is reported
-/
import JitTarget.Profile.Basic
import JitTarget.Proofs.Records

namespace JitTarget

/-- The sentinel alone is unsupported. -/
theorem Family.eq_unsupported {f : Family} (h : ¬ f.isSupported = true) : f = .unsupported := by
  cases f <;> first | rfl | exact absurd rfl h

namespace Signals

/-! ## §1. What a name stands for. -/

/-- The names of ARM machines: `arm`, and whatever begins with `armv` or
`thumbv`. -/
def IsArmName (arch : String) : Prop :=
  arch = "arm" ∨ ∃ version, arch = "armv" ++ version ∨ arch = "thumbv" ++ version

/-- **The family a name stands for.** The instruction-set level tells the ARM
families apart, and counts for no other name. -/
inductive StandsFor : String → Option ArmIsa → Family → Prop where
  | x86_32 {arch : String} (isa : Option ArmIsa)
      (h : arch ∈ ["x86", "i386", "i586", "i686"]) : StandsFor arch isa .x86_32
  | x86_64 (isa : Option ArmIsa) : StandsFor "x86_64" isa .x86_64
  | armV7 {arch : String} (h : IsArmName arch) {level : ArmIsa}
      (hlevel : level = .v7a ∨ level = .v7r) : StandsFor arch (some level) .armV7
  | armThumb2 {arch : String} (h : IsArmName arch) : StandsFor arch (some .v7) .armThumb2
  | armV5 {arch : String} (h : IsArmName arch) : StandsFor arch none .armV5
  | ppc64 {arch : String} (isa : Option ArmIsa) (h : arch ∈ ["powerpc64", "ppc64"]) :
      StandsFor arch isa .ppc64
  | ppc32 {arch : String} (isa : Option ArmIsa) (h : arch ∈ ["powerpc", "ppc"]) :
      StandsFor arch isa .ppc32
  | mips32 (isa : Option ArmIsa) : StandsFor "mips" isa .mips32

/-- **A family agrees with what is reported**: with the byte order and with the
width of a pointer, each as far as it is reported at all. -/
structure Agrees (s : Signals) (f : Family) : Prop where
  byteOrder : ∀ order, s.byteOrder = some order → f.byteOrder? = some order
  pointerWidth : ∀ bits, s.pointerWidth = some bits →
    f.wordWidth?.map WordWidth.bits = some bits

/-! ## §2. Names. -/

theorem isPrefixOf_toList_iff (lead arch : String) :
    lead.toList.isPrefixOf arch.toList = true ↔ ∃ rest, arch = lead ++ rest := by
  rw [List.isPrefixOf_iff_prefix]
  constructor
  · rintro ⟨rest, h⟩
    refine ⟨String.ofList rest, ?_⟩
    rw [← String.toList_inj, String.toList_append, String.toList_ofList]
    exact h.symm
  · rintro ⟨rest, rfl⟩
    rw [String.toList_append]
    exact List.prefix_append _ _

theorem namesArm_iff (arch : String) : namesArm arch = true ↔ IsArmName arch := by
  unfold namesArm IsArmName
  rw [Bool.or_eq_true, Bool.or_eq_true, beq_iff_eq, isPrefixOf_toList_iff,
      isPrefixOf_toList_iff, or_assoc, ← exists_or]

instance (arch : String) : Decidable (IsArmName arch) :=
  decidable_of_iff _ (namesArm_iff arch)

/-- The ARM names are tried behind the names of 64-bit and 32-bit x86, and none of
those is one. -/
theorem candidate_of_isArmName {arch : String} (h : IsArmName arch) (isa : Option ArmIsa) :
    candidate arch isa
      = match isa with
        | some .v7a | some .v7r => .armV7
        | some .v7 => .armThumb2
        | none => .armV5 := by
  have hne : ∀ name : String, ¬ IsArmName name → (arch == name) = false := by
    intro name hn
    rw [beq_eq_false_iff_ne]
    rintro rfl
    exact hn h
  unfold candidate
  rw [hne "x86" (by decide), hne "i386" (by decide),
      hne "i586" (by decide), hne "i686" (by decide),
      hne "x86_64" (by decide), (namesArm_iff arch).mpr h]
  rfl

/-- A candidate that is supported is a family the name stands for. -/
theorem standsFor_candidate {arch : String} {isa : Option ArmIsa}
    (h : (candidate arch isa).isSupported = true) :
    StandsFor arch isa (candidate arch isa) := by
  by_cases harm : IsArmName arch
  · rw [candidate_of_isArmName harm]
    match isa with
    | some .v7a => exact .armV7 harm (Or.inl rfl)
    | some .v7r => exact .armV7 harm (Or.inr rfl)
    | some .v7 => exact .armThumb2 harm
    | none => exact .armV5 harm
  · -- the other names one after another, in the order they are tried
    unfold candidate at h ⊢
    split
    next hx => exact .x86_32 isa (by simpa [or_assoc] using hx)
    split
    next hx =>
      obtain rfl := beq_iff_eq.mp hx
      exact .x86_64 isa
    split
    next hx => exact absurd ((namesArm_iff arch).mp hx) harm
    split
    next hx => exact .ppc64 isa (by simpa using hx)
    split
    next hx => exact .ppc32 isa (by simpa using hx)
    split
    next hx =>
      obtain rfl := beq_iff_eq.mp hx
      exact .mips32 isa
    next => simp_all [Family.isSupported]

/-- **The candidate** is the family the name stands for, if it is a supported one. -/
theorem candidate_eq_iff {f : Family} (hf : f.isSupported = true) (arch : String)
    (isa : Option ArmIsa) : candidate arch isa = f ↔ StandsFor arch isa f := by
  constructor
  · rintro rfl
    exact standsFor_candidate hf
  · intro h
    cases h with
    | x86_32 isa h =>
        simp only [List.mem_cons, List.not_mem_nil, or_false] at h
        rcases h with rfl | rfl | rfl | rfl <;> rfl
    | x86_64 isa => rfl
    | armV7 h hlevel =>
        rw [candidate_of_isArmName h]
        rcases hlevel with rfl | rfl <;> rfl
    | armThumb2 h => exact candidate_of_isArmName h _
    | armV5 h => exact candidate_of_isArmName h _
    | ppc64 isa h =>
        simp only [List.mem_cons, List.not_mem_nil, or_false] at h
        rcases h with rfl | rfl <;> rfl
    | ppc32 isa h =>
        simp only [List.mem_cons, List.not_mem_nil, or_false] at h
        rcases h with rfl | rfl <;> rfl
    | mips32 isa => rfl

/-! ## §3. Checks. -/

/-- Whether what is reported speaks against what is known. -/
def contradicts {α : Type} [DecidableEq α] (reported known : Option α) : Bool :=
  match reported, known with
  | some r, some k => r != k
  | _, _ => false

theorem family_checkByteOrder (reported : Option ByteOrder) (given : Family) :
    (checkByteOrder reported given).family
      = if contradicts reported given.byteOrder? then .unsupported else given := by
  unfold checkByteOrder contradicts
  cases reported with
  | none => rfl
  | some r =>
      cases given.byteOrder? with
      | none => rfl
      | some fixed => by_cases h : r = fixed <;> simp [h]

theorem family_checkPointerWidth (reported : Option UInt32) (given : Family) :
    (checkPointerWidth reported given).family
      = if contradicts reported (given.wordWidth?.map WordWidth.bits) then .unsupported
        else given := by
  unfold checkPointerWidth contradicts
  cases reported with
  | none => rfl
  | some r =>
      cases given.wordWidth? with
      | none => rfl
      | some w => by_cases h : r = w.bits <;> simp [h]

/-- **A check leaves a supported family** exactly when it was given that family, and
what is known of the family is what is reported, if anything is. -/
theorem check_eq_iff {α : Type} [DecidableEq α] {known : Family → Option α}
    (hknown : ∀ f, known f = none → f = .unsupported) {f : Family}
    (hf : f.isSupported = true) (reported : Option α) (given : Family) :
    (if contradicts reported (known given) then .unsupported else given) = f
      ↔ given = f ∧ ∀ r, reported = some r → known f = some r := by
  by_cases hc : contradicts reported (known given) = true
  · rw [if_pos hc]
    refine iff_of_false ?_ ?_
    · rintro rfl
      exact absurd hf nofun
    · rintro ⟨rfl, hagrees⟩
      cases reported with
      | none => exact absurd hc nofun
      | some r => simp [contradicts, hagrees r rfl] at hc
  · rw [if_neg hc]
    refine ⟨?_, And.left⟩
    rintro rfl
    refine ⟨rfl, ?_⟩
    rintro r rfl
    cases hk : known given with
    | none =>
        -- nothing is known of the sentinel alone
        rw [hknown given hk] at hf
        exact absurd hf nofun
    | some k =>
        have hrk : r = k := by simpa [contradicts, hk] using hc
        rw [hrk]

/-! ## §4. Detection. -/

/-- **The family that is detected** where nobody asked for one. -/
theorem detect_eq_iff {s : Signals} (hopen : s.explicit = none) {f : Family}
    (hf : f.isSupported = true) :
    s.detect = f ↔ StandsFor s.arch s.armIsa f ∧ s.Agrees f := by
  have hdetect : s.detect = (checkPointerWidth s.pointerWidth
      (checkByteOrder s.byteOrder (candidate s.arch s.armIsa)).family).family := by
    unfold detect examine
    rw [hopen]
  have horder : ∀ g : Family, g.byteOrder? = none → g = .unsupported := by
    intro g h
    cases g <;> first | rfl | exact absurd h nofun
  have hwidth : ∀ g : Family, g.wordWidth?.map WordWidth.bits = none → g = .unsupported := by
    intro g h
    cases g <;> first | rfl | exact absurd h nofun
  rw [hdetect, family_checkPointerWidth, check_eq_iff hwidth hf, family_checkByteOrder,
      check_eq_iff horder hf, candidate_eq_iff hf, and_assoc]
  exact and_congr_right (fun _ => ⟨fun h => ⟨h.1, h.2⟩, fun h => ⟨h.1, h.2⟩⟩)

/-- A family that somebody asked for is detected. -/
theorem detect_of_explicit {s : Signals} {f : Family} (h : s.explicit = some f) :
    s.detect = f := by
  unfold detect examine
  rw [h]

/-- The same signals, with less reported beside the name. -/
structure ReportsLess (less s : Signals) : Prop where
  explicit_eq : less.explicit = s.explicit
  arch_eq : less.arch = s.arch
  armIsa_eq : less.armIsa = s.armIsa
  byteOrder : less.byteOrder = none ∨ less.byteOrder = s.byteOrder
  pointerWidth : less.pointerWidth = none ∨ less.pointerWidth = s.pointerWidth

/-- A family that agrees with what is reported agrees with less. -/
theorem Agrees.of_less {s less : Signals} {f : Family} (h : s.Agrees f)
    (hless : ReportsLess less s) : less.Agrees f where
  byteOrder := by
    intro order hreported
    rcases hless.byteOrder with hnone | hsame
    · exact absurd (hnone.symm.trans hreported) nofun
    · exact h.byteOrder order (hsame ▸ hreported)
  pointerWidth := by
    intro bits hreported
    rcases hless.pointerWidth with hnone | hsame
    · exact absurd (hnone.symm.trans hreported) nofun
    · exact h.pointerWidth bits (hsame ▸ hreported)

/-- **Less that is reported** leaves a supported family as it was detected. -/
theorem detect_of_less {s less : Signals} {f : Family} (hf : f.isSupported = true)
    (h : s.detect = f) (hless : ReportsLess less s) : less.detect = f := by
  cases hs : s.explicit with
  | some asked =>
      rw [← h, detect_of_explicit hs]
      exact detect_of_explicit (hless.explicit_eq.trans hs)
  | none =>
      obtain ⟨hname, hagrees⟩ := (detect_eq_iff hs hf).mp h
      rw [detect_eq_iff (hless.explicit_eq.trans hs) hf, hless.arch_eq, hless.armIsa_eq]
      exact ⟨hname, hagrees.of_less hless⟩

/-- **DETECTION IS EXACTLY ITS SPECIFICATION.** A family that somebody asked for is
detected whatever else is reported.  Without one, a supported family is detected
exactly when the name stands for it and neither the byte order nor the pointer
width that is reported is another than its own, and everything else is the
sentinel; so no profile contradicts what was reported.  Reporting less never
turns a supported family into anything else. -/
theorem detect_exact (s : Signals) :
    (∀ f, s.explicit = some f → s.detect = f)
      ∧ (s.explicit = none →
          (∀ f, f.isSupported = true →
            (s.detect = f ↔ StandsFor s.arch s.armIsa f ∧ s.Agrees f))
          ∧ ((¬ ∃ f, StandsFor s.arch s.armIsa f ∧ s.Agrees f) → s.detect = .unsupported)
          ∧ ∀ toolchain, (Profile.detect s toolchain).isSupported = true →
              (∀ order, s.byteOrder = some order →
                (Profile.detect s toolchain).byteOrder = .ok order)
              ∧ ∀ bits, s.pointerWidth = some bits →
                ∃ width, (Profile.detect s toolchain).wordWidth = .ok width
                  ∧ width.bits = bits)
      ∧ (∀ f, f.isSupported = true → s.detect = f →
          Signals.detect { s with byteOrder := none } = f
            ∧ Signals.detect { s with pointerWidth := none } = f) := by
  refine ⟨fun f h => detect_of_explicit h, fun hopen => ⟨?_, ?_, ?_⟩, ?_⟩
  · exact fun f hf => detect_eq_iff hopen hf
  · intro hnone
    refine Family.eq_unsupported (fun hsupported => hnone ?_)
    exact ⟨s.detect, (detect_eq_iff hopen hsupported).mp rfl⟩
  · intro toolchain hsupported
    have hf : s.detect.isSupported = true :=
      (Profile.isSupported_resolve s.detect toolchain).symm.trans hsupported
    obtain ⟨-, hagrees⟩ := (detect_eq_iff hopen hf).mp rfl
    constructor
    · intro order hreported
      have hfixed := hagrees.byteOrder order hreported
      rw [← Profile.byteOrder_resolve s.detect toolchain] at hfixed
      exact toOption_eq_some_iff.mp hfixed
    · intro bits hreported
      obtain ⟨width, hwidth, hbits⟩ :=
        Option.map_eq_some_iff.mp (hagrees.pointerWidth bits hreported)
      rw [← Profile.wordWidth_resolve s.detect toolchain] at hwidth
      exact ⟨width, toOption_eq_some_iff.mp hwidth, hbits⟩
  · intro f hf h
    exact ⟨detect_of_less hf h ⟨rfl, rfl, rfl, Or.inl rfl, Or.inr rfl⟩,
      detect_of_less hf h ⟨rfl, rfl, rfl, Or.inr rfl, Or.inl rfl⟩⟩

/-- The width is looked at behind the order, and no ARM family has this one. -/
example :
    let s : Signals := { arch := "thumbv7em", armIsa := some .v7, byteOrder := some .little }
    s.detect = .armThumb2
      ∧ Signals.detect { s with pointerWidth := some 64 } = .unsupported := by
  decide

end Signals

end JitTarget
