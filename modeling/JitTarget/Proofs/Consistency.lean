/-
  JitTarget.Proofs.Consistency
  ────────────────────────────────
  **WHAT THE CONSISTENCY CHECK MEANS.**

  The check holds six facts against rules that speak of the family alone; the
  resolver takes them from tables.  The rules are the tables said again: facts pass
  exactly where four of them are the resolved ones and the word is one of two.  So
  the check tells every single change of a resolved profile:

      issues_eq_nil_iff      — facts that pass, rule by rule
      word_iff               — the two words there are
      agrees_iff             — facts that pass, in terms of the resolved ones
      mem_issues_of_altered  — one fact altered is reported
      consistency_exact      — the whole of it, over every supported family
-/
import JitTarget.Profile.Consistency

namespace JitTarget

/-! ## §1. The rules. -/

section Rule

variable {α : Type} {rule : Prop} [Decidable rule] {issue : α}

/-- A rule is silent where it is kept. -/
theorem rule_eq_nil_iff : (if rule then [] else [issue]) = [] ↔ rule := by
  by_cases h : rule <;> simp [h]

/-- A rule reports one issue where it is broken. -/
theorem mem_rule_iff {i : α} : i ∈ (if rule then [] else [issue]) ↔ ¬ rule ∧ i = issue := by
  by_cases h : rule <;> simp [h]

end Rule

namespace Facts

variable (facts : Facts) (family : Family)

/-- **Facts pass** where they keep all rules. -/
theorem issues_eq_nil_iff :
    facts.issues family = []
      ↔ ((facts.wordWidthBytes = 4 ∨ facts.wordWidthBytes = 8)
          ∧ facts.wordWidthBytes = 1 <<< facts.wordShift)
        ∧ facts.floatShift = JitTarget.floatShift
        ∧ (facts.byteOrder == .big) = family.isPpc
        ∧ facts.indirectCallRequired = (family == .ppc64)
        ∧ (facts.cacheModel == .unified) = family.isX86 := by
  unfold issues
  simp only [List.append_eq_nil_iff, rule_eq_nil_iff, and_assoc]

/-! ## §2. Words. -/

/-- A one shifted by less than the width is a power of two. -/
theorem toNat_one_shiftLeft {shift : UInt32} (h : shift < 32) :
    ((1 : UInt32) <<< shift).toNat = 2 ^ shift.toNat := by
  have hlt : shift.toNat < 32 := UInt32.lt_iff_toNat_lt.mp h
  have hpow : 2 ^ shift.toNat < 2 ^ 32 := Nat.pow_lt_pow_right (by decide) hlt
  rw [UInt32.toNat_shiftLeft, Nat.mod_eq_of_lt hlt]
  show 1 <<< shift.toNat % 2 ^ 32 = _
  rw [Nat.one_shiftLeft, Nat.mod_eq_of_lt hpow]

/-- So a power of two is reached by one shift alone. -/
theorem eq_one_shiftLeft_iff {bytes shift : UInt32} {n : UInt32} (h : shift < 32)
    (hbytes : bytes.toNat = 2 ^ n.toNat) : bytes = 1 <<< shift ↔ shift = n := by
  rw [← UInt32.toNat_inj, toNat_one_shiftLeft h, hbytes, Nat.pow_right_inj (by decide),
      UInt32.toNat_inj]
  exact eq_comm

/-- **There are two words**: four bytes with a shift of two, eight with one of three. -/
theorem word_iff {bytes shift : UInt32} (h : shift < 32) :
    (bytes = 4 ∨ bytes = 8) ∧ bytes = 1 <<< shift
      ↔ bytes = 4 ∧ shift = 2 ∨ bytes = 8 ∧ shift = 3 := by
  have hfour : bytes = 4 → (bytes = 1 <<< shift ↔ shift = 2) := by
    rintro rfl
    exact eq_one_shiftLeft_iff h rfl
  have height : bytes = 8 → (bytes = 1 <<< shift ↔ shift = 3) := by
    rintro rfl
    exact eq_one_shiftLeft_iff h rfl
  rw [or_and_right, and_congr_right_iff.mpr hfour, and_congr_right_iff.mpr height]

end Facts

/-! ## §3. Resolved facts. -/

/-- Of the two orders one is big-endian. -/
theorem ByteOrder.beq_big_inj (a b : ByteOrder) : (a == .big) = (b == .big) ↔ a = b := by
  cases a <;> cases b <;> decide

/-- Of the two cache models one is unified. -/
theorem CacheModel.beq_unified_inj (a b : CacheModel) :
    (a == .unified) = (b == .unified) ↔ a = b := by
  cases a <;> cases b <;> decide

section Resolved

variable {f : Family} {t : Toolchain} {r : Facts}

/-- **Resolved facts pass.** -/
theorem issues_of_facts (h : f.facts? t = some r) : r.issues f = [] := by
  cases f <;> cases h <;> rfl

/-- A resolved shift is the binary logarithm of the bytes in a word. -/
theorem toNat_bytes_of_facts (h : f.facts? t = some r) :
    r.wordWidthBytes.toNat = 2 ^ r.wordShift.toNat := by
  cases f <;> cases h <;> rfl

/-- **Facts pass** exactly where four of them are the resolved ones and the word is
one of two. -/
theorem agrees_iff (h : f.facts? t = some r) {facts : Facts} (hshift : facts.wordShift < 32) :
    facts.issues f = []
      ↔ facts.floatShift = r.floatShift ∧ facts.byteOrder = r.byteOrder
        ∧ facts.indirectCallRequired = r.indirectCallRequired
        ∧ facts.cacheModel = r.cacheModel
        ∧ (facts.wordWidthBytes = 4 ∧ facts.wordShift = 2
          ∨ facts.wordWidthBytes = 8 ∧ facts.wordShift = 3) := by
  obtain ⟨-, hfloat, horder, hcalls, hcaches⟩ :=
    (r.issues_eq_nil_iff f).mp (issues_of_facts h)
  -- what the rules say of the family is what the resolved facts are
  rw [facts.issues_eq_nil_iff f, Facts.word_iff hshift, ← hfloat, ← horder, ← hcalls, ← hcaches,
      ByteOrder.beq_big_inj, CacheModel.beq_unified_inj]
  constructor
  · rintro ⟨hword, hfloat, horder, hcalls, hcaches⟩
    exact ⟨hfloat, horder, hcalls, hcaches, hword⟩
  · rintro ⟨hfloat, horder, hcalls, hcaches, hword⟩
    exact ⟨hword, hfloat, horder, hcalls, hcaches⟩

/-- **The width that is read back** from facts that pass is theirs. -/
theorem wordWidth_of_issues {facts : Facts} (hshift : facts.wordShift < 32)
    (h : facts.issues f = []) :
    facts.wordWidth.bytes = facts.wordWidthBytes ∧ facts.wordWidth.shift = facts.wordShift
      ∧ facts.wordWidth.bits.toNat = 8 * facts.wordWidthBytes.toNat := by
  have hword := (Facts.word_iff hshift).mp ((facts.issues_eq_nil_iff f).mp h).1
  unfold Facts.wordWidth
  rcases hword with ⟨hbytes, hlog⟩ | ⟨hbytes, hlog⟩ <;> rw [hbytes, hlog] <;> decide

/-! ## §4. One fact altered. -/

/-- **Resolved facts with one of the six altered**, and the issue that is to report
it. -/
inductive Facts.Altered (f : Family) (r : Facts) : Facts → ConsistencyIssue → Prop where
  | wordWidthBytes (n : UInt32) (hn : n ≠ r.wordWidthBytes) :
      Altered f r { r with wordWidthBytes := n } (.wordShift n r.wordShift)
  | wordShift (n : UInt32) (hlt : n < 32) (hn : n ≠ r.wordShift) :
      Altered f r { r with wordShift := n } (.wordShift r.wordWidthBytes n)
  | floatShift (n : UInt32) (hn : n ≠ r.floatShift) :
      Altered f r { r with floatShift := n } (.floatShift n)
  | byteOrder (order : ByteOrder) (horder : order ≠ r.byteOrder) :
      Altered f r { r with byteOrder := order } (.byteOrder f order)
  | indirectCallRequired (required : Bool) (hrequired : required ≠ r.indirectCallRequired) :
      Altered f r { r with indirectCallRequired := required } (.descriptorCalls f required)
  | cacheModel (model : CacheModel) (hmodel : model ≠ r.cacheModel) :
      Altered f r { r with cacheModel := model } (.cacheModel f model)

/-- **One fact altered is reported**, by an issue about that fact. -/
theorem mem_issues_of_altered (h : f.facts? t = some r) {facts : Facts}
    {issue : ConsistencyIssue} (haltered : Facts.Altered f r facts issue) :
    issue ∈ facts.issues f := by
  obtain ⟨⟨-, hbytes⟩, hfloat, horder, hcalls, hcaches⟩ :=
    (r.issues_eq_nil_iff f).mp (issues_of_facts h)
  unfold Facts.issues
  simp only [List.mem_append, mem_rule_iff]
  -- each alteration breaks the rule on its fact, which the resolved value keeps
  cases haltered with
  | wordWidthBytes n hn =>
      have hbroken : ¬ n = 1 <<< r.wordShift := fun hkept => hn (hkept.trans hbytes.symm)
      simp [hbroken]
  | wordShift n hlt hn =>
      have hbroken : ¬ r.wordWidthBytes = 1 <<< n := fun hkept =>
        hn ((Facts.eq_one_shiftLeft_iff hlt (toNat_bytes_of_facts h)).mp hkept)
      simp [hbroken]
  | floatShift n hn =>
      have hbroken : ¬ n = JitTarget.floatShift := fun hkept => hn (hkept.trans hfloat.symm)
      simp [hbroken]
  | byteOrder order hother =>
      have hbroken : ¬ (order == .big) = f.isPpc := fun hkept =>
        hother ((ByteOrder.beq_big_inj order r.byteOrder).mp (hkept.trans horder.symm))
      simp [hbroken]
  | indirectCallRequired required hother =>
      have hbroken : ¬ required = (f == .ppc64) := fun hkept =>
        hother (hkept.trans hcalls.symm)
      simp [hbroken]
  | cacheModel model hother =>
      have hbroken : ¬ (model == .unified) = f.isX86 := fun hkept =>
        hother ((CacheModel.beq_unified_inj model r.cacheModel).mp (hkept.trans hcaches.symm))
      simp [hbroken]

end Resolved

/-! ## §5. The check. -/

/-- **THE CONSISTENCY CHECK IS EXACT.** On a supported family the resolved profile
passes.  Any facts over the family, with a shift less than the width of a number,
pass exactly where the float shift, the byte order, the calls and the cache model are
the resolved ones and the word has four bytes and a shift of two, or eight and a shift
of three; and the word width that such a profile answers has those bytes and that
shift, and eight bits to each byte.  So every single one of these six facts altered
is reported, by the issue about it. -/
theorem consistency_exact {f : Family} (hf : f.isSupported = true) (t : Toolchain) :
    ∃ r, (Profile.resolve f t).facts? = some r ∧ (Profile.resolve f t).issues = []
      ∧ (∀ facts : Facts, facts.wordShift < 32 →
          ((Profile.mk f (some facts)).issues = []
            ↔ facts.floatShift = r.floatShift ∧ facts.byteOrder = r.byteOrder
              ∧ facts.indirectCallRequired = r.indirectCallRequired
              ∧ facts.cacheModel = r.cacheModel
              ∧ (facts.wordWidthBytes = 4 ∧ facts.wordShift = 2
                ∨ facts.wordWidthBytes = 8 ∧ facts.wordShift = 3))
          ∧ ((Profile.mk f (some facts)).issues = [] →
              ∃ width, (Profile.mk f (some facts)).wordWidth = .ok width
                ∧ width.bytes = facts.wordWidthBytes ∧ width.shift = facts.wordShift
                ∧ width.bits.toNat = 8 * facts.wordWidthBytes.toNat))
      ∧ ∀ facts issue, Facts.Altered f r facts issue →
          issue ∈ (Profile.mk f (some facts)).issues := by
  have hsupported : (f.facts? t).isSome = true := (Profile.isSupported_resolve f t).trans hf
  obtain ⟨r, hr⟩ := Option.isSome_iff_exists.mp hsupported
  refine ⟨r, hr, ?_, ?_, ?_⟩
  · show Profile.issues ⟨f, f.facts? t⟩ = []
    rw [hr]
    exact issues_of_facts hr
  · intro facts hshift
    refine ⟨agrees_iff hr hshift, fun h => ⟨facts.wordWidth, rfl, ?_⟩⟩
    exact wordWidth_of_issues hshift h
  · intro facts issue haltered
    exact mem_issues_of_altered hr haltered

/-- A big-endian ARM is reported as such. -/
theorem consistency_exact_turned :
    Family.armV7.isSupported = true
      ∧ ∃ r, (Profile.resolve .armV7 Toolchain.standard).facts? = some r
        ∧ .byteOrder .armV7 .big
            ∈ Profile.issues ⟨.armV7, some { r with byteOrder := .big }⟩ := by
  have hsupported : Family.armV7.isSupported = true := rfl
  obtain ⟨r, hr, -, -, haltered⟩ := consistency_exact hsupported Toolchain.standard
  have horder : ByteOrder.big ≠ r.byteOrder := by
    cases hr
    decide
  exact ⟨hsupported, r, hr, haltered _ _ (.byteOrder .big horder)⟩

end JitTarget
