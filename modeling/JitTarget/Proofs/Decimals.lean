/-
  JitTarget.Proofs.Decimals
  ────────────────────────────────
  **DECIMAL NUMBERS ARE READ BACK IN EITHER FORMAT.**

  A number is written with its digits alone, and without a zero in front.  Behind that
  both readers see the same run of digits, so what they make of it is one law of digits;
  what differs is what else they first try a digit as:

      decimal_cases        — how a number is written
      Json.number?_decimal — a number of 64 bits in JSON
      Toml.spells_decimal  — a number of 63 bits in TOML
-/
import JitTarget.Json.Reader
import JitTarget.Proofs.TomlLines

namespace JitTarget

/-! ## §1. Digits. -/

theorem isDigit_ne {c d : Char} (hc : c.isDigit = true) (hd : d.isDigit = false) : c ≠ d := by
  rintro rfl
  exact absurd (hc.symm.trans hd) (by decide)

/-- A digit is one of the ten characters from zero to nine. -/
theorem toNat_of_isDigit {c : Char} (hc : c.isDigit = true) : 48 ≤ c.toNat ∧ c.toNat ≤ 57 := by
  unfold Char.isDigit at hc
  rw [Bool.and_eq_true, decide_eq_true_iff, decide_eq_true_iff] at hc
  exact ⟨UInt32.le_iff_toNat_le.mp hc.1, UInt32.le_iff_toNat_le.mp hc.2⟩

/-- The digits a number is written with. -/
def decimal (n : Nat) : List Char := Nat.toDigits 10 n

theorem toList_toString (n : Nat) : (toString n).toList = decimal n := by
  rw [Nat.toString_eq_ofList_toDigits, String.toList_ofList, decimal]

theorem isDigit_of_mem_decimal {n : Nat} : ∀ c ∈ decimal n, c.isDigit = true :=
  fun _ hc => Nat.isDigit_of_mem_toDigits (by decide) (by decide) hc

theorem ofDigitChars_decimal (n : Nat) : Nat.ofDigitChars 10 (decimal n) 0 = n :=
  Nat.ofDigitChars_ten_toDigits

/-- **How a number is written**: a zero alone, or digits that start with another. -/
theorem decimal_cases (n : Nat) :
    decimal n = ['0'] ∨ ∃ c r, decimal n = c :: r ∧ c.isDigit = true ∧ c ≠ '0' := by
  -- on the number: a digit behind others does not change the first
  induction n using Nat.strongRecOn with
  | _ n ih =>
      by_cases hsmall : n < 10
      · have hall : ∀ m : Fin 10, m.val.digitChar = '0'
            ∨ m.val.digitChar.isDigit = true ∧ m.val.digitChar ≠ '0' := by decide
        have hone : decimal n = [n.digitChar] := Nat.toDigits_of_lt_base hsmall
        rcases hall ⟨n, hsmall⟩ with hzero | ⟨hdigit, hne⟩
        · exact Or.inl (by rw [hone, hzero])
        · exact Or.inr ⟨_, [], hone, hdigit, hne⟩
      · have hmore : decimal n = decimal (n / 10) ++ [(n % 10).digitChar] :=
          Nat.toDigits_of_base_le (by decide) (Nat.not_lt.mp hsmall)
        rcases ih (n / 10) (by omega) with hzero | ⟨c, r, hfront, hc⟩
        · -- only the zero is written as a zero, and it is less than ten
          have hback := ofDigitChars_decimal (n / 10)
          rw [hzero] at hback
          have hnone : Nat.ofDigitChars 10 ['0'] 0 = 0 := rfl
          omega
        · exact Or.inr ⟨c, r ++ [(n % 10).digitChar], by rw [hmore, hfront, List.cons_append], hc⟩

theorem exists_decimal (n : Nat) : ∃ c r, decimal n = c :: r ∧ c.isDigit = true := by
  obtain ⟨c, r, hfront⟩ := List.exists_cons_of_ne_nil (Nat.toDigits_ne_nil (n := n) (b := 10))
  have hn : decimal n = c :: r := hfront
  exact ⟨c, r, hn, isDigit_of_mem_decimal c (by rw [hn]; exact List.mem_cons_self)⟩

/-- Digits only make a number greater. -/
theorem le_ofDigitChars (ds : List Char) (n : Nat) : n ≤ Nat.ofDigitChars 10 ds n := by
  induction ds generalizing n with
  | nil => exact Nat.le_refl n
  | cons c ds ih =>
      rw [Nat.ofDigitChars_cons]
      have hrest := ih (10 * n + (c.toNat - '0'.toNat))
      omega

/-! ## §2. JSON. -/

namespace Json

/-- A word of 64 bits holds all digits of a number that fits it. -/
theorem takeWord_eq {ds : List Char} {word : Nat}
    (h : Nat.ofDigitChars 10 ds word < 2 ^ 64) :
    takeWord word ds = (Nat.ofDigitChars 10 ds word, []) := by
  induction ds generalizing word with
  | nil => rfl
  | cons c ds ih =>
      rw [Nat.ofDigitChars_cons] at h ⊢
      have hword := le_ofDigitChars ds (10 * word + (c.toNat - '0'.toNat))
      have hlonger : word * 10 + (c.toNat - '0'.toNat) = 10 * word + (c.toNat - '0'.toNat) := by
        rw [Nat.mul_comm]
      simp only [takeWord, hlonger]
      rw [if_pos (by omega), ih h]

/-- **A number of 64 bits** is read up to what cannot go on with it. -/
theorem number?_decimal {n : Nat} (hn : n < 2 ^ 64) {rest : List Char}
    (hrest : ∀ c ∈ rest.head?, c.isDigit = false ∧ c ≠ '.' ∧ c ≠ 'e' ∧ c ≠ 'E') :
    number? (decimal n ++ rest) = some (.int n, rest) := by
  have hdigits := isDigit_of_mem_decimal (n := n)
  have hspan : spanDigits (decimal n ++ rest) = (decimal n, rest) :=
    Toml.span_append hdigits (fun c hc => (hrest c hc).1)
  have hwhole : integerPart? (decimal n ++ rest) = some (decimal n, rest) := by
    rcases decimal_cases n with hzero | ⟨c, r, hn, -, hc⟩
    · rw [hzero]
      rfl
    · rw [hn, List.cons_append] at hspan ⊢
      unfold integerPart?
      split
      next heq => exact absurd (List.cons.inj heq).1 hc
      next => simp only [hspan]
  have hplaces : fraction? rest = some ([], rest) := by
    cases rest with
    | nil => rfl
    | cons c r =>
        unfold fraction?
        split
        next heq => exact absurd (List.cons.inj heq).1 (hrest c rfl).2.1
        next => rfl
  have hexponent : exponent? rest = some (none, rest) := by
    cases rest with
    | nil => rfl
    | cons c r =>
        obtain ⟨-, -, hsmall, hcapital⟩ := hrest c rfl
        unfold exponent?
        simp only [hsmall, hcapital, or_self, if_false]
  have hvalue : ofDigits? false (decimal n) [] none = some (.int n) := by
    have hword : takeWord 0 (decimal n) = (Nat.ofDigitChars 10 (decimal n) 0, []) :=
      takeWord_eq (by rwa [ofDigitChars_decimal])
    rw [ofDigitChars_decimal] at hword
    unfold ofDigits?
    rw [hword]
    rfl
  have hunsigned : unsigned? false (decimal n ++ rest) = some (.int n, rest) := by
    unfold unsigned?
    rw [hwhole]
    simp only [Option.bind_eq_bind, Option.bind_some, hplaces, hexponent, hvalue]
    rfl
  obtain ⟨c, r, hfront, hc⟩ := exists_decimal n
  rw [← hunsigned, hfront, List.cons_append, number?]
  intro r' heq
  exact isDigit_ne hc (by decide) (List.cons.inj heq).1

end Json

/-! ## §3. TOML. -/

namespace Toml

theorem hexDigit?_of_isDigit {c : Char} (hc : c.isDigit = true) :
    hexDigit? c = some (c.toNat - '0'.toNat) := by
  obtain ⟨hlow, hhigh⟩ := toNat_of_isDigit hc
  exact if_pos ⟨UInt32.le_iff_toNat_le.mpr hlow, UInt32.le_iff_toNat_le.mpr hhigh⟩

/-- The digits of the base ten are the decimal ones. -/
theorem isDigitOf_of_isDigit {c : Char} (hc : c.isDigit = true) : isDigitOf 10 c = true := by
  obtain ⟨hlow, hhigh⟩ := toNat_of_isDigit hc
  rw [isDigitOf, hexDigit?_of_isDigit hc]
  show decide (c.toNat - 48 < 10) = true
  exact decide_eq_true (by omega)

theorem digitsValue_eq {ds : List Char} (h : ∀ c ∈ ds, c.isDigit = true) :
    digitsValue 10 ds = Nat.ofDigitChars 10 ds 0 := by
  have hfold : ∀ n, ds.foldl (fun n c => n * 10 + (hexDigit? c).getD 0) n
      = Nat.ofDigitChars 10 ds n := by
    induction ds with
    | nil => exact fun _ => rfl
    | cons c ds ih =>
        intro n
        have hrest := ih (fun d hd => h d (List.mem_cons_of_mem c hd))
        rw [List.foldl_cons, hexDigit?_of_isDigit (h c List.mem_cons_self), Option.getD_some,
          hrest, Nat.ofDigitChars_cons, Nat.mul_comm]
  exact hfold 0

section Digits

variable {ds : List Char} (h : ∀ c ∈ ds, c.isDigit = true) (rest : List Char)
include h

/-- Digits are all read up to a newline. -/
theorem moreDigits_digits :
    moreDigits (isDigitOf 10) (ds ++ '\n' :: rest) = (ds, '\n' :: rest) := by
  induction ds with
  | nil =>
      rw [List.nil_append, moreDigits, if_neg (by decide)]
      intro c r heq
      exact absurd heq (by decide)
  | cons c ds ih =>
      have hc := h c List.mem_cons_self
      have hrest := ih (fun d hd => h d (List.mem_cons_of_mem c hd))
      rw [List.cons_append, moreDigits, if_pos (isDigitOf_of_isDigit hc), hrest]
      intro d r heq
      exact absurd heq (isDigit_ne hc (by decide))

/-- Where some of the digits are read, digits are left. -/
theorem fixedDigits?_digits {count n m : Nat} {r : List Char}
    (hread : fixedDigits? count n (ds ++ '\n' :: rest) = some (m, r)) :
    ∃ left, r = left ++ '\n' :: rest ∧ ∀ c ∈ left, c.isDigit = true := by
  induction count generalizing ds n with
  | zero =>
      cases hread
      exact ⟨ds, rfl, h⟩
  | succ count ih =>
      cases ds with
      | nil => cases hread
      | cons c ds =>
          rw [List.cons_append, fixedDigits?,
            if_pos (isDigitOf_of_isDigit (h c List.mem_cons_self))] at hread
          exact ih (fun d hd => h d (List.mem_cons_of_mem c hd)) hread

/-- No mark of a date or a time stands behind digits. -/
theorem only?_digits {mark : Char} (hmark : mark.isDigit = false) (hline : mark ≠ '\n') :
    only? mark (ds ++ '\n' :: rest) = none := by
  cases ds with
  | nil => exact if_neg (Ne.symm hline)
  | cons c ds => exact if_neg (isDigit_ne (h c List.mem_cons_self) hmark)

/-- **Digits in front of a newline are no date and no time.** -/
theorem dateTime?_digits : dateTime? (ds ++ '\n' :: rest) = none := by
  have hdate : date? (ds ++ '\n' :: rest) = none := by
    rw [Option.eq_none_iff_forall_ne_some]
    intro d hd
    obtain ⟨⟨year, r⟩, hyear, hd⟩ := Option.bind_eq_some_iff.mp hd
    obtain ⟨left, rfl, hleft⟩ := fixedDigits?_digits h rest hyear
    obtain ⟨r', hr', -⟩ := Option.bind_eq_some_iff.mp hd
    rw [only?_digits hleft rest (by decide) (by decide)] at hr'
    cases hr'
  have htime : time? (ds ++ '\n' :: rest) = none := by
    rw [Option.eq_none_iff_forall_ne_some]
    intro t ht
    obtain ⟨⟨hour, r⟩, hhour, ht⟩ := Option.bind_eq_some_iff.mp ht
    unfold twoDigits? at hhour
    split at hhour
    next m r' hread =>
      split at hhour
      next =>
        cases hhour
        obtain ⟨left, rfl, hleft⟩ := fixedDigits?_digits h rest hread
        obtain ⟨r', hr', -⟩ := Option.bind_eq_some_iff.mp ht
        rw [only?_digits hleft rest (by decide) (by decide)] at hr'
        cases hr'
      next => cases hhour
    next => cases hhour
  rw [dateTime?, hdate, htime]
  rfl

end Digits

/-- Digits with nothing behind them are an integer. -/
theorem decimal?_integer {cs ds r : List Char} {a : Atom}
    (hwhole : wholePart? cs = some (ds, r)) (hplaces : fraction? r = some (none, r))
    (hexponent : exponent? r = some (none, r)) (hvalue : ofInt? (digitsValue 10 ds) = some a) :
    decimal? false cs = some (a, r) := by
  unfold decimal?
  rw [hwhole]
  simp only [Option.bind_eq_bind, Option.bind_some, hplaces, hexponent, Option.isNone_none,
    and_self, if_true, Bool.false_eq_true, if_false, hvalue]
  rfl

/-- A number that starts with a digit is a decimal, unless a base is named. -/
theorem number?_unsigned {c : Char} {r : List Char} (hc : c.isDigit = true)
    (hbase : ∀ d ∈ r.head?, d ≠ 'x' ∧ d ≠ 'o' ∧ d ≠ 'b') :
    number? (c :: r) = decimal? false (c :: r) := by
  have hsign : sign? (c :: r) = (none, c :: r) := by
    rw [sign?]
    all_goals
      intro r' heq
      exact isDigit_ne hc (by decide) (List.cons.inj heq).1
  unfold number?
  split
  next heq =>
    cases heq
    exact absurd rfl (hbase _ rfl).1
  next heq =>
    cases heq
    exact absurd rfl (hbase _ rfl).2.1
  next heq =>
    cases heq
    exact absurd rfl (hbase _ rfl).2.2
  next =>
    rw [hsign]
    simp only [Option.getD_none]
    split
    next heq => exact absurd (List.cons.inj heq).1 (isDigit_ne hc (by decide))
    next heq => exact absurd (List.cons.inj heq).1 (isDigit_ne hc (by decide))
    next => rfl

/-- **A number of 63 bits** is read up to the end of its line. -/
theorem number?_decimal {n : Nat} (hn : n < 2 ^ 63) (rest : List Char) :
    number? (decimal n ++ '\n' :: rest) = some (.integer n, '\n' :: rest) := by
  have hdigits := isDigit_of_mem_decimal (n := n)
  have hvalue : ofInt? (digitsValue 10 (decimal n)) = some (.integer n) := by
    rw [digitsValue_eq hdigits, ofDigitChars_decimal]
    exact if_pos (by omega)
  have hwhole : wholePart? (decimal n ++ '\n' :: rest) = some (decimal n, '\n' :: rest) := by
    rcases decimal_cases n with hzero | ⟨c, r, hfront, hc, hne⟩
    · rw [hzero]
      rfl
    · have hr : ∀ d ∈ r, d.isDigit = true := fun d hd =>
        hdigits d (by rw [hfront]; exact List.mem_cons_of_mem c hd)
      rw [hfront, List.cons_append, wholePart?]
      · rw [digitRun?, if_pos (isDigitOf_of_isDigit hc), moreDigits_digits hr]
      · intro r' heq
        exact hne (List.cons.inj heq).1
  rw [← decimal?_integer hwhole rfl rfl hvalue]
  obtain ⟨c, r, hfront, hc⟩ := exists_decimal n
  rw [hfront, List.cons_append]
  refine number?_unsigned hc (fun d hd => ?_)
  cases r with
  | nil =>
      cases hd
      decide
  | cons _ r =>
      cases hd
      have hdigit := hdigits d (by rw [hfront]; exact List.mem_cons_of_mem c List.mem_cons_self)
      exact ⟨isDigit_ne hdigit (by decide), isDigit_ne hdigit (by decide),
        isDigit_ne hdigit (by decide)⟩

/-- **A number of 63 bits** spells itself. -/
theorem spells_decimal {n : Nat} (hn : n < 2 ^ 63) : Spells (toString n) (.integer n) := by
  obtain ⟨c, r, hdecimal, hc⟩ := exists_decimal n
  rw [← toList_toString] at hdecimal
  refine ⟨⟨c, r, hdecimal, ?_, isDigit_ne hc (by decide), isDigit_ne hc (by decide)⟩,
    fun rest => ?_⟩
  · simp [isBlank, isDigit_ne hc (d := ' ') (by decide), isDigit_ne hc (d := '\t') (by decide)]
  · have hnone := dateTime?_digits (isDigit_of_mem_decimal (n := n)) rest
    have hnumber := number?_decimal hn rest
    rw [← toList_toString, hdecimal, List.cons_append] at hnone hnumber
    rw [hdecimal, List.cons_append, atom?]
    · rw [hnone, hnumber]
    all_goals
      intro r' heq
      exact isDigit_ne hc (by decide) (List.cons.inj heq).1

end Toml

end JitTarget
