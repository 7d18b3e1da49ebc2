/-
  JitTarget.Proofs.Records
  ────────────────────────────────
  **A RECORD IS READ KEY BY KEY.**

  Reading visits the entries of a map in order and stops at the first that does not
  fit.  Where no key stands twice the order does not matter: a record is read exactly
  if the map has no other keys than the record and each value that is there can be
  read, and it is read as those values:

      keys_and_reads_of_oneField, keys_and_reads_of_twoFields — what was read was there
      oneField_eq_ok_iff, twoFields_eq_ok_iff                 — and where keys stand once,
                                                                 what is there is read
-/
import JitTarget.Schema.Record

namespace JitTarget

/-! ## §1. Results. -/

section Results

variable {ε α β : Type} {x : Except ε α}

theorem bind_eq_ok_iff {f : α → Except ε β} {b : β} :
    x >>= f = .ok b ↔ ∃ a, x = .ok a ∧ f a = .ok b := by
  cases x with
  | error e => exact ⟨nofun, fun ⟨_, h, _⟩ => nomatch h⟩
  | ok a =>
      constructor
      · intro h
        exact ⟨a, rfl, h⟩
      · rintro ⟨a', ha, h⟩
        cases ha
        exact h

theorem map_eq_ok_iff {f : α → β} {b : β} : x.map f = .ok b ↔ ∃ a, x = .ok a ∧ f a = b := by
  cases x with
  | error e => exact ⟨nofun, fun ⟨_, h, _⟩ => nomatch h⟩
  | ok a =>
      constructor
      · intro h
        exact ⟨a, rfl, Except.ok.inj h⟩
      · rintro ⟨a', ha, h⟩
        cases ha
        exact congrArg Except.ok h

theorem mapError_eq_ok_iff {ε' : Type} {f : ε → ε'} {a : α} : x.mapError f = .ok a ↔ x = .ok a := by
  cases x with
  | error e => exact ⟨nofun, nofun⟩
  | ok a' => exact ⟨fun h => congrArg Except.ok (Except.ok.inj h), fun h => by cases h; rfl⟩

theorem toOption_eq_some_iff {a : α} : x.toOption = some a ↔ x = .ok a := by
  cases x with
  | error e => exact ⟨nofun, nofun⟩
  | ok a' => exact ⟨fun h => congrArg Except.ok (Option.some.inj h), fun h => by cases h; rfl⟩

/-- Of what a value that may be left out is the image. -/
theorem exists_eq_map_iff {write : α → β} {o : Option β} :
    (∃ a : Option α, o = a.map write) ↔ ∀ b, o = some b → ∃ a, b = write a := by
  constructor
  · rintro ⟨a, rfl⟩ b hb
    obtain ⟨a', -, rfl⟩ := Option.map_eq_some_iff.mp hb
    exact ⟨a', rfl⟩
  · intro h
    cases o with
    | none => exact ⟨none, rfl⟩
    | some b =>
        obtain ⟨a, rfl⟩ := h b rfl
        exact ⟨some a, rfl⟩

end Results

/-! ## §2. Keys. -/

section Keys

variable {V : Type}

/-- What is found is in an entry. -/
theorem mem_of_lookup_eq_some {key : String} {v : V} {entries : List (String × V)}
    (h : entries.lookup key = some v) : (key, v) ∈ entries := by
  obtain ⟨front, back, hsplit, -⟩ := List.lookup_eq_some_iff.mp h
  rw [hsplit]
  simp

/-- **A key is found** exactly if it is in an entry. -/
theorem mem_keys_iff {key : String} {entries : List (String × V)} :
    key ∈ entries.map Prod.fst ↔ (entries.lookup key).isSome := by
  constructor
  · intro h
    obtain ⟨entry, hentry, rfl⟩ := List.mem_map.mp h
    cases hfound : entries.lookup entry.1 with
    | some v => rfl
    | none =>
        rw [List.lookup_eq_none_iff] at hfound
        simpa using hfound entry hentry
  · intro h
    obtain ⟨v, hv⟩ := Option.isSome_iff_exists.mp h
    exact List.mem_map_of_mem (f := Prod.fst) (mem_of_lookup_eq_some hv)

/-- Where no key stands twice, what stands under it is told by it. -/
theorem eq_of_mem_of_mem {key : String} {v w : V} {entries : List (String × V)}
    (hnodup : (entries.map Prod.fst).Nodup) (hv : (key, v) ∈ entries)
    (hw : (key, w) ∈ entries) : v = w := by
  induction entries with
  | nil => exact absurd hv List.not_mem_nil
  | cons entry rest ih =>
      obtain ⟨hfirst, hrest⟩ := List.nodup_cons.mp hnodup
      have hnot : ∀ u, (key, u) ∈ rest → entry.1 ≠ key := by
        intro u hu heq
        have hmem : key ∈ rest.map Prod.fst := List.mem_map_of_mem (f := Prod.fst) hu
        exact hfirst (heq ▸ hmem)
      rcases List.mem_cons.mp hv with rfl | hvrest
      · rcases List.mem_cons.mp hw with heq | hwrest
        · exact (Prod.mk.inj heq).2.symm
        · exact absurd rfl (hnot w hwrest)
      · rcases List.mem_cons.mp hw with rfl | hwrest
        · exact absurd rfl (hnot v hvrest)
        · exact ih hrest hvrest hwrest

theorem lookup_eq_none {key : String} {entries : List (String × V)}
    (h : key ∉ entries.map Prod.fst) : entries.lookup key = none := by
  rwa [mem_keys_iff, Option.not_isSome_iff_eq_none] at h

theorem lookup_cons_of_ne {k key : String} (h : k ≠ key) (v : V) (rest : List (String × V)) :
    ((k, v) :: rest).lookup key = rest.lookup key := by
  rw [List.lookup_cons, beq_eq_false_iff_ne.mpr (Ne.symm h)]

/-- Where no key stands twice, each entry is what is found under its key. -/
theorem lookup_eq_some_iff {key : String} {v : V} {entries : List (String × V)}
    (hnodup : (entries.map Prod.fst).Nodup) :
    entries.lookup key = some v ↔ (key, v) ∈ entries := by
  constructor
  · exact mem_of_lookup_eq_some
  · intro hv
    have hkey : key ∈ entries.map Prod.fst := List.mem_map_of_mem (f := Prod.fst) hv
    obtain ⟨w, hw⟩ := Option.isSome_iff_exists.mp (mem_keys_iff.mp hkey)
    rw [hw, eq_of_mem_of_mem hnodup hv (mem_of_lookup_eq_some hw)]

/-- Where no key stands twice, the order of the entries does not matter. -/
theorem lookup_eq_of_perm {entries entries' : List (String × V)} (h : entries.Perm entries')
    (hnodup : (entries.map Prod.fst).Nodup) (key : String) :
    entries.lookup key = entries'.lookup key := by
  have hnodup' := (h.map Prod.fst).nodup_iff.mp hnodup
  apply Option.ext
  intro v
  rw [lookup_eq_some_iff hnodup, lookup_eq_some_iff hnodup', h.mem_iff]

/-- What is found among changed values is what was found, changed. -/
theorem lookup_map {W : Type} (change : V → W) (entries : List (String × V)) (key : String) :
    (entries.map (fun (k, v) => (k, change v))).lookup key = (entries.lookup key).map change := by
  induction entries with
  | nil => rfl
  | cons entry rest ih =>
      obtain ⟨k, v⟩ := entry
      rw [List.map_cons, List.lookup_cons, List.lookup_cons]
      split
      · rfl
      · exact ih

end Keys

namespace Schema

variable {V α β : Type}

/-! ## §3. Records. -/

/-- A part is read wherever it stands. -/
theorem within_eq_ok_iff {step : Step} {part : Except Flaw α} {a : α} :
    within step part = .ok a ↔ part = .ok a :=
  mapError_eq_ok_iff

/-- **What is read of a value that may be left out.** -/
inductive Reads (read : V → Except Flaw α) : Option V → Option α → Prop where
  | absent : Reads read none none
  | present {v : V} {a : α} (h : read v = .ok a) : Reads read (some v) (some a)

/-- What can be read back of one value only is read of that value. -/
theorem reads_iff {read : V → Except Flaw α} {write : α → V} {o : Option V} {a : Option α}
    (h : ∀ v, o = some v → ∀ a, read v = .ok a ↔ v = write a) :
    Reads read o a ↔ o = a.map write := by
  constructor
  · intro hread
    cases hread with
    | absent => rfl
    | present hv => exact congrArg some ((h _ rfl _).mp hv)
  · rintro rfl
    cases a with
    | none => exact .absent
    | some a => exact .present ((h _ rfl a).mpr rfl)

/-- Nothing is read of a key that is not there. -/
theorem reads_none_of_not_mem {key : String} {read : V → Except Flaw α}
    {entries : List (String × V)} (h : key ∉ entries.map Prod.fst) :
    Reads read (entries.lookup key) none := by
  rw [lookup_eq_none h]
  exact .absent

/-- A record with a single key has no other, and is read of the first value under it,
whether or not there are more. -/
theorem keys_and_reads_of_oneField {key : String} {read : V → Except Flaw α}
    {entries : List (String × V)} {a : Option α} (h : oneField key read entries = .ok a) :
    (∀ k ∈ entries.map Prod.fst, k = key) ∧ Reads read (entries.lookup key) a := by
  induction entries generalizing a with
  | nil =>
      cases h
      exact ⟨fun k hk => absurd hk List.not_mem_nil, .absent⟩
  | cons entry rest ih =>
      obtain ⟨k, v⟩ := entry
      by_cases hk : k = key
      · subst hk
        simp only [oneField, if_true, bind_eq_ok_iff, within_eq_ok_iff] at h
        obtain ⟨a', hv, rest', hrest, heq⟩ := h
        cases heq
        rw [List.lookup_cons_self, List.map_cons, List.forall_mem_cons]
        exact ⟨⟨rfl, (ih hrest).1⟩, .present hv⟩
      · rw [oneField, if_neg hk] at h
        cases h

/-- **A record with a single key.** -/
theorem oneField_eq_ok_iff {key : String} {read : V → Except Flaw α}
    {entries : List (String × V)} (hnodup : (entries.map Prod.fst).Nodup) {a : Option α} :
    oneField key read entries = .ok a
      ↔ (∀ k ∈ entries.map Prod.fst, k = key) ∧ Reads read (entries.lookup key) a := by
  refine ⟨keys_and_reads_of_oneField, ?_⟩
  rintro ⟨hkeys, hread⟩
  induction entries generalizing a with
  | nil =>
      cases hread
      rfl
  | cons entry rest ih =>
      obtain ⟨k, v⟩ := entry
      obtain ⟨hfirst, hrest⟩ := List.nodup_cons.mp hnodup
      rw [List.map_cons, List.forall_mem_cons] at hkeys
      obtain ⟨rfl, hkeys⟩ := hkeys
      rw [List.lookup_cons_self] at hread
      cases hread with
      | present hv =>
          -- the rest has no other value for this key
          have hnone := ih hrest hkeys (reads_none_of_not_mem hfirst)
          simp only [oneField, if_true, bind_eq_ok_iff, within_eq_ok_iff]
          exact ⟨_, hv, none, hnone, rfl⟩

/-- A record with two keys has no others, and is read of the first value under each. -/
theorem keys_and_reads_of_twoFields {key₁ key₂ : String} (hne : key₁ ≠ key₂)
    {read₁ : V → Except Flaw α} {read₂ : V → Except Flaw β} {entries : List (String × V)}
    {a : Option α} {b : Option β} (h : twoFields key₁ key₂ read₁ read₂ entries = .ok (a, b)) :
    (∀ k ∈ entries.map Prod.fst, k = key₁ ∨ k = key₂)
      ∧ Reads read₁ (entries.lookup key₁) a ∧ Reads read₂ (entries.lookup key₂) b := by
  induction entries generalizing a b with
  | nil =>
      cases h
      exact ⟨fun k hk => absurd hk List.not_mem_nil, .absent, .absent⟩
  | cons entry rest ih =>
      obtain ⟨k, v⟩ := entry
      rw [List.map_cons, List.forall_mem_cons]
      by_cases hk₁ : k = key₁
      · subst hk₁
        simp only [twoFields, if_true, bind_eq_ok_iff, within_eq_ok_iff] at h
        obtain ⟨a', hv, ⟨_, b'⟩, hrest, heq⟩ := h
        cases heq
        obtain ⟨hkeys, -, hb⟩ := ih hrest
        rw [List.lookup_cons_self, lookup_cons_of_ne hne]
        exact ⟨⟨Or.inl rfl, hkeys⟩, .present hv, hb⟩
      · by_cases hk₂ : k = key₂
        · subst hk₂
          simp only [twoFields, if_true, if_neg hk₁, bind_eq_ok_iff, within_eq_ok_iff] at h
          obtain ⟨b', hv, ⟨a', _⟩, hrest, heq⟩ := h
          cases heq
          obtain ⟨hkeys, ha, -⟩ := ih hrest
          rw [List.lookup_cons_self, lookup_cons_of_ne hk₁]
          exact ⟨⟨Or.inr rfl, hkeys⟩, ha, .present hv⟩
        · rw [twoFields, if_neg hk₁, if_neg hk₂] at h
          cases h

/-- **A record with two keys.** -/
theorem twoFields_eq_ok_iff {key₁ key₂ : String} (hne : key₁ ≠ key₂)
    {read₁ : V → Except Flaw α} {read₂ : V → Except Flaw β} {entries : List (String × V)}
    (hnodup : (entries.map Prod.fst).Nodup) {a : Option α} {b : Option β} :
    twoFields key₁ key₂ read₁ read₂ entries = .ok (a, b)
      ↔ (∀ k ∈ entries.map Prod.fst, k = key₁ ∨ k = key₂)
        ∧ Reads read₁ (entries.lookup key₁) a ∧ Reads read₂ (entries.lookup key₂) b := by
  refine ⟨keys_and_reads_of_twoFields hne, ?_⟩
  rintro ⟨hkeys, ha, hb⟩
  induction entries generalizing a b with
  | nil =>
      cases ha
      cases hb
      rfl
  | cons entry rest ih =>
      obtain ⟨k, v⟩ := entry
      obtain ⟨hfirst, hrest⟩ := List.nodup_cons.mp hnodup
      rw [List.map_cons, List.forall_mem_cons] at hkeys
      obtain ⟨rfl | rfl, hkeys⟩ := hkeys
      · rw [List.lookup_cons_self] at ha
        rw [lookup_cons_of_ne hne] at hb
        cases ha with
        | present hv =>
            -- the rest has no other value for this key
            have hothers := ih hrest hkeys (reads_none_of_not_mem hfirst) hb
            simp only [twoFields, if_true, bind_eq_ok_iff, within_eq_ok_iff]
            exact ⟨_, hv, (none, b), hothers, rfl⟩
      · rw [lookup_cons_of_ne hne.symm] at ha
        rw [List.lookup_cons_self] at hb
        cases hb with
        | present hv =>
            have hothers := ih hrest hkeys ha (reads_none_of_not_mem hfirst)
            simp only [twoFields, if_true, if_neg hne.symm, bind_eq_ok_iff, within_eq_ok_iff]
            exact ⟨_, hv, (a, none), hothers, rfl⟩

end Schema

end JitTarget
