/-
  JitTarget.Proofs.JsonKeys
  ────────────────────────────────
  **EVERY KEY OF AN OBJECT THAT IS READ STANDS ONCE.**

  An object's fields are put in their places one by one, the last of them first; a key
  that is there already is passed over.  So the fields of an object are those of its
  text in another order, where no key stands twice:

      insertField_perm  — a field with a key of its own
      addField_keyed    — any field
      value?_keyed      — what the reader makes of a value
      keyed_of_parse?   — what is read of any text
-/
import JitTarget.Json.Reader
import JitTarget.Json.Shape
import JitTarget.Proofs.Records

namespace JitTarget.Json

/-! ## §1. Fields in their places. -/

section Fields

variable {key : String} {value : Json} {fields : List (String × Json)}

/-- **A field with a key of its own** is one more field. -/
theorem insertField_perm (h : key ∉ fields.map Prod.fst) :
    (insertField key value fields).Perm ((key, value) :: fields) := by
  induction fields with
  | nil => exact .refl _
  | cons field rest ih =>
      obtain ⟨k, v⟩ := field
      rw [List.map_cons, List.mem_cons, not_or] at h
      rw [insertField]
      split
      · exact .refl _
      · rw [if_neg h.1]
        exact ((ih h.2).cons (k, v)).trans (.swap _ _ _)

theorem addField_perm (h : key ∉ fields.map Prod.fst) :
    (addField key value fields).Perm ((key, value) :: fields) := by
  have hnone := lookup_eq_none h
  rw [addField, hnone, if_neg (by simp)]
  exact insertField_perm h

theorem addField_of_mem (h : key ∈ fields.map Prod.fst) :
    addField key value fields = fields := by
  rw [addField, if_pos (mem_keys_iff.mp h)]

theorem keyed_object_iff :
    (Json.object fields).Keyed ↔ (fields.map Prod.fst).Nodup ∧ ∀ field ∈ fields, field.2.Keyed := by
  constructor
  · intro h
    cases h with
    | object hkeys hfields => exact ⟨hkeys, hfields⟩
  · rintro ⟨hkeys, hfields⟩
    exact .object hkeys hfields

/-- **Any field**: it is one more, or it is passed over. -/
theorem addField_keyed (hvalue : value.Keyed) (h : (Json.object fields).Keyed) :
    (Json.object (addField key value fields)).Keyed := by
  by_cases hkey : key ∈ fields.map Prod.fst
  · rw [addField_of_mem hkey]
    exact h
  · obtain ⟨hkeys, hfields⟩ := keyed_object_iff.mp h
    have hperm : (addField key value fields).Perm ((key, value) :: fields) := addField_perm hkey
    refine .object ?_ (fun field hfield => ?_)
    · exact (hperm.map Prod.fst).nodup_iff.mpr (List.nodup_cons.mpr ⟨hkey, hkeys⟩)
    · rcases List.mem_cons.mp (hperm.mem_iff.mp hfield) with rfl | hrest
      · exact hvalue
      · exact hfields field hrest

end Fields

/-! ## §2. What is read. -/

theorem number?_keyed {cs r : List Char} {v : Json} (h : number? cs = some (v, r)) : v.Keyed := by
  have hdigits : ∀ {negative whole places exponent},
      ofDigits? negative whole places exponent = some v → v.Keyed := by
    intro negative whole places exponent h
    unfold ofDigits? at h
    simp only at h
    split at h
    · cases h
      unfold integer
      split
      · split
        · exact .int _
        · exact .float _
      · exact .int _
    · obtain ⟨x, -, rfl⟩ := Option.map_eq_some_iff.mp h
      exact .float x
  have hunsigned : ∀ {negative cs}, unsigned? negative cs = some (v, r) → v.Keyed := by
    intro negative cs h
    obtain ⟨⟨whole, r₁⟩, -, h⟩ := Option.bind_eq_some_iff.mp h
    obtain ⟨⟨places, r₂⟩, -, h⟩ := Option.bind_eq_some_iff.mp h
    obtain ⟨⟨exponent, r₃⟩, -, h⟩ := Option.bind_eq_some_iff.mp h
    obtain ⟨w, hw, h⟩ := Option.bind_eq_some_iff.mp h
    cases h
    exact hdigits hw
  unfold number? at h
  split at h
  · exact hunsigned h
  · exact hunsigned h

/-- **Whatever is read has each of its keys once.** The three readers call each other
with one step less, so they are followed together. -/
theorem value?_keyed (n : Nat) :
    (∀ {cs v r}, value? n cs = some (v, r) → v.Keyed)
      ∧ (∀ {cs vs r}, items? n cs = some (vs, r) → ∀ item ∈ vs, item.Keyed)
      ∧ ∀ {cs fs r}, fields? n cs = some (fs, r) → (Json.object fs).Keyed := by
  induction n with
  | zero => exact ⟨nofun, nofun, nofun⟩
  | succ n ih =>
      obtain ⟨ihvalue, ihitems, ihfields⟩ := ih
      refine ⟨?_, ?_, ?_⟩
      · intro cs v r h
        unfold value? at h
        split at h
        next => cases h; exact .null
        next => cases h; exact .bool true
        next => cases h; exact .bool false
        next =>
          obtain ⟨⟨s, r'⟩, -, h⟩ := Option.map_eq_some_iff.mp h
          cases h
          exact .string s
        next =>
          split at h
          next =>
            cases h
            exact .array (fun item hitem => absurd hitem List.not_mem_nil)
          next =>
            obtain ⟨⟨vs, r'⟩, hvs, h⟩ := Option.map_eq_some_iff.mp h
            cases h
            exact .array (ihitems hvs)
        next =>
          split at h
          next =>
            cases h
            exact .object List.nodup_nil (fun field hfield => absurd hfield List.not_mem_nil)
          next =>
            obtain ⟨⟨fs, r'⟩, hfs, h⟩ := Option.map_eq_some_iff.mp h
            cases h
            exact ihfields hfs
        next => exact number?_keyed h
      · intro cs vs r h
        unfold items? at h
        split at h
        next => cases h
        next v r' hv =>
          have hfirst := ihvalue hv
          split at h
          next =>
            obtain ⟨⟨rest, r''⟩, hrest, h⟩ := Option.map_eq_some_iff.mp h
            cases h
            exact List.forall_mem_cons.mpr ⟨hfirst, ihitems hrest⟩
          next =>
            cases h
            exact List.forall_mem_singleton.mpr hfirst
          next => cases h
      · intro cs fs r h
        unfold fields? at h
        split at h
        next =>
          split at h
          next => cases h
          next k r' hk =>
            split at h
            next =>
              split at h
              next => cases h
              next v r'' hv =>
                have hfirst := ihvalue hv
                split at h
                next =>
                  obtain ⟨⟨rest, r''⟩, hrest, h⟩ := Option.map_eq_some_iff.mp h
                  cases h
                  exact addField_keyed hfirst (ihfields hrest)
                next =>
                  cases h
                  exact .object (List.nodup_cons.mpr ⟨List.not_mem_nil, List.nodup_nil⟩)
                    (List.forall_mem_singleton.mpr hfirst)
                next => cases h
            next => cases h
        next => cases h

/-- **What is read of any text** has each of its keys once. -/
theorem keyed_of_parse? {text : String} {v : Json} (h : parse? text = some v) : v.Keyed := by
  unfold parse? at h
  simp only at h
  split at h
  next v' r hv =>
    split at h
    next =>
      cases h
      exact (value?_keyed _).1 hv
    next => cases h
  next => cases h

end JitTarget.Json
