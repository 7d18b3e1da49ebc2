/-
  JitTarget.Proofs.Custody
  ────────────────────────────────
  **CUSTODY FOLLOWS THE SESSION.**

  Custody tells of each region an allocator has out under which name it is.
  After every step of a session the region is there, with its size, whatever
  was done to it meanwhile; and no two are under one name.
-/
import JitTarget.Proofs.Dealings

namespace JitTarget

namespace Custody

variable {c : Custody} {name : String}

/-! ## §1. Lists of holdings. -/

@[simp] theorem total_cons (h : Holding) (c : Custody) : total (h :: c) = h.size + total c := by
  simp [total]

@[simp] theorem length_forget (name : String) (c : Custody) :
    (c.forget name).length = c.length := by
  simp [forget]

@[simp] theorem total_forget (name : String) (c : Custody) :
    (c.forget name).total = c.total := by
  have hsize : ∀ h : Holding,
      Holding.size (if h.name = some name then { h with name := none } else h) = h.size := by
    intro h
    split <;> rfl
  simp only [total, forget, List.map_map, Function.comp_def, hsize]

/-- A region that is out still is after another was forgotten; the forgotten
one has no name. -/
theorem mem_forget {h : Holding} (hm : h ∈ c.forget name) :
    ∃ old ∈ c, old.size = h.size
      ∧ (h.name = none ∨ (h.name = old.name ∧ old.name ≠ some name)) := by
  simp only [forget, List.mem_map] at hm
  obtain ⟨old, hold, rfl⟩ := hm
  refine ⟨old, hold, ?_⟩
  split
  next => exact ⟨rfl, Or.inl rfl⟩
  next hne => exact ⟨rfl, Or.inr ⟨rfl, hne⟩⟩

/-- No two regions are under one name. -/
def Distinct (c : Custody) : Prop :=
  c.Pairwise (fun a b => ∀ n, a.name = some n → b.name ≠ some n)

theorem Distinct.forget (hd : c.Distinct) (name : String) : (c.forget name).Distinct := by
  refine List.pairwise_map.mpr (hd.imp ?_)
  intro a b hab n
  by_cases ha : a.name = some name
  · simp [ha]
  · by_cases hb : b.name = some name
    · simp [hb]
    · simpa [ha, hb] using hab n

/-- A region under a name that nothing is under any more. -/
theorem Distinct.cons_forget (hd : c.Distinct) (size : Nat) (name : String) :
    Distinct (⟨size, some name⟩ :: c.forget name) := by
  refine List.Pairwise.cons ?_ (hd.forget name)
  intro b hb n hn hbn
  obtain ⟨old, -, -, hnone | ⟨heq, hne⟩⟩ := mem_forget hb
  · rw [hnone] at hbn
    exact absurd hbn (by simp)
  · exact hne (heq.symm.trans (hbn.trans hn.symm))

/-- Taking back a region that is out splits the list around it. -/
theorem takeBack_split (h : c.holds name = true) :
    ∃ held front back, held.name = some name ∧ c = front ++ held :: back
      ∧ c.takeBack name = front ++ back := by
  simp only [holds, List.any_eq_true, beq_iff_eq] at h
  obtain ⟨held, hmem, hname⟩ := h
  obtain ⟨x, front, back, -, hx, hc, herase⟩ :=
    List.exists_of_eraseP (p := fun h : Holding => h.name == some name) hmem (by simp [hname])
  exact ⟨x, front, back, by simpa using hx, hc, herase⟩

/-- Taking back what is not out takes nothing. -/
theorem takeBack_of_not_holds (h : c.holds name = false) : c.takeBack name = c := by
  refine List.eraseP_of_forall_not ?_
  simpa [holds] using h

theorem Distinct.takeBack (hd : c.Distinct) (name : String) : (c.takeBack name).Distinct :=
  hd.sublist List.eraseP_sublist

/-- Once it is taken back, nothing is out under the name. -/
theorem Distinct.not_mem_takeBack (hd : c.Distinct) {h : Holding}
    (hm : h ∈ c.takeBack name) : h.name ≠ some name := by
  cases hh : c.holds name with
  | false =>
      rw [takeBack_of_not_holds hh] at hm
      simp only [holds, List.any_eq_false, beq_iff_eq] at hh
      exact hh h hm
  | true =>
      obtain ⟨held, front, back, hname, hc, htake⟩ := takeBack_split hh
      rw [htake] at hm
      unfold Distinct at hd
      rw [hc, List.pairwise_append] at hd
      -- the region taken back stood between two parts, and shares its name with neither
      obtain ⟨-, hback, hcross⟩ := hd
      rcases List.mem_append.mp hm with hf | hb
      · intro hn
        exact hcross h hf held List.mem_cons_self name hn hname
      · exact (List.pairwise_cons.mp hback).1 h hb name hname

end Custody

/-! ## §2. What is out is where custody says. -/

/-- Every region that is out under a name is there, and has its size. -/
structure Custody.Matches (c : Custody) (s : Session) : Prop where
  named : ∀ h ∈ c, ∀ n, h.name = some n →
    ∃ r, s.regions.get? n = some r ∧ r.size = h.size
  distinct : c.Distinct
  /-- No allocator hands out a region of no bytes. -/
  positive : ∀ h ∈ c, 0 < h.size

namespace Custody.Matches

variable {c : Custody} {s s' : Session} {name : String}

theorem nil (s : Session) : Custody.Matches [] s :=
  ⟨by simp, List.Pairwise.nil, by simp⟩

/-- Regions may change as long as they stay and keep their size. -/
theorem keep (h : c.Matches s)
    (hsize : ∀ n r, s.regions.get? n = some r →
      ∃ r', s'.regions.get? n = some r' ∧ r'.size = r.size) : c.Matches s' where
  named := by
    intro held hm n hn
    obtain ⟨r, hr, hs⟩ := h.named held hm n hn
    obtain ⟨r', hr', hs'⟩ := hsize n r hr
    exact ⟨r', hr', hs'.trans hs⟩
  distinct := h.distinct
  positive := h.positive

/-- A region under a name is gone: it is forgotten. -/
theorem forget (h : c.Matches s)
    (hgone : ∀ n, n ≠ name → s'.regions.get? n = s.regions.get? n) :
    (c.forget name).Matches s' where
  named := by
    intro held hm n hn
    obtain ⟨old, hold, hsize, hnone | ⟨heq, hne⟩⟩ := Custody.mem_forget hm
    · rw [hnone] at hn
      exact absurd hn (by simp)
    · have hname : old.name = some n := heq.symm.trans hn
      obtain ⟨r, hr, hs⟩ := h.named old hold n hname
      have hn' : n ≠ name := fun hcon => hne (hcon ▸ hname)
      exact ⟨r, (hgone n hn').trans hr, hs.trans hsize⟩
  distinct := h.distinct.forget name
  positive := by
    intro held hm
    obtain ⟨old, hold, hsize, -⟩ := Custody.mem_forget hm
    exact hsize ▸ h.positive old hold

/-- A region under a name is gone: it is taken back. -/
theorem takeBack (h : c.Matches s)
    (hgone : ∀ n, n ≠ name → s'.regions.get? n = s.regions.get? n) :
    (c.takeBack name).Matches s' where
  named := by
    intro held hm n hn
    obtain ⟨r, hr, hs⟩ := h.named held (List.mem_of_mem_eraseP hm) n hn
    have hn' : n ≠ name := by
      intro hcon
      exact h.distinct.not_mem_takeBack hm (hcon ▸ hn)
    exact ⟨r, (hgone n hn').trans hr, hs⟩
  distinct := h.distinct.takeBack name
  positive := fun held hm => h.positive held (List.mem_of_mem_eraseP hm)

/-- A region is put under a name, or could not be made. -/
theorem receive (h : c.Matches s) (counted : Bool) (made : Except CodeFault Region)
    (hstored : ∀ n, s'.regions.get? n
      = match made with
        | .ok r => if n == name then some r else s.regions.get? n
        | .error _ => s.regions.get? n)
    (hok : counted = true → ∀ r, made = .ok r → 0 < r.size)
    (hout : counted = true → ∀ size, made = .error (.unknownRegion size) → 0 < size) :
    (c.receive counted name made).Matches s' := by
  cases made with
  | error fault =>
      -- nothing was stored; a region that is out for good has no name
      have hkeep : c.Matches s' := h.keep (fun n r hr => ⟨r, (hstored n).trans hr, rfl⟩)
      unfold Custody.receive
      split
      next heq => exact absurd heq (by simp)
      next size heq =>
        split
        next hc =>
          refine ⟨?_, List.Pairwise.cons ?_ hkeep.distinct, ?_⟩
          · intro held hm n hn
            rcases List.mem_cons.mp hm with rfl | hm
            · exact absurd hn (by simp)
            · exact hkeep.named held hm n hn
          · intro b _ n hn
            exact absurd hn (by simp)
          · intro held hm
            rcases List.mem_cons.mp hm with rfl | hm
            · exact hout hc size heq
            · exact hkeep.positive held hm
        next => exact hkeep
      next => exact hkeep
  | ok r =>
      have hgone : ∀ n, n ≠ name → s'.regions.get? n = s.regions.get? n := by
        intro n hn
        have hs := hstored n
        rw [beq_false_of_ne hn] at hs
        exact hs
      -- whatever was under the name is gone, and the new region is there instead
      have hforget := h.forget hgone
      show Custody.Matches
        (if counted then ⟨r.size, some name⟩ :: c.forget name else c.forget name) s'
      split
      next hc =>
        refine ⟨?_, h.distinct.cons_forget r.size name, ?_⟩
        · intro held hm n hn
          rcases List.mem_cons.mp hm with rfl | hm
          · have hname : n = name := (Option.some.inj hn).symm
            subst hname
            exact ⟨r, by simpa using hstored n, rfl⟩
          · exact hforget.named held hm n hn
        · intro held hm
          rcases List.mem_cons.mp hm with rfl | hm
          · exact hok hc r rfl
          · exact hforget.positive held hm
      next => exact hforget

end Custody.Matches

/-! ## §3. Custody follows the session. -/

namespace Session

variable (s : Session)

/-- An allocation by an allocator that is refused is refused for another cause
than an unknown region, and one that is granted has bytes. -/
private theorem allocate_fst (os : Platform) (size : Nat) (l : Ledger) :
    (∀ r, (l.allocate os size).1 = .ok r → 0 < r.size)
      ∧ ∀ n, (l.allocate os size).1 ≠ .error (.unknownRegion n) := by
  rcases Ledger.allocate_cases os size l with ⟨fault, heq, hne⟩ | ⟨hpos, heq⟩ <;> rw [heq]
  · exact ⟨fun r => nofun, fun n h => hne.ne_unknownRegion n (Except.error.inj h)⟩
  · exact ⟨fun r h => (Except.ok.inj h) ▸ hpos, fun n => nofun⟩

/-- A counted installation has bytes, whatever comes of it. -/
private theorem install_fst {e : Environment} (hc : e.allocator.counts = true) (os : Platform)
    (code : Array UInt8) (l : Ledger) :
    (∀ r, (e.install os code l).1 = .ok r → 0 < r.size)
      ∧ ∀ n, (e.install os code l).1 = .error (.unknownRegion n) → 0 < n := by
  have h := e.installing os code hc l
  generalize e.install os code l = made at h ⊢
  generalize Ledger.allocated _ = counted at h
  generalize Ledger.refused _ = denied at h
  cases h with
  | denied hne =>
      exact ⟨fun r => nofun, fun n h => absurd (Except.error.inj h) (hne.ne_unknownRegion n)⟩
  | filled hpos => exact ⟨fun r h => (Except.ok.inj h) ▸ hpos, fun n => nofun⟩
  | undone _ hne =>
      exact ⟨fun r => nofun, fun n h => absurd (Except.error.inj h) (hne.ne_unknownRegion n)⟩
  | stuck hpos =>
      refine ⟨fun r => nofun, fun n h => ?_⟩
      injection h with h
      injection h with h
      exact h ▸ hpos

/-- **Custody follows every step.** -/
theorem step_matches {c : Custody} (h : c.Matches s) (i : Nat) (os : Platform) (a : Action) :
    (s.custody i os a c).Matches (s.step os a).2 := by
  rw [← step_plain]
  cases hp : s.plain a with
  | allocate region j size =>
      have hc : s.custody i os a c
          = c.receive (j == i) region ((s.ledger j).allocate os size).1 := by
        simp only [custody, hp]
      obtain ⟨hok, hout⟩ := allocate_fst os size (s.ledger j)
      rw [hc]
      exact h.receive _ _ (s.get?_storing region j _) (fun _ => hok)
        (fun _ n hn => absurd hn (hout n))
  | map region size =>
      have hc : s.custody i os a c = c.receive false region (Region.map os size) := by
        simp only [custody, hp]
      rw [hc, s.step_map os region size i]
      exact h.receive _ _ (s.get?_storing region i _) nofun nofun
  | release region j =>
      -- the region is gone from its name whether it was accepted or not
      have hgone : ∀ n, n ≠ region →
          (s.step os (.release region j)).2.regions.get? n = s.regions.get? n := by
        intro n hn
        show (s.releasing region j).2.regions.get? n = _
        rw [get?_releasing, beq_false_of_ne hn]
        rfl
      simp only [custody, hp]
      cases hr : s.regions.get? region with
      | none =>
          have hsame : (s.step os (.release region j)).2 = s := by
            simp only [step, releasing, hr]
          rw [hsame]
          exact h
      | some r =>
          simp only
          split
          · split
            · exact h.takeBack hgone
            · exact h.forget hgone
          · exact h.forget hgone
  | drop region =>
      have hc : s.custody i os a c = c.forget region := by simp only [custody, hp]
      rw [hc]
      refine h.forget (fun n hn => ?_)
      rw [get?_drop, beq_false_of_ne hn]
      rfl
  | install env region code =>
      show Custody.Matches _ (s.within env _).2
      unfold within
      cases ht : s.tenants.get? env with
      | none =>
          simp only [custody, hp, ht]
          exact h
      | some t =>
          have hc : s.custody i os a c
              = c.receive (t.ledger == i && t.environment.allocator.counts) region
                (t.environment.install os code (s.ledger t.ledger)).1 := by
            simp only [custody, hp, ht]
          rw [hc]
          refine h.receive _ _ (s.get?_storing region t.ledger _) (fun hk => ?_) (fun hk => ?_)
          · exact (install_fst (Bool.and_eq_true_iff.mp hk).2 os code _).1
          · exact (install_fst (Bool.and_eq_true_iff.mp hk).2 os code _).2
  | envAllocate env region size =>
      rw [← hp, s.step_plain_env os (Or.inl ⟨env, region, size, hp⟩)]
      simp only [custody, hp]
      exact h
  | envRelease env region =>
      rw [← hp, s.step_plain_env os (Or.inr ⟨env, region, hp⟩)]
      simp only [custody, hp]
      exact h
  | _ =>
      simp only [custody, hp]
      exact h.keep (s.step_stays os rfl).sizes

end Session

end JitTarget
