/-
  JitTarget.Proofs.Installation
  ────────────────────────────────
  **AN INSTALLATION IS ALL OR NOTHING.**

  Installing code is an allocation, a write, a change of protection and, where one of
  these fails, a release.  The region is new, so the write always fits; the counters
  have just counted it, so the release always succeeds, whatever they were before.
  What remains is one cause for each way to fail:

      install_law            — what an installation returns, and the counters it leaves
      run_regions_le         — no allocator counts more regions than there were calls
      install_all_or_nothing — an installation after every run of a session
-/
import JitTarget.Proofs.Contents
import JitTarget.Proofs.ForeignCalls

namespace JitTarget

/-! ## §1. The region that is installed. -/

/-- A region that holds code: executable, and nothing left to synchronize. -/
def Region.holding (code : Array UInt8) : Region where
  phase := .executable
  size := code.size
  memory := Memory.overwrite (fun _ => 0) 0 code
  dirty := none

/-- It shows the code and nothing else. -/
theorem Region.bytes_holding (code : Array UInt8) :
    (holding code).bytes = .ok code.toList := by
  rw [bytes_of_ne_lost (r := holding code) nofun]
  refine congrArg Except.ok (List.ext_getElem (by simp [holding]) ?_)
  intro i h₁ h₂
  have hi : i < code.size := by simpa using h₂
  rw [List.getElem_map, List.getElem_range]
  show Memory.overwrite (fun _ => 0) 0 code i = _
  rw [Memory.overwrite_apply, if_pos (Nat.zero_le i), Nat.sub_zero, Array.getElem?_eq_getElem hi]
  simp

/-- Counters that have counted a region within an address can discount it. -/
theorem Ledger.release_counted {l : Ledger} {size : Nat} (hregions : l.regions + 1 < 2 ^ 64)
    (hbytes : l.bytes + size < 2 ^ 64) :
    ((l.countRegion).countBytes size).release size = (.ok (), l) := by
  have hcounted : (l.countRegion).countBytes size = ⟨l.regions + 1, l.bytes + size⟩ := by
    simp only [countRegion, countBytes, wrap_of_lt hregions, wrap_of_lt hbytes]
  rw [hcounted, release_eq _ _ hregions, if_neg]
  · simp only [Nat.add_sub_cancel]
  · simp only
    omega

namespace Environment

variable (e : Environment) (os : Platform) (code : Array UInt8)

/-! ## §2. Why an installation fails. -/

/-- Why a new region does not become executable, if it does not. -/
def fillFault? : Option CodeFault :=
  if e.profile.family = Profile.native.family then
    os.protectRefusal.map (CodeFault.notProtected .executable)
  else some (.foreignTarget e.profile.family Profile.native.family)

/-- **Why an installation fails**, if it does: the first cause in the order of what
it does. -/
def installFault? : Option CodeFault :=
  if code.size = 0 then some .emptyRegion
  else
    match os.mapRefusal code.size with
    | some cause => some (.notMapped code.size cause)
    | none => e.fillFault? os

/-- Nothing keeps an installation from succeeding. -/
theorem installFault?_eq_none_iff :
    e.installFault? os code = none
      ↔ code.size ≠ 0 ∧ os.mapRefusal code.size = none ∧ os.protectRefusal = none
        ∧ e.profile.family = Profile.native.family := by
  unfold installFault? fillFault?
  by_cases hz : code.size = 0
  · simp [hz]
  · cases os.mapRefusal code.size with
    | some cause => simp [hz]
    | none => by_cases hf : e.profile.family = Profile.native.family <;> simp [hz, hf]

/-- No allocator has a part in these causes. -/
theorem installFault?_ne_unknownRegion (n : Nat) :
    e.installFault? os code ≠ some (.unknownRegion n) := by
  unfold installFault? fillFault?
  split
  next => exact nofun
  split
  next => exact nofun
  split
  next => cases os.protectRefusal <;> exact nofun
  next => exact nofun

/-- **A new region is filled**, or there is a cause. -/
theorem fill_fresh :
    e.fill os code (Region.fresh code.size)
      = match e.fillFault? os with
        | none => .ok (Region.holding code)
        | some fault => .error fault := by
  -- the write fits, so the change of protection decides
  have hwrite := (Region.write_eq_ok_iff (Region.fresh code.size) _ 0 code).mpr
    ⟨rfl, Nat.le_of_eq (Nat.zero_add code.size), rfl⟩
  unfold fill fillFault?
  rw [hwrite]
  simp only [Region.makeExecutable, Region.makeExecutableWith]
  by_cases hf : e.profile.family = Profile.native.family
  · have hnative := (e.profile.ensureNative_eq_ok_iff).mpr ⟨e.supported, hf⟩
    rw [hnative, if_pos hf]
    simp only [Region.fresh, Region.synchronizeDirty, Profile.synchronize_eq_ensureNative,
      hnative]
    cases os.protectRefusal <;> rfl
  · rw [Profile.ensureNative_of_foreign e.supported hf, if_neg hf]

variable {e}

/-! ## §3. Installing. -/

/-- **An installation** by the standard allocator fails before anything is counted,
or succeeds, or fails with a region to release. -/
theorem install_law (hstandard : e.allocator = {}) (l : Ledger) :
    (∃ fault, e.installFault? os code = some fault
        ∧ e.install os code l = (.error fault, l))
      ∨ (e.installFault? os code = none
        ∧ e.install os code l
          = (.ok (Region.holding code), (l.countRegion).countBytes code.size))
      ∨ ∃ fault, e.installFault? os code = some fault
        ∧ e.install os code l
          = match ((l.countRegion).countBytes code.size).release code.size with
            | (.ok (), l) => (.error fault, l)
            | (.error unsettled, l) => (.error unsettled, l) := by
  have hallocate : e.allocator.allocate os code.size l = l.allocate os code.size := by
    rw [hstandard]
    rfl
  unfold install installFault?
  rw [hallocate]
  unfold Ledger.allocate Region.map
  by_cases hz : code.size = 0
  · rw [if_pos hz, if_pos hz]
    exact Or.inl ⟨.emptyRegion, rfl, rfl⟩
  · rw [if_neg hz, if_neg hz]
    cases os.mapRefusal code.size with
    | some cause => exact Or.inl ⟨.notMapped code.size cause, rfl, rfl⟩
    | none =>
        simp only [e.fill_fresh os code]
        cases e.fillFault? os with
        | none => exact Or.inr (Or.inl ⟨rfl, rfl⟩)
        | some fault => exact Or.inr (Or.inr ⟨fault, rfl, rfl⟩)

/-- Without a cause to fail the code is installed, and counted. -/
theorem install_of_none (hstandard : e.allocator = {}) (l : Ledger)
    (h : e.installFault? os code = none) :
    e.install os code l
      = (.ok (Region.holding code), (l.countRegion).countBytes code.size) := by
  rcases install_law os code hstandard l with ⟨fault, hf, -⟩ | ⟨-, heq⟩ | ⟨fault, hf, -⟩
  · exact absurd (h.symm.trans hf) nofun
  · exact heq
  · exact absurd (h.symm.trans hf) nofun

/-- With a cause to fail nothing is installed. -/
theorem install_fst_of_some (hstandard : e.allocator = {}) (l : Ledger) {fault : CodeFault}
    (h : e.installFault? os code = some fault) :
    ∃ refused, (e.install os code l).1 = .error refused := by
  rcases install_law os code hstandard l with ⟨fault, -, heq⟩ | ⟨hnone, -⟩ | ⟨fault, -, heq⟩
  · exact ⟨fault, congrArg Prod.fst heq⟩
  · exact absurd (h.symm.trans hnone) nofun
  · rw [heq]
    split
    next => exact ⟨fault, rfl⟩
    next unsettled _ _ => exact ⟨unsettled, rfl⟩

/-- **With a cause to fail that is what is reported**, and the counters are as they
were. -/
theorem install_of_some (hstandard : e.allocator = {}) {l : Ledger}
    (hregions : l.regions + 1 < 2 ^ 64) (hbytes : l.bytes + code.size < 2 ^ 64)
    {fault : CodeFault} (h : e.installFault? os code = some fault) :
    e.install os code l = (.error fault, l) := by
  rcases install_law os code hstandard l with ⟨fault', hf, heq⟩ | ⟨hnone, -⟩ | ⟨fault', hf, heq⟩
  · obtain rfl : fault = fault' := Option.some.inj (h.symm.trans hf)
    exact heq
  · exact absurd (h.symm.trans hnone) nofun
  · obtain rfl : fault = fault' := Option.some.inj (h.symm.trans hf)
    rw [heq, Ledger.release_counted hregions hbytes]

end Environment

/-! ## §4. How many regions are counted. -/

namespace Ledger

/-- Whether a call asks for a region. -/
def Call.allocates : Call → Bool
  | .allocate .. => true
  | .release _ => false

/-- A release counts no more regions, accepted or not. -/
theorem regions_release_le (l : Ledger) (size : Nat) :
    (l.release size).2.regions ≤ l.regions := by
  unfold release discountRegion?
  by_cases hr : l.regions = 0
  · simp only [if_pos hr, Nat.le_refl]
  · rw [if_neg hr]
    by_cases hb : l.bytes < size
    · simp only [discountBytes?, hb, if_true, countRegion,
        Nat.sub_add_cancel (Nat.pos_of_ne_zero hr)]
      exact Nat.mod_le _ _
    · simp only [discountBytes?, hb, if_false]
      exact Nat.sub_le _ _

/-- An allocation counts one more region at most. -/
theorem regions_allocate_le (os : Platform) (l : Ledger) (size : Nat) :
    (l.allocate os size).2.regions ≤ l.regions + 1 := by
  rcases allocate_cases os size l with ⟨fault, heq, -⟩ | ⟨-, heq⟩ <;> rw [heq]
  · exact Nat.le_succ _
  · exact Nat.mod_le _ _

/-- Calls count no more regions than they ask for. -/
theorem regions_serveAll_le (l : Ledger) (calls : List Call) :
    (l.serveAll calls).regions ≤ l.regions + calls.countP Call.allocates := by
  induction calls generalizing l with
  | nil => exact Nat.le_refl _
  | cons call rest ih =>
      have hrest := ih (l.serve call).2
      show ((l.serve call).2.serveAll rest).regions ≤ _
      rw [List.countP_cons]
      cases call with
      | allocate os size =>
          have hcall : (l.serve (.allocate os size)).2.regions ≤ l.regions + 1 :=
            l.regions_allocate_le os size
          simp only [Call.allocates, if_true]
          omega
      | release region =>
          have hcall : (l.serve (.release region)).2.regions ≤ l.regions :=
            l.regions_release_le region.size
          simp only [Call.allocates, Bool.false_eq_true, if_false]
          omega

end Ledger

/-- An installation asks for one region at most. -/
theorem Environment.countP_dealings_le (e : Environment) (os : Platform) (code : Array UInt8)
    (l : Ledger) : (e.dealings os code l).countP Ledger.Call.allocates ≤ 1 := by
  unfold dealings
  rw [List.countP_append]
  have hfirst : List.countP Ledger.Call.allocates
      (if e.allocator.counts then [.allocate os (code.size - e.allocator.shrink)] else [])
        ≤ 1 := by
    split
    next => exact Nat.le_refl 1
    next => exact Nat.zero_le 1
  refine Nat.add_le_add hfirst (show _ ≤ 0 from Nat.le_of_eq ?_)
  -- what follows the allocation is a release, if anything
  split
  next => rfl
  next => split <;> rfl

namespace Session

variable (s : Session)

/-- A step asks an allocator for one region at most. -/
theorem countP_dealings_le (i : Nat) (os : Platform) (a : Action) :
    (s.dealings i os a).countP Ledger.Call.allocates ≤ 1 := by
  unfold dealings
  cases s.plain a with
  | allocate region j size =>
      simp only
      split
      next => exact Nat.le_refl 1
      next => exact Nat.zero_le 1
  | release region j =>
      simp only
      split
      next => cases s.regions.get? region <;> exact Nat.zero_le 1
      next => exact Nat.zero_le 1
  | install env region code =>
      simp only
      cases s.tenants.get? env with
      | none => exact Nat.zero_le 1
      | some t =>
          simp only
          split
          next => exact t.environment.countP_dealings_le os code _
          next => exact Nat.zero_le 1
  | _ => exact Nat.zero_le 1

/-- One call counts one more region at most. -/
theorem step_regions_le (i : Nat) (os : Platform) (a : Action) :
    ((s.step os a).2.ledger i).regions ≤ (s.ledger i).regions + 1 := by
  by_cases hi : i < s.ledgers.length
  · have hcalls := (s.ledger i).regions_serveAll_le (s.dealings i os a)
    have hone := s.countP_dealings_le i os a
    rw [step_ledger s hi]
    omega
  · rw [s.step_ledger_of_le (Nat.le_of_not_lt hi)]
    exact Nat.zero_le _

/-- **No allocator counts more regions than there were calls.** -/
theorem run_regions_le (i : Nat) (steps : List (Platform × Action)) :
    ((s.run steps).2.ledger i).regions ≤ (s.ledger i).regions + steps.length := by
  induction steps generalizing s with
  | nil => exact Nat.le_refl _
  | cons first rest ih =>
      have hfirst := s.step_regions_le i first.1 first.2
      have hrest := ih (s.step first.1 first.2).2
      show (((s.step first.1 first.2).2.run rest).2.ledger i).regions ≤ _
      rw [List.length_cons]
      omega

/-! ## §5. Installations in a session. -/

/-- A call that installs stores what the installation returns. -/
theorem step_install (os : Platform) {env : String} {t : Tenant} {code : Array UInt8}
    (ht : s.tenants.get? env = some t) (region : String) :
    s.step os (.install env region code)
      = s.storing region t.ledger (t.environment.install os code (s.ledger t.ledger)) := by
  simp only [step, within, ht]

/-- **INSTALLING IS ALL OR NOTHING.**  After every run of a session, and whatever was
released to the allocator before, code is installed exactly when there is some, the
memory is granted, the protection is changed and the environment is for this
machine.  Then there is an executable region of exactly these bytes with nothing left
to synchronize, and one region and its bytes are counted; otherwise the cause is
reported and nothing at all has changed.  The last part asks that the count has room
for one more region; no more are counted than calls were made, so it has, short of as
many calls as there are addresses. -/
theorem install_all_or_nothing (allocators : Nat) (override : Option String)
    (steps : List (Platform × Action)) (os : Platform) {env : String} {t : Tenant}
    (region : String) (code : Array UInt8)
    (ht : ((start allocators override).run steps).2.tenants.get? env = some t)
    (hstandard : t.environment.allocator = {})
    (hi : t.ledger < ((start allocators override).run steps).2.ledgers.length)
    (hbytes : (((start allocators override).run steps).2.ledger t.ledger).bytes + code.size
      < 2 ^ 64) :
    let before := ((start allocators override).run steps).2
    let l := before.ledger t.ledger
    let result := before.step os (.install env region code)
    (result.1 = .ok .done
        ↔ code.size ≠ 0 ∧ os.mapRefusal code.size = none ∧ os.protectRefusal = none
          ∧ t.environment.profile.family = Profile.native.family)
      ∧ (result.1 = .ok .done →
          ∃ r, result.2.regions.get? region = some r
            ∧ r.phase = .executable ∧ r.length = code.size ∧ r.size = code.size
            ∧ r.bytes = .ok code.toList ∧ r.dirty = none)
      ∧ l.regions ≤ steps.length
      ∧ (l.regions + 1 < 2 ^ 64 →
          (result.1 = .ok .done →
              result.2.ledger t.ledger = ⟨l.regions + 1, l.bytes + code.size⟩)
          ∧ (result.1 ≠ .ok .done →
              ∃ fault, t.environment.installFault? os code = some fault
                ∧ (∀ n, fault ≠ .unknownRegion n)
                ∧ result = (.error (.code fault), before))) := by
  intro before l result
  have hresult : result
      = before.storing region t.ledger (t.environment.install os code l) :=
    before.step_install os ht region
  have hcount : l.regions ≤ steps.length := by
    have hrun := (start allocators override).run_regions_le t.ledger steps
    rw [ledger_start] at hrun
    show (((start allocators override).run steps).2.ledger t.ledger).regions ≤ _
    have hnone : Ledger.empty.regions = 0 := rfl
    omega
  rw [← Environment.installFault?_eq_none_iff]
  cases hfault : t.environment.installFault? os code with
  | none =>
      have hinstall := Environment.install_of_none os code hstandard l hfault
      have hdone : result.1 = .ok .done := by
        rw [hresult, hinstall]
        rfl
      refine ⟨iff_of_true hdone rfl, fun _ => ?_, hcount, fun hregions => ⟨fun _ => ?_, ?_⟩⟩
      · refine ⟨Region.holding code, ?_, rfl, rfl, rfl, Region.bytes_holding code, rfl⟩
        rw [hresult, get?_storing, hinstall]
        simp
      · rw [hresult, ledger_storing before hi, if_pos rfl, hinstall]
        have hsum : Ledger.wrap (l.bytes + code.size) = l.bytes + code.size :=
          Ledger.wrap_of_lt hbytes
        simp only [Ledger.countRegion, Ledger.countBytes, Ledger.wrap_of_lt hregions, hsum]
      · exact fun hfails => absurd hdone hfails
  | some fault =>
      obtain ⟨refused, hrefused⟩ :=
        Environment.install_fst_of_some os code hstandard l hfault
      have hfails : result.1 = .error (.code refused) := by
        rw [hresult]
        unfold storing
        rw [hrefused]
      have hnot : ¬ result.1 = .ok .done := by
        intro hdone
        cases hfails.symm.trans hdone
      refine ⟨iff_of_false hnot (Option.some_ne_none fault), fun hdone => absurd hdone hnot, hcount,
        fun hregions => ⟨fun hdone => absurd hdone hnot, fun _ => ⟨fault, rfl, ?_, ?_⟩⟩⟩
      · rintro n rfl
        exact t.environment.installFault?_ne_unknownRegion os code n hfault
      · have hinstall := Environment.install_of_some os code hstandard hregions hbytes hfault
        have hstep := before.step_install_error ht hinstall region
        show before.step os (.install env region code) = _
        rw [hstep, withLedger_self]

/-- A stray that was taken back left the counters short of what is out.  Code is
installed and counted all the same, and where the protection is refused that is what
is reported. -/
theorem install_all_or_nothing_short :
    let steps : List (Platform × Action) :=
      [(.standard, .allocate "own" 0 16), (.standard, .map "stray" 8),
        (.standard, .release "stray" 0), (.standard, .create "env" Profile.native {} 0)]
    let before := ((start 1 none).run steps).2
    let call : Action := .install "env" "code" #[0x90, 0xC3]
    (∃ t, before.tenants.get? "env" = some t ∧ t.environment.allocator = {}
        ∧ t.ledger < before.ledgers.length
        ∧ (before.ledger t.ledger).bytes + 2 < 2 ^ 64)
      ∧ before.ledger 0 = ⟨0, 8⟩
      ∧ (before.step .standard call).1 = .ok .done
      ∧ (before.step .standard call).2.ledger 0 = ⟨1, 10⟩
      ∧ before.step .guarded call
        = (.error (.code (.notProtected .executable .noMemory)), before) := by
  intro steps before call
  let t : Tenant := ⟨⟨Profile.native, {}, rfl⟩, 0⟩
  have ht : before.tenants.get? "env" = some t := rfl
  have hledger : before.ledger 0 = ⟨0, 8⟩ := rfl
  have hone : (before.ledger 0).regions + 1 < 2 ^ 64 := by rw [hledger]; decide
  have hbytes : (before.ledger 0).bytes + 2 < 2 ^ 64 := by rw [hledger]; decide
  obtain ⟨hok, -, -, hcounted⟩ :=
    install_all_or_nothing 1 none steps .standard "code" #[0x90, 0xC3] ht rfl (by decide) hbytes
  have hdone := hok.mpr ⟨by decide, rfl, rfl, rfl⟩
  obtain ⟨hnot, -, -, hrefused⟩ :=
    install_all_or_nothing 1 none steps .guarded "code" #[0x90, 0xC3] ht rfl (by decide) hbytes
  obtain ⟨fault, hfault, -, hstep⟩ := (hrefused hone).2 (fun h => nomatch (hnot.mp h).2.2.1)
  obtain rfl : fault = .notProtected .executable .noMemory := (Option.some.inj hfault).symm
  exact ⟨⟨t, ht, rfl, by decide, hbytes⟩, hledger, hdone, (hcounted hone).1 hdone, hstep⟩

end Session

end JitTarget
