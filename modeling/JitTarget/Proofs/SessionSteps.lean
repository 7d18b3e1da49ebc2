/-
  JitTarget.Proofs.SessionSteps
  ────────────────────────────────
  **WHAT ONE CALL OF A SESSION DOES TO REGIONS AND COUNTERS.**

  Every call of a session is put together from a few moves: storing a region
  that was made, taking one out and releasing it, calling one, looking at one.
  Each move has two laws, one for the region under any name and one for the
  counters of any allocator.
-/
import JitTarget.Code.Custody
import JitTarget.Proofs.LedgerBalance
import JitTarget.Proofs.RegionSteps

namespace JitTarget

namespace Profile

/-! ## §1. The gate. -/

/-- A profile passes exactly when it has facts and is for this machine. -/
theorem ensureNative_eq_ok_iff (p : Profile) :
    p.ensureNative = .ok () ↔ p.isSupported = true ∧ p.family = native.family := by
  obtain ⟨family, facts⟩ := p
  cases facts with
  | none => simp [ensureNative, ensureSupported, require, isSupported, Except.map]
  | some f => simp [ensureNative, ensureSupported, require, isSupported, Except.map]

/-- Why a profile does not pass. -/
theorem ensureNative_error {p : Profile} {fault : CodeFault}
    (h : p.ensureNative = .error fault) :
    (p.isSupported = false ∧ ∃ cause, fault = .unsupported cause)
      ∨ (p.isSupported = true ∧ p.family ≠ native.family
          ∧ fault = .foreignTarget p.family native.family) := by
  obtain ⟨family, facts⟩ := p
  cases facts with
  | none =>
      simp only [ensureNative, ensureSupported, require, Except.map, Except.error.injEq] at h
      exact Or.inl ⟨rfl, _, h.symm⟩
  | some f =>
      simp only [ensureNative, ensureSupported, require, Except.map] at h
      split at h
      next => exact absurd h (by simp)
      next hne => exact Or.inr ⟨rfl, hne, (Except.error.inj h).symm⟩

/-- A profile without facts is refused as such, whatever its family. -/
theorem ensureNative_of_unsupported {p : Profile} (h : p.isSupported = false) :
    p.ensureNative = .error (.unsupported ⟨"target profile"⟩) := by
  obtain ⟨family, facts⟩ := p
  cases facts with
  | none => rfl
  | some f => exact absurd h nofun

/-- A profile with facts is refused for its family. -/
theorem ensureNative_of_foreign {p : Profile} (h : p.isSupported = true)
    (hforeign : p.family ≠ native.family) :
    p.ensureNative = .error (.foreignTarget p.family native.family) := by
  obtain ⟨family, facts⟩ := p
  cases facts with
  | none => exact absurd h nofun
  | some f =>
      show (if family = native.family then _ else _) = _
      rw [if_neg hforeign]

/-- **Synchronizing is passing the gate**: this machine's flush never fails. -/
theorem synchronize_eq_ensureNative (p : Profile) (span : Span) :
    p.synchronize span = p.ensureNative := by
  unfold synchronize
  cases h : p.ensureNative with
  | error fault => rfl
  | ok u =>
      obtain ⟨hs, -⟩ := (ensureNative_eq_ok_iff p).mp h
      obtain ⟨family, facts⟩ := p
      cases facts with
      | none => exact absurd hs (by simp [isSupported])
      | some f =>
          show (synchronizeWith ⟨family, some f⟩ span hostFlush).result = .ok ()
          simp only [synchronizeWith, cacheModel, require, Except.map]
          cases f.cacheModel with
          | unified => rfl
          | split => cases span.isEmpty <;> rfl

end Profile

/-- For this machine's code, synchronizing what was noted succeeds. -/
theorem Region.synchronizeDirty_of_native (r : Region) {p : Profile}
    (h : p.ensureNative = .ok ()) : r.synchronizeDirty Profile.synchronize p = .ok () := by
  unfold synchronizeDirty
  cases r.dirty with
  | none => rfl
  | some span => exact (p.synchronize_eq_ensureNative span).trans h

/-- Why a region does not become executable. -/
theorem Region.makeExecutable_error {os : Platform} {r : Region} {p : Profile}
    {fault : CodeFault} (h : (r.makeExecutable os p).1 = .error fault) :
    p.ensureNative = .error fault ∨ fault = .lostMapping
      ∨ ∃ cause, fault = .notProtected .executable cause := by
  unfold makeExecutable at h
  rcases r.makeExecutableWith_cases Profile.synchronize os p with
    ⟨refused, heq, hwhy⟩ | ⟨-, -, heq⟩ | ⟨-, -, -, ⟨cause, -, heq⟩ | heq⟩ <;> rw [heq] at h
  · obtain rfl := Except.error.inj h
    rcases hwhy with hgate | ⟨hn, hlost | hsync⟩
    · exact Or.inl hgate
    · exact Or.inr (Or.inl hlost)
    · exact absurd (hsync.symm.trans (r.synchronizeDirty_of_native hn)) nofun
  · exact absurd h nofun
  · exact Or.inr (Or.inr ⟨cause, (Except.error.inj h).symm⟩)
  · exact absurd h nofun

namespace Environment

variable (e : Environment) (os : Platform) (code : Array UInt8)

/-! ## §2. Installing. -/

/-- Filling a region makes it executable, for this machine, and keeps its size. -/
theorem fill_ok {r r' : Region} (h : e.fill os code r = .ok r') :
    e.profile.ensureNative = .ok () ∧ r'.size = r.size := by
  unfold fill at h
  cases hw : r.write 0 code with
  | error fault => simp [hw] at h
  | ok written =>
      obtain ⟨-, -, rfl⟩ := (Region.write_eq_ok_iff r written 0 code).mp hw
      simp only [hw, Region.makeExecutable] at h
      rcases Region.makeExecutableWith_cases Profile.synchronize os _ e.profile with
        ⟨fault, heq, -⟩ | ⟨hn, -, heq⟩ | ⟨hn, -, -, ⟨cause, -, heq⟩ | heq⟩ <;> rw [heq] at h
      · exact absurd h (by simp)
      · exact ⟨hn, by rw [← Except.ok.inj h]⟩
      · exact absurd h (by simp)
      · exact ⟨hn, by rw [← Except.ok.inj h]⟩

/-- The gate of an environment never lacks facts. -/
theorem ensureNative_ordinary {fault : CodeFault}
    (h : e.profile.ensureNative = .error fault) : fault.Ordinary := by
  rcases Profile.ensureNative_error h with ⟨hs, -⟩ | ⟨-, -, rfl⟩
  · exact absurd (hs.symm.trans e.supported) (by decide)
  · exact ⟨fun n => nofun, fun cause => nofun⟩

/-- An environment fails to make a region executable for ordinary causes. -/
theorem makeExecutable_ordinary {r : Region} {fault : CodeFault}
    (h : (r.makeExecutable os e.profile).1 = .error fault) : fault.Ordinary := by
  rcases Region.makeExecutable_error h with hn | rfl | ⟨cause, rfl⟩
  · exact e.ensureNative_ordinary hn
  · exact ⟨fun n => nofun, fun cause => nofun⟩
  · exact ⟨fun n => nofun, fun cause => nofun⟩

/-- Filling a region fails for ordinary causes. -/
theorem fill_error {r : Region} {fault : CodeFault} (h : e.fill os code r = .error fault) :
    fault.Ordinary := by
  unfold fill at h
  cases hw : r.write 0 code with
  | error refused =>
      simp only [hw, Except.error.injEq] at h
      subst h
      rcases Region.write_error hw with rfl | rfl | ⟨start, stop, length, rfl⟩ <;>
        exact ⟨fun n => nofun, fun cause => nofun⟩
  | ok written =>
      simp only [hw] at h
      split at h
      next => exact absurd h (by simp)
      next refused r' heq =>
        obtain rfl := Except.error.inj h
        exact e.makeExecutable_ordinary os (congrArg Prod.fst heq)

/-- What an allocator hands out, with its counters, or why it does not. -/
theorem allocate_cases (a : Allocator) (size : Nat) (l : Ledger) :
    (∃ fault, a.allocate os size l = (.error fault, l) ∧ fault.Ordinary)
      ∨ (a.counts = true → 0 < size - a.shrink)
        ∧ a.allocate os size l
          = (.ok (Region.fresh (size - a.shrink)),
              if a.counts then ⟨Ledger.wrap (l.regions + 1),
                Ledger.wrap (l.bytes + (size - a.shrink))⟩ else l) := by
  unfold Allocator.allocate
  cases a.counts with
  | true =>
      -- the allocator's own ledger decides
      rcases Ledger.allocate_cases os (size - a.shrink) l with
        ⟨fault, heq, hne⟩ | ⟨hpos, heq⟩
      · exact Or.inl ⟨fault, heq, hne⟩
      · exact Or.inr ⟨fun _ => hpos, heq⟩
  | false =>
      simp only [Region.map, Bool.false_eq_true, if_false]
      cases os.mapRefusal (size - a.shrink) with
      | some cause =>
          exact Or.inl ⟨.notMapped _ cause, rfl, fun n => nofun, fun cause => nofun⟩
      | none => exact Or.inr ⟨nofun, rfl⟩

/-- **An installation** gets no region, or fills the one it got, or releases it
again. -/
theorem install_cases (l : Ledger) :
    (∃ fault, e.allocator.allocate os code.size l = (.error fault, l)
        ∧ e.install os code l = (.error fault, l) ∧ fault.Ordinary)
      ∨ ∃ r l', e.allocator.allocate os code.size l = (.ok r, l')
        ∧ (e.allocator.counts = true → 0 < r.size
          ∧ l' = ⟨Ledger.wrap (l.regions + 1), Ledger.wrap (l.bytes + r.size)⟩)
        ∧ ((∃ r', e.fill os code r = .ok r' ∧ e.install os code l = (.ok r', l'))
          ∨ ∃ fault, e.fill os code r = .error fault
            ∧ e.install os code l
              = (match (l'.release r.size).1 with
                  | .ok () => .error fault
                  | .error unsettled => .error unsettled, (l'.release r.size).2)) := by
  rcases allocate_cases os e.allocator code.size l with ⟨fault, heq, hne⟩ | ⟨hpos, heq⟩
  · exact Or.inl ⟨fault, heq, by simp only [install, heq], hne⟩
  · refine Or.inr ⟨_, _, heq, fun hc => ⟨hpos hc, if_pos hc⟩, ?_⟩
    simp only [install, heq]
    -- the region is new; filling it decides what becomes of it
    cases hf : e.fill os code (Region.fresh (code.size - e.allocator.shrink)) with
    | ok r' => exact Or.inl ⟨r', rfl, rfl⟩
    | error fault =>
        refine Or.inr ⟨fault, rfl, ?_⟩
        simp only
        split <;> rename_i hl <;> rw [hl]

/-- **A counted installation**: what it returns with the counters it leaves, the
sizes it allocated, and the sizes it was refused. -/
inductive Installing (l : Ledger) :
    Except CodeFault Region × Ledger → List Nat → List Nat → Prop
  /-- No region was counted. -/
  | denied {fault : CodeFault} (hne : fault.Ordinary) :
      Installing l (.error fault, l) [] []
  | filled {r : Region} (hpos : 0 < r.size) :
      Installing l (.ok r, ⟨Ledger.wrap (l.regions + 1), Ledger.wrap (l.bytes + r.size)⟩)
        [r.size] []
  /-- The region was counted and released again. -/
  | undone {fault : CodeFault} {n : Nat} {l' : Ledger} (hpos : 0 < n)
      (hne : fault.Ordinary)
      (hl' : l' = ⟨Ledger.wrap (l.regions + 1), Ledger.wrap (l.bytes + n)⟩)
      (hback : l'.release n = (.ok (), ⟨l'.regions - 1, l'.bytes - n⟩))
      (hout : ¬ (l'.regions = 0 ∨ l'.bytes < n)) :
      Installing l (.error fault, ⟨l'.regions - 1, l'.bytes - n⟩) [n] []
  /-- The region was counted, and the counters deny it. -/
  | stuck {n : Nat} {l' : Ledger} (hpos : 0 < n)
      (hl' : l' = ⟨Ledger.wrap (l.regions + 1), Ledger.wrap (l.bytes + n)⟩)
      (hout : l'.regions = 0 ∨ l'.bytes < n) :
      Installing l (.error (.unknownRegion n), l') [n] [n]

/-- The calls of an installation that gets no region. -/
private theorem dealings_denied (hc : e.allocator.counts = true) {l : Ledger}
    {fault : CodeFault} (h : e.allocator.allocate os code.size l = (.error fault, l)) :
    l.history (e.dealings os code l)
      = [(.allocate os (code.size - e.allocator.shrink), .error fault)] := by
  have hl : (l.allocate os (code.size - e.allocator.shrink)).1 = .error fault := by
    rw [Allocator.allocate, if_pos hc] at h
    rw [h]
  simp only [dealings, if_pos hc, h, List.append_nil, Ledger.history, Ledger.serve, hl,
    Except.map]

/-- The calls of an installation that gets a region. -/
private theorem dealings_granted (hc : e.allocator.counts = true) {l l' : Ledger}
    {r : Region} (h : e.allocator.allocate os code.size l = (.ok r, l')) :
    r.size = code.size - e.allocator.shrink
      ∧ l.history (e.dealings os code l)
        = (.allocate os (code.size - e.allocator.shrink), .ok ())
          :: l'.history (match e.fill os code r with
              | .ok _ => []
              | .error _ => [.release r]) := by
  rw [Allocator.allocate, if_pos hc] at h
  constructor
  · rcases Ledger.allocate_cases os (code.size - e.allocator.shrink) l with
      ⟨fault, heq, -⟩ | ⟨-, heq⟩
    · rw [h] at heq
      exact absurd (congrArg Prod.fst heq) nofun
    · rw [h] at heq
      rw [Except.ok.inj (congrArg Prod.fst heq)]
      rfl
  · have hd : e.dealings os code l
        = .allocate os (code.size - e.allocator.shrink)
          :: match e.fill os code r with
            | .ok _ => []
            | .error _ => [.release r] := by
      unfold dealings
      rw [if_pos hc, Allocator.allocate, if_pos hc, h]
      exact List.singleton_append
    rw [hd]
    simp only [Ledger.history, Ledger.serve, h, Except.map]

/-- Every counted installation is one of the four. -/
theorem installing (hc : e.allocator.counts = true) (l : Ledger) :
    Installing l (e.install os code l)
      (Ledger.allocated (l.history (e.dealings os code l)))
      (Ledger.refused (l.history (e.dealings os code l))) := by
  rcases e.install_cases os code l with
    ⟨fault, halloc, heq, hne⟩ | ⟨r, l', halloc, hcount, hrest⟩
  · rw [heq, e.dealings_denied os code hc halloc]
    exact .denied hne
  · obtain ⟨hpos, hl'⟩ := hcount hc
    obtain ⟨hsize, hd⟩ := e.dealings_granted os code hc halloc
    rcases hrest with ⟨r', hfill, heq⟩ | ⟨fault, hfill, heq⟩
    · -- filled: the region keeps the size it was counted with
      rw [heq, hd, hl']
      have hr' : r'.size = r.size := (e.fill_ok os code hfill).2
      simp only [hfill, ← hsize, ← hr']
      exact .filled (hr' ▸ hpos)
    · -- given back: the counters it was counted in admit it or not
      have hfits : l'.regions < 2 ^ 64 := by
        rw [hl']
        exact Ledger.wrap_lt _
      have hrelease := Ledger.release_eq l' r.size hfits
      rw [heq, hd]
      by_cases hout : l'.regions = 0 ∨ l'.bytes < r.size
      · rw [if_pos hout] at hrelease
        simp only [hfill, Ledger.history, Ledger.serve, hrelease, ← hsize]
        exact .stuck hpos hl' hout
      · rw [if_neg hout] at hrelease
        simp only [hfill, Ledger.history, Ledger.serve, hrelease, ← hsize]
        exact .undone hpos (e.fill_error os code hfill) hl' hrelease hout

end Environment

namespace Session

variable (s : Session)

/-! ## §3. Counters. -/

/-- Nobody has used the allocators of a session that starts. -/
theorem ledger_start (allocators : Nat) (override : Option String) (i : Nat) :
    (start allocators override).ledger i = Ledger.empty := by
  unfold start ledger
  rw [List.getD_eq_getElem?_getD, List.getElem?_replicate]
  split <;> rfl

/-- The counters of an allocator after those of another, or its own, changed. -/
theorem ledger_withLedger {i : Nat} (hi : i < s.ledgers.length) (j : Nat) (l : Ledger) :
    (s.withLedger j l).ledger i = if j = i then l else s.ledger i := by
  unfold ledger withLedger
  by_cases h : j = i
  · subst h
    simp [List.getD_eq_getElem?_getD, hi]
  · simp [List.getD_eq_getElem?_getD, List.getElem?_set_ne h, h]

/-- Setting the counters of an allocator to what they are changes nothing. -/
theorem withLedger_self (j : Nat) : s.withLedger j (s.ledger j) = s := by
  have hset : s.ledgers.set j (s.ledger j) = s.ledgers := by
    unfold ledger
    by_cases h : j < s.ledgers.length
    · rw [List.getD_eq_getElem?_getD, List.getElem?_eq_getElem h, Option.getD_some,
          List.set_getElem_self]
    · exact List.set_eq_of_length_le (by omega)
  unfold withLedger
  rw [hset]

@[simp] theorem ledger_withoutRegion (name : String) (i : Nat) :
    (s.withoutRegion name).ledger i = s.ledger i := rfl

/-- Storing settles one ledger with what the making of the region left. -/
theorem ledger_storing {i : Nat} (hi : i < s.ledgers.length) (name : String) (j : Nat)
    (made : Except CodeFault Region × Ledger) :
    (s.storing name j made).2.ledger i = if j = i then made.2 else s.ledger i := by
  unfold storing
  cases made.1 with
  | ok r => exact s.ledger_withLedger hi j made.2
  | error fault => exact s.ledger_withLedger hi j made.2

/-- Releasing settles one ledger, if there is a region to release. -/
theorem ledger_releasing {i : Nat} (hi : i < s.ledgers.length) (name : String) (j : Nat) :
    (s.releasing name j).2.ledger i
      = match s.regions.get? name with
        | none => s.ledger i
        | some r => if j = i then ((s.ledger i).release r.size).2 else s.ledger i := by
  unfold releasing
  cases s.regions.get? name with
  | none => rfl
  | some r =>
      show ((s.withoutRegion name).withLedger j ((s.ledger j).release r.size).2).ledger i
          = if j = i then ((s.ledger i).release r.size).2 else s.ledger i
      rw [ledger_withLedger (s.withoutRegion name) hi]
      by_cases h : j = i
      · rw [if_pos h, if_pos h, h]
      · rw [if_neg h, if_neg h, ledger_withoutRegion]

@[simp] theorem ledger_onRegion (name : String) (call : Region → Outcome × Region) (i : Nat) :
    (s.onRegion name call).2.ledger i = s.ledger i := by
  unfold onRegion
  cases s.regions.get? name <;> rfl

@[simp] theorem lookingAt_snd (name : String) (call : Region → Outcome) :
    (s.lookingAt name call).2 = s := by
  unfold lookingAt
  cases s.regions.get? name <;> rfl

/-! ## §4. Regions. -/

/-- The region under a name after one was stored, if it was made. -/
theorem get?_storing (name : String) (j : Nat) (made : Except CodeFault Region × Ledger)
    (n : String) :
    (s.storing name j made).2.regions.get? n
      = match made.1 with
        | .ok r => if n == name then some r else s.regions.get? n
        | .error _ => s.regions.get? n := by
  unfold storing
  cases made.1 with
  | ok r => exact Store.get?_put name n r s.regions
  | error fault => rfl

/-- Where there is no region, none is found. -/
theorem get?_absent {name : String} (h : s.regions.get? name = none) (n : String) :
    s.regions.get? n = if n == name then none else s.regions.get? n := by
  by_cases hn : n = name
  · subst hn
    rw [beq_self_eq_true, if_pos rfl]
    exact h
  · rw [beq_false_of_ne hn]
    rfl

/-- The region under a name after one was released: it is gone, taken back or
not. -/
theorem get?_releasing (name : String) (j : Nat) (n : String) :
    (s.releasing name j).2.regions.get? n
      = if n == name then none else s.regions.get? n := by
  unfold releasing
  cases hr : s.regions.get? name with
  | some r => exact Store.get?_erase name n s.regions
  | none => exact s.get?_absent hr n

/-- The region under a name after one was called. -/
theorem get?_onRegion (name : String) (call : Region → Outcome × Region) (n : String) :
    (s.onRegion name call).2.regions.get? n
      = if n == name then (s.regions.get? name).map (fun r => (call r).2)
        else s.regions.get? n := by
  unfold onRegion
  cases hr : s.regions.get? name with
  | some r => exact Store.get?_put name n (call r).2 s.regions
  | none => exact s.get?_absent hr n

/-- Mapping a region is storing it without touching any counters. -/
theorem step_map (os : Platform) (name : String) (size j : Nat) :
    s.step os (.map name size) = s.storing name j (Region.map os size, s.ledger j) := by
  simp only [step, storing, withLedger_self]

@[simp] theorem ledger_drop (os : Platform) (name : String) (i : Nat) :
    (s.step os (.drop name)).2.ledger i = s.ledger i := by
  cases hr : s.regions.get? name <;> simp [step, hr]

/-- The region under a name after one was dropped. -/
theorem get?_drop (os : Platform) (name n : String) :
    (s.step os (.drop name)).2.regions.get? n
      = if n == name then none else s.regions.get? n := by
  cases hr : s.regions.get? name with
  | some r =>
      simp only [step, hr]
      exact Store.get?_erase name n s.regions
  | none =>
      simp only [step, hr]
      exact s.get?_absent hr n

/-! ## §5. Calls through an environment. -/

/-- **A call through an environment** is the plain call it comes to. -/
theorem step_plain (os : Platform) (a : Action) : s.step os (s.plain a) = s.step os a := by
  cases a with
  | envAllocate env region size =>
      cases ht : s.tenants.get? env with
      | none => simp only [plain, ht]
      | some t =>
          -- counted regions come from the allocator, all others are mapped
          simp only [plain, ht]
          show _ = s.within env _
          simp only [within, ht, Allocator.allocate]
          cases t.environment.allocator.counts with
          | true => rfl
          | false => exact s.step_map os region _ t.ledger
  | envRelease env region =>
      cases ht : s.tenants.get? env with
      | none => simp only [plain, ht]
      | some t => simp only [plain, step, within, ht]
  | envMakeExecutable env region =>
      cases ht : s.tenants.get? env with
      | none => simp only [plain, ht]
      | some t => simp only [plain, step, within, ht]
  | _ => rfl

/-- A plain call goes through an environment only if there is none. -/
theorem plain_env {a : Action} {env : String}
    (h : (∃ region size, s.plain a = .envAllocate env region size)
      ∨ (∃ region, s.plain a = .envRelease env region)
      ∨ (∃ region, s.plain a = .envMakeExecutable env region)) :
    s.tenants.get? env = none := by
  cases a with
  | envAllocate env' region size =>
      cases ht : s.tenants.get? env' with
      | none => simp_all [plain]
      | some t =>
          simp only [plain, ht] at h
          split at h <;> simp at h
  | envRelease env' region =>
      cases ht : s.tenants.get? env' with
      | none => simp_all [plain]
      | some t => simp [plain, ht] at h
  | envMakeExecutable env' region =>
      cases ht : s.tenants.get? env' with
      | none => simp_all [plain]
      | some t => simp [plain, ht] at h
  | _ => simp [plain] at h

end Session

end JitTarget
