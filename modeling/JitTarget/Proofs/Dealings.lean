/-
  JitTarget.Proofs.Dealings
  ────────────────────────────────
  **THE COUNTERS FOLLOW THE DEALINGS.**

  Most calls of a session leave the regions and the counters there are alone;
  the others settle with one allocator.  Its counters are, after every run,
  those that the calls made on it leave, one after another.
-/
import JitTarget.Proofs.SessionSteps

namespace JitTarget

namespace Session

variable (s : Session)

/-! ## §1. Calls that move no region. -/

/-- Whether a call neither makes a region nor takes one out. -/
def Action.stays : Action → Bool
  | .allocate .. | .map .. | .release .. | .drop .. | .install .. => false
  | .envAllocate .. | .envRelease .. => false
  | _ => true

/-- Writing keeps the size. -/
theorem size_writing (offset : Nat) (bytes : Array UInt8) (r : Region) :
    (writing offset bytes r).2.size = r.size := by
  unfold writing
  cases hw : r.write offset bytes with
  | error fault => rfl
  | ok written =>
      obtain ⟨-, -, rfl⟩ := (Region.write_eq_ok_iff r written offset bytes).mp hw
      rfl

/-- Making executable keeps the size. -/
theorem size_activating (os : Platform) (p : Profile) (r : Region) :
    (activating os p r).2.size = r.size :=
  (Region.event_step Profile.synchronize os r (.makeExecutable p)).size_eq

/-- Making writable keeps the size. -/
theorem size_reopening (os : Platform) (r : Region) : (reopening os r).2.size = r.size :=
  (Region.event_step Profile.synchronize os r .makeWritable).size_eq

/-- A call that keeps the size of a region keeps every region's. -/
theorem sizes_onRegion {call : Region → Outcome × Region}
    (hcall : ∀ r, (call r).2.size = r.size) (name n : String) {r : Region}
    (hr : s.regions.get? n = some r) :
    ∃ r', (s.onRegion name call).2.regions.get? n = some r' ∧ r'.size = r.size := by
  rw [get?_onRegion]
  by_cases hn : n = name
  · subst hn
    exact ⟨(call r).2, by simp [hr], hcall r⟩
  · exact ⟨r, by simp [hn, hr], rfl⟩

/-- Making an environment changes no region and no counters there are. -/
theorem creating_frame (name : String) (p : Profile) (a : Allocator) (j : Nat) :
    (s.creating name p a j).2.regions = s.regions
      ∧ (s.creating name p a j).2.ledgers = s.ledgers := by
  unfold creating
  cases Environment.create p a <;> exact ⟨rfl, rfl⟩

/-- An environment's own allocator is added behind those there are. -/
theorem creatingAlone_frame (name : String) (p : Profile) :
    (s.creatingAlone name p).2.regions = s.regions
      ∧ (s.creatingAlone name p).2.ledgers = s.ledgers ++ [Ledger.empty] :=
  creating_frame { s with ledgers := s.ledgers ++ [Ledger.empty] } name p {} s.ledgers.length

/-- A call within an environment that leaves the session alone. -/
theorem within_snd_of_forall (name : String) (call : Tenant → Outcome × Session)
    (h : ∀ t, (call t).2 = s) : (s.within name call).2 = s := by
  unfold within
  cases s.tenants.get? name with
  | none => rfl
  | some t => exact h t

/-- What a call that moves no region leaves: every region with its size, and the
counters of every allocator there is. -/
structure Stays (s s' : Session) : Prop where
  sizes : ∀ n r, s.regions.get? n = some r →
    ∃ r', s'.regions.get? n = some r' ∧ r'.size = r.size
  ledger_eq : ∀ i, i < s.ledgers.length → s'.ledger i = s.ledger i

theorem Stays.refl (s : Session) : Stays s s :=
  ⟨fun _ r hr => ⟨r, hr, rfl⟩, fun _ _ => rfl⟩

theorem Stays.onRegion {call : Region → Outcome × Region}
    (hcall : ∀ r, (call r).2.size = r.size) (name : String) :
    Stays s (s.onRegion name call).2 :=
  ⟨fun n _ hr => s.sizes_onRegion hcall name n hr, fun i _ => s.ledger_onRegion name call i⟩

theorem Stays.creatingAlone (name : String) (p : Profile) :
    Stays s (s.creatingAlone name p).2 := by
  obtain ⟨hregions, hledgers⟩ := s.creatingAlone_frame name p
  refine ⟨fun n r hr => ⟨r, by rw [hregions]; exact hr, rfl⟩, fun i hi => ?_⟩
  unfold ledger
  rw [hledgers, List.getD_eq_getElem?_getD, List.getElem?_append_left hi,
      List.getD_eq_getElem?_getD]

/-- **Calls that move no region.** -/
theorem step_stays (os : Platform) {a : Action} (ha : a.stays = true) :
    Stays s (s.step os a).2 := by
  cases a with
  | write region offset bytes => exact Stays.onRegion s (size_writing offset bytes) region
  | makeExecutable region p => exact Stays.onRegion s (size_activating os p) region
  | makeWritable region => exact Stays.onRegion s (size_reopening os) region
  | read region span =>
      show Stays s (s.lookingAt region _).2
      rw [lookingAt_snd]
      exact Stays.refl s
  | synchronize region p span =>
      show Stays s (s.lookingAt region _).2
      rw [lookingAt_snd]
      exact Stays.refl s
  | entryAddress region offset =>
      show Stays s (s.lookingAt region _).2
      rw [lookingAt_snd]
      exact Stays.refl s
  | create env p allocator j =>
      obtain ⟨hregions, hledgers⟩ := s.creating_frame env p allocator j
      refine ⟨fun n r hr => ⟨r, ?_, rfl⟩, fun i _ => ?_⟩
      · show (s.creating env p allocator j).2.regions.get? n = some r
        rw [hregions]
        exact hr
      · show (s.creating env p allocator j).2.ledgers.getD i .empty = s.ledgers.getD i .empty
        rw [hledgers]
  | createHost env => exact Stays.creatingAlone s env (Profile.host s.override)
  | createNative env => exact Stays.creatingAlone s env Profile.native
  | envMakeExecutable env region =>
      show Stays s (s.within env _).2
      unfold within
      cases s.tenants.get? env with
      | none => exact Stays.refl s
      | some t => exact Stays.onRegion s (size_activating os t.environment.profile) region
  | envSynchronize env code =>
      show Stays s (s.within env _).2
      rw [s.within_snd_of_forall env _ (fun t => rfl)]
      exact Stays.refl s
  | callTarget env region toc =>
      show Stays s (s.within env _).2
      rw [s.within_snd_of_forall env _ (fun t => s.lookingAt_snd region _)]
      exact Stays.refl s
  | _ => exact absurd ha (by simp [Action.stays])

/-- A plain call that goes through an environment finds none, and does nothing. -/
theorem step_plain_env (os : Platform) {a : Action}
    (h : (∃ env region size, s.plain a = .envAllocate env region size)
      ∨ ∃ env region, s.plain a = .envRelease env region) :
    (s.step os (s.plain a)).2 = s := by
  rcases h with ⟨env, region, size, h⟩ | ⟨env, region, h⟩
  · have hnone := s.plain_env (Or.inl ⟨region, size, h⟩)
    rw [h]
    simp only [step, within, hnone]
  · have hnone := s.plain_env (Or.inr (Or.inl ⟨region, h⟩))
    rw [h]
    simp only [step, within, hnone]

/-! ## §2. The allocators of a session. -/

theorem ledgers_storing (name : String) (j : Nat) (made : Except CodeFault Region × Ledger) :
    (s.storing name j made).2.ledgers = s.ledgers.set j made.2 := by
  unfold storing
  cases made.1 <;> rfl

theorem ledgers_onRegion (name : String) (call : Region → Outcome × Region) :
    (s.onRegion name call).2.ledgers = s.ledgers := by
  unfold onRegion
  cases s.regions.get? name <;> rfl

/-- Some allocator's counters are set; those of all others stay. -/
def SetsOne (s s' : Session) : Prop :=
  ∃ j l, s'.ledgers = s.ledgers.set j l

theorem setsOne_of_eq {s s' : Session} (h : s'.ledgers = s.ledgers) : SetsOne s s' :=
  ⟨0, s.ledger 0, h.trans (congrArg Session.ledgers (s.withLedger_self 0)).symm⟩

theorem setsOne_storing (name : String) (j : Nat) (made : Except CodeFault Region × Ledger) :
    SetsOne s (s.storing name j made).2 :=
  ⟨j, made.2, s.ledgers_storing name j made⟩

theorem setsOne_releasing (name : String) (j : Nat) : SetsOne s (s.releasing name j).2 := by
  unfold releasing
  cases s.regions.get? name with
  | none => exact setsOne_of_eq rfl
  | some r => exact ⟨j, _, rfl⟩

/-- A call within an environment sets what the call sets. -/
theorem setsOne_within (name : String) (call : Tenant → Outcome × Session)
    (h : ∀ t, SetsOne s (call t).2) : SetsOne s (s.within name call).2 := by
  unfold within
  cases s.tenants.get? name with
  | none => exact setsOne_of_eq rfl
  | some t => exact h t

/-- **A step and the list of allocators**: one at most is settled with, or a new one
is added. -/
theorem step_ledgers (os : Platform) (a : Action) :
    SetsOne s (s.step os a).2 ∨ (s.step os a).2.ledgers = s.ledgers ++ [Ledger.empty] := by
  cases a with
  | createHost env => exact Or.inr (s.creatingAlone_frame env _).2
  | createNative env => exact Or.inr (s.creatingAlone_frame env _).2
  | allocate region j size => exact Or.inl (s.setsOne_storing region j _)
  | release region j => exact Or.inl (s.setsOne_releasing region j)
  | map region size =>
      rw [s.step_map os region size 0]
      exact Or.inl (s.setsOne_storing region 0 _)
  | drop region =>
      refine Or.inl (setsOne_of_eq ?_)
      simp only [step]
      cases s.regions.get? region <;> rfl
  | create env p a j => exact Or.inl (setsOne_of_eq (s.creating_frame env p a j).2)
  | write region offset bytes => exact Or.inl (setsOne_of_eq (s.ledgers_onRegion region _))
  | makeExecutable region p => exact Or.inl (setsOne_of_eq (s.ledgers_onRegion region _))
  | makeWritable region => exact Or.inl (setsOne_of_eq (s.ledgers_onRegion region _))
  | envAllocate env region size =>
      exact Or.inl (s.setsOne_within env _ (fun t => s.setsOne_storing region t.ledger _))
  | envRelease env region =>
      exact Or.inl (s.setsOne_within env _ (fun t => s.setsOne_releasing region t.ledger))
  | install env region code =>
      exact Or.inl (s.setsOne_within env _ (fun t => s.setsOne_storing region t.ledger _))
  | envMakeExecutable env region =>
      exact Or.inl (s.setsOne_within env _
        (fun t => setsOne_of_eq (s.ledgers_onRegion region _)))
  | envSynchronize env code =>
      exact Or.inl (s.setsOne_within env _ (fun t => setsOne_of_eq rfl))
  | callTarget env region toc =>
      refine Or.inl (s.setsOne_within env _ (fun t => setsOne_of_eq ?_))
      simp only [lookingAt_snd]
  | read region span => exact Or.inl (setsOne_of_eq (by simp only [step, lookingAt_snd]))
  | synchronize region p span => exact Or.inl (setsOne_of_eq (by simp only [step, lookingAt_snd]))
  | entryAddress region offset =>
      exact Or.inl (setsOne_of_eq (by simp only [step, lookingAt_snd]))

/-- No call takes an allocator away. -/
theorem length_ledgers_le (os : Platform) (a : Action) :
    s.ledgers.length ≤ (s.step os a).2.ledgers.length := by
  rcases s.step_ledgers os a with ⟨j, l, h⟩ | h
  · exact Nat.le_of_eq ((congrArg List.length h).trans List.length_set).symm
  · rw [h, List.length_append]
    exact Nat.le_add_right _ _

/-- No run takes an allocator away. -/
theorem length_ledgers_run_le (steps : List (Platform × Action)) :
    s.ledgers.length ≤ (s.run steps).2.ledgers.length := by
  induction steps generalizing s with
  | nil => exact Nat.le_refl _
  | cons step rest ih =>
      exact Nat.le_trans (s.length_ledgers_le step.1 step.2) (ih (s.step step.1 step.2).2)

/-- An allocator that is not there yet has counted nothing after a step either. -/
theorem step_ledger_of_le {i : Nat} (hi : s.ledgers.length ≤ i) (os : Platform) (a : Action) :
    (s.step os a).2.ledger i = Ledger.empty := by
  unfold ledger
  rcases s.step_ledgers os a with ⟨j, l, h⟩ | h
  · rw [h, List.getD_eq_getElem?_getD, List.getElem?_eq_none (by rw [List.length_set]; exact hi),
        Option.getD_none]
  · rw [h, List.getD_eq_getElem?_getD, List.getElem?_append_right hi]
    cases i - s.ledgers.length <;> rfl

end Session

/-! ## §3. The counters follow the dealings. -/

/-- What an allocator is asked for is what it hands out of its counters. -/
private theorem serveAll_allocating (a : Allocator) (os : Platform) (size : Nat) (l : Ledger) :
    l.serveAll (if a.counts then [.allocate os (size - a.shrink)] else [])
      = (a.allocate os size l).2 := by
  unfold Allocator.allocate
  cases a.counts <;> rfl

/-- An installation leaves the counters its calls leave. -/
theorem Environment.install_snd (e : Environment) (os : Platform) (code : Array UInt8)
    (l : Ledger) : (e.install os code l).2 = l.serveAll (e.dealings os code l) := by
  unfold Environment.dealings
  -- the allocation first, then the release, if one is made
  rw [Ledger.serveAll_append, serveAll_allocating]
  rcases e.install_cases os code l with
    ⟨fault, halloc, heq, -⟩ | ⟨r, l', halloc, -, ⟨r', hfill, heq⟩ | ⟨fault, hfill, heq⟩⟩
  · simp only [heq, halloc]
    rfl
  · simp only [heq, halloc, hfill]
    rfl
  · simp only [heq, halloc, hfill]
    rfl

namespace Session

variable (s : Session) {i : Nat}

/-- **One step leaves the counters its dealings leave.** -/
theorem step_ledger (hi : i < s.ledgers.length) (os : Platform) (a : Action) :
    (s.step os a).2.ledger i = (s.ledger i).serveAll (s.dealings i os a) := by
  -- a call through an environment makes the calls of the plain one
  rw [← step_plain]
  cases hp : s.plain a with
  | allocate region j size =>
      have hd : s.dealings i os a = if j = i then [.allocate os size] else [] := by
        simp only [dealings, hp]
      rw [hd]
      show (s.storing region j _).2.ledger i = _
      rw [ledger_storing s hi]
      by_cases hj : j = i
      · subst hj
        rw [if_pos rfl, if_pos rfl]
        rfl
      · rw [if_neg hj, if_neg hj]
        rfl
  | release region j =>
      have hd : s.dealings i os a
          = if j = i then (s.regions.get? region).toList.map .release else [] := by
        simp only [dealings, hp]
      rw [hd]
      show (s.releasing region j).2.ledger i = _
      rw [ledger_releasing s hi]
      by_cases hj : j = i
      · simp only [if_pos hj]
        cases s.regions.get? region <;> rfl
      · simp only [if_neg hj]
        cases s.regions.get? region <;> rfl
  | install env region code =>
      show (s.within env _).2.ledger i = _
      unfold within
      cases ht : s.tenants.get? env with
      | none => simp only [dealings, hp, ht, Ledger.serveAll]
      | some t =>
          have hd : s.dealings i os a
              = if t.ledger = i then t.environment.dealings os code (s.ledger i) else [] := by
            simp only [dealings, hp, ht]
          rw [hd]
          show (s.storing region t.ledger _).2.ledger i = _
          rw [ledger_storing s hi]
          by_cases hj : t.ledger = i
          · rw [if_pos hj, if_pos hj, hj]
            exact t.environment.install_snd os code (s.ledger i)
          · rw [if_neg hj, if_neg hj]
            rfl
  | map region size =>
      rw [s.step_map os region size i, ledger_storing s hi, if_pos rfl]
      simp only [dealings, hp, Ledger.serveAll]
  | drop region =>
      rw [s.ledger_drop os region i]
      simp only [dealings, hp, Ledger.serveAll]
  | envAllocate env region size =>
      rw [← hp, s.step_plain_env os (Or.inl ⟨env, region, size, hp⟩)]
      simp only [dealings, hp, Ledger.serveAll]
  | envRelease env region =>
      rw [← hp, s.step_plain_env os (Or.inr ⟨env, region, hp⟩)]
      simp only [dealings, hp, Ledger.serveAll]
  | _ =>
      rw [(s.step_stays os rfl).ledger_eq i hi]
      simp only [dealings, hp, Ledger.serveAll]

/-- Every step keeps every counter within an address. -/
theorem step_fits (h : ∀ j, (s.ledger j).Fits) (os : Platform) (a : Action) (i : Nat) :
    ((s.step os a).2.ledger i).Fits := by
  -- an allocator that is not there yet may be added by the step
  by_cases hi : i < s.ledgers.length
  · rw [step_ledger s hi]
    exact (h i).serveAll _
  · rw [s.step_ledger_of_le (Nat.le_of_not_lt hi)]
    exact Ledger.fits_empty

/-- Every run keeps every counter within an address. -/
theorem run_fits (h : ∀ j, (s.ledger j).Fits) (steps : List (Platform × Action)) (i : Nat) :
    ((s.run steps).2.ledger i).Fits := by
  induction steps generalizing s with
  | nil => exact h i
  | cons first rest ih =>
      exact ih (s.step first.1 first.2).2 (s.step_fits h first.1 first.2)

/-- **A run leaves the counters its traffic leaves.** -/
theorem run_ledger (hi : i < s.ledgers.length) (steps : List (Platform × Action)) :
    (s.run steps).2.ledger i = (s.ledger i).serveAll (s.traffic i steps) := by
  induction steps generalizing s with
  | nil => rfl
  | cons first rest ih =>
      obtain ⟨os, a⟩ := first
      have hle := s.length_ledgers_le os a
      -- the first step leaves what the rest of the traffic starts from
      show ((s.step os a).2.run rest).2.ledger i = _
      rw [ih (s.step os a).2 (Nat.lt_of_lt_of_le hi hle), step_ledger s hi]
      exact (Ledger.serveAll_append (s.ledger i) (s.dealings i os a) _).symm

/-! ## §4. The same allocation again and again. -/

/-- A size the platform grants is allocated. -/
theorem allocate_granted {os : Platform} {size : Nat} (hsize : 0 < size)
    (hmap : os.mapRefusal size = none) (l : Ledger) :
    l.allocate os size
      = (.ok (Region.fresh size), ⟨Ledger.wrap (l.regions + 1), Ledger.wrap (l.bytes + size)⟩) := by
  simp only [Ledger.allocate, Region.map, hmap, Nat.ne_of_gt hsize, if_false]
  rfl

/-- **A region allocated again and again** under one name, each time in place of the
last, is counted every time, though it is dropped. -/
theorem run_replicate_allocate (hi : i < s.ledgers.length) (hfits : (s.ledger i).Fits)
    {os : Platform} {size : Nat} (hsize : 0 < size) (hmap : os.mapRefusal size = none)
    (name : String) (n : Nat) :
    let after := (s.run (List.replicate n (os, .allocate name i size))).2
    after.ledger i
        = ⟨Ledger.wrap ((s.ledger i).regions + n), Ledger.wrap ((s.ledger i).bytes + n * size)⟩
      ∧ after.tenants = s.tenants := by
  induction n generalizing s with
  | zero =>
      refine ⟨?_, rfl⟩
      rw [Nat.zero_mul, Nat.add_zero, Nat.add_zero, Ledger.wrap_of_lt hfits.regions_lt,
          Ledger.wrap_of_lt hfits.bytes_lt]
      rfl
  | succ n ih =>
      have hmade := allocate_granted hsize hmap (s.ledger i)
      have hledger : (s.step os (.allocate name i size)).2.ledger i
          = ⟨Ledger.wrap ((s.ledger i).regions + 1), Ledger.wrap ((s.ledger i).bytes + size)⟩ := by
        show (s.storing name i _).2.ledger i = _
        rw [ledger_storing s hi, if_pos rfl, hmade]
      have htenants : (s.step os (.allocate name i size)).2.tenants = s.tenants := by
        simp only [step, storing, hmade]
        rfl
      obtain ⟨hcount, hsame⟩ := ih (s.step os (.allocate name i size)).2
        (Nat.lt_of_lt_of_le hi (s.length_ledgers_le os _))
        (hledger ▸ ⟨Ledger.wrap_lt _, Ledger.wrap_lt _⟩)
      refine ⟨hcount.trans ?_, hsame.trans htenants⟩
      rw [hledger]
      -- counting on from a counter that started over comes to the same
      simp only [Ledger.wrap, Nat.mod_add_mod, Nat.succ_mul]
      congr 2 <;> omega

end Session

end JitTarget
