/-
  JitTarget.Proofs.LostMapping
  ────────────────────────────────
  **CALLS THAT FAIL, AND MEMORY THAT IS GONE.**

  Both switches take the memory away before they know whether they succeed, and put
  it back on every way out but one: a change of protection that the platform refuses.
  So a call that fails for another cause has changed nothing, and a region that lost
  its memory is never changed again.  What it was allocated with stays known, and an
  allocator judges its release by that:

      call_law                — what one call leaves
      after_of_lost           — a region that is lost stays as it is, over every run
      lost_mapping_stays_lost — both, with the release
-/
import JitTarget.Proofs.Accounting

namespace JitTarget

namespace Region

variable (sync : Synchronizer) (os : Platform)

/-! ## §1. What one call leaves. -/

/-- **One call** leaves the region as it was, or succeeds and leaves one with its
memory, or loses the memory to a change of protection that is refused. -/
theorem call_law (r : Region) (c : Call) :
    (r.call sync os c).2 = r
      ∨ ((r.call sync os c).1 = .ok () ∧ (r.call sync os c).2.phase ≠ .lost)
      ∨ ∃ wanted cause, os.protectRefusal = some cause
        ∧ (r.call sync os c).1 = .error (.notProtected wanted cause) := by
  cases c with
  | write offset bytes =>
      cases hw : r.write offset bytes with
      | error fault => exact Or.inl (by simp only [call, hw])
      | ok written =>
          have hcall : r.call sync os (.write offset bytes) = (.ok (), written) := by
            simp only [call, hw]
          obtain ⟨hp, -, rfl⟩ := (write_eq_ok_iff r written offset bytes).mp hw
          rw [hcall]
          refine Or.inr (Or.inl ⟨rfl, ?_⟩)
          show r.phase ≠ .lost
          rw [hp]
          decide
  | read span => exact Or.inl rfl
  | synchronize p span => exact Or.inl rfl
  | entryAddress offset => exact Or.inl rfl
  | makeExecutable p =>
      rcases makeExecutableWith_cases sync os r p with
        ⟨fault, h, -⟩ | ⟨-, -, h⟩ | ⟨-, -, -, ⟨cause, hrefused, h⟩ | h⟩
      · exact Or.inl (congrArg Prod.snd h)
      · exact Or.inl (congrArg Prod.snd h)
      · exact Or.inr (Or.inr ⟨.executable, cause, hrefused, congrArg Prod.fst h⟩)
      · refine Or.inr (Or.inl ⟨congrArg Prod.fst h, ?_⟩)
        have hphase : (r.makeExecutableWith sync os p).2.phase = .executable := by rw [h]
        show (r.makeExecutableWith sync os p).2.phase ≠ .lost
        rw [hphase]
        decide
  | makeWritable =>
      rcases makeWritable_cases os r with h | ⟨-, ⟨cause, hrefused, h⟩ | h⟩
      · exact Or.inl h
      · exact Or.inr (Or.inr ⟨.writable, cause, hrefused, congrArg Prod.fst h⟩)
      · refine Or.inr (Or.inl ⟨congrArg Prod.fst h, ?_⟩)
        have hphase : (r.makeWritable os).2.phase = .writable := by rw [h]
        show (r.makeWritable os).2.phase ≠ .lost
        rw [hphase]
        decide

/-- **A call that fails** for another cause than a change of protection leaves the
region as it was. -/
theorem call_of_error {r : Region} {c : Call} {fault : CodeFault}
    (h : (r.call sync os c).1 = .error fault)
    (hother : ∀ wanted cause, fault ≠ .notProtected wanted cause) :
    (r.call sync os c).2 = r := by
  rcases call_law sync os r c with hsame | ⟨hok, -⟩ | ⟨wanted, cause, -, hlost⟩
  · exact hsame
  · exact absurd (h.symm.trans hok) nofun
  · exact absurd (Except.error.inj (h.symm.trans hlost)) (hother wanted cause)

/-- **Memory is lost** to a change of protection that is refused, and to nothing
else. -/
theorem protectRefusal_of_lost {r : Region} {c : Call} (hthere : r.phase ≠ .lost)
    (hlost : (r.call sync os c).2.phase = .lost) :
    ∃ wanted cause, os.protectRefusal = some cause
      ∧ (r.call sync os c).1 = .error (.notProtected wanted cause) := by
  rcases call_law sync os r c with hsame | ⟨-, hkept⟩ | hrefused
  · rw [hsame] at hlost
    exact absurd hlost hthere
  · exact absurd hlost hkept
  · exact hrefused

/-! ## §2. Regions that are lost. -/

/-- What a region answers whose memory is gone. -/
structure Gone (r : Region) : Prop where
  length_eq : r.length = 0
  bytes_eq : r.bytes = .error .lostMapping
  read_eq : ∀ span, r.read span = .error .lostMapping
  write_eq : ∀ offset bytes, r.write offset bytes = .error .lostMapping
  synchronize_eq : ∀ p span, r.synchronizeWith sync p span = .error .lostMapping
  entryAddress_eq : ∀ offset, r.entryAddress offset = .error .lostMapping
  makeWritable_eq : ∀ os, (r.makeWritable os).1 = .error .lostMapping
  makeExecutable_eq : ∀ os p, p.isSupported = true → p.family = Profile.native.family →
    (r.makeExecutableWith sync os p).1 = .error .lostMapping
  /-- The profile is looked at first. -/
  makeExecutable_foreign : ∀ os p, p.isSupported = true → p.family ≠ Profile.native.family →
    (r.makeExecutableWith sync os p).1
      = .error (.foreignTarget p.family Profile.native.family)
  makeExecutable_unsupported : ∀ os p, p.isSupported = false →
    (r.makeExecutableWith sync os p).1 = .error (.unsupported ⟨"target profile"⟩)

/-- Every region that is lost answers so. -/
theorem gone_of_lost {r : Region} (h : r.phase = .lost) : Gone sync r where
  length_eq := by
    unfold length
    rw [h]
  bytes_eq := by
    unfold bytes read
    rw [h]
  read_eq := by
    intro span
    unfold read
    rw [h]
  write_eq := by
    intro offset bytes
    unfold write
    rw [h]
  synchronize_eq := by
    intro p span
    unfold synchronizeWith
    rw [h]
  entryAddress_eq := by
    intro offset
    unfold entryAddress
    rw [h]
  makeWritable_eq := by
    intro os
    unfold makeWritable
    rw [h]
  makeExecutable_eq := by
    intro os p hsupported hnative
    unfold makeExecutableWith
    rw [(p.ensureNative_eq_ok_iff).mpr ⟨hsupported, hnative⟩, h]
  makeExecutable_foreign := by
    intro os p hsupported hforeign
    unfold makeExecutableWith
    rw [Profile.ensureNative_of_foreign hsupported hforeign]
  makeExecutable_unsupported := by
    intro os p hunsupported
    unfold makeExecutableWith
    rw [Profile.ensureNative_of_unsupported hunsupported]

/-- No call changes a region that is lost. -/
theorem call_of_lost {r : Region} (h : r.phase = .lost) (c : Call) :
    (r.call sync os c).2 = r := by
  have hstep := event_step sync os r c
  -- of the five changes only the first starts from a region that is lost
  generalize hw : (r.event sync os c).written? = w at hstep
  generalize hafter : (r.event sync os c).after = r' at hstep
  show (r.event sync os c).after = r
  rw [hafter]
  cases hstep with
  | stay => rfl
  | write offset bytes hp hfit => exact absurd (hp.symm.trans h) nofun
  | activate hp => exact absurd (hp.symm.trans h) nofun
  | reopen hx => exact absurd (hx.symm.trans h) nofun
  | lose hl => exact absurd h hl

/-- **No run changes a region that is lost.** -/
theorem after_of_lost {r : Region} (h : r.phase = .lost) (calls : List (Platform × Call)) :
    r.after sync calls = r := by
  induction calls with
  | nil => rfl
  | cons first rest ih =>
      show (r.call sync first.1 first.2).2.after sync rest = r
      rw [call_of_lost sync first.1 h first.2]
      exact ih

/-- **Every run keeps the size**, lost or not. -/
theorem size_after (r : Region) (calls : List (Platform × Call)) :
    (r.after sync calls).size = r.size := by
  induction calls generalizing r with
  | nil => rfl
  | cons first rest ih =>
      show ((r.call sync first.1 first.2).2.after sync rest).size = r.size
      rw [ih]
      exact (event_step sync first.1 r first.2).size_eq

end Region

namespace Session

variable (s : Session) {i : Nat}

/-! ## §3. Releases. -/

/-- **A release goes by the size** the region was allocated with, whatever became of
its memory: the counters cannot take it off and stay, or it is taken off them. -/
theorem step_release_eq (hi : i < s.ledgers.length) (hfits : (s.ledger i).Fits)
    (os : Platform) {a : Action} {name : String} (hp : s.plain a = .release name i)
    {r : Region} (hr : s.regions.get? name = some r) :
    if (s.ledger i).regions = 0 ∨ (s.ledger i).bytes < r.size
    then (s.step os a).1 = .error (.code (.unknownRegion r.size))
      ∧ (s.step os a).2.ledger i = s.ledger i
    else (s.step os a).1 = .ok .done
      ∧ (s.step os a).2.ledger i
        = ⟨(s.ledger i).regions - 1, (s.ledger i).bytes - r.size⟩ := by
  have hledger : (s.step os a).2.ledger i = ((s.ledger i).release r.size).2 := by
    rw [step_ledger s hi, dealings_release s os hp hr]
    rfl
  rw [step_release_fst s os hp hr, hledger,
      Ledger.release_eq (s.ledger i) r.size hfits.regions_lt]
  by_cases hout : (s.ledger i).regions = 0 ∨ (s.ledger i).bytes < r.size
  · rw [if_pos hout, if_pos hout]
    exact ⟨rfl, rfl⟩
  · rw [if_neg hout, if_neg hout]
    exact ⟨rfl, rfl⟩

/-- **FAILED CALLS CHANGE NOTHING, AND A LOST MAPPING STAYS LOST.**  A call on a
region in any state that fails for another cause than a change of protection leaves
it as it was; a refused change of protection is the one way to lose the memory.  A
region that lost it is the same after every run of calls, answers to none of them,
and has the size it was allocated with.  By that size an allocator that handed it
out takes it back: one region and so many bytes come off the counters, unless they
count no region or fewer bytes, which cannot be as long as whatever was somebody
else's was refused and what is out fits an address. -/
theorem lost_mapping_stays_lost (sync : Synchronizer) :
    (∀ (r : Region) os c fault, (r.call sync os c).1 = .error fault →
        (∀ wanted cause, fault ≠ .notProtected wanted cause) → (r.call sync os c).2 = r)
      ∧ (∀ (r : Region) os c, r.phase ≠ .lost → (r.call sync os c).2.phase = .lost →
          ∃ wanted cause, os.protectRefusal = some cause
            ∧ (r.call sync os c).1 = .error (.notProtected wanted cause))
      ∧ (∀ (r : Region) later, r.phase = .lost →
          r.after sync later = r ∧ Region.Gone sync r)
      ∧ (∀ (r : Region) calls, (r.after sync calls).size = r.size)
      ∧ (∀ (s : Session) i, i < s.ledgers.length → s.ledger i = Ledger.empty →
          ∀ steps name size, ⟨size, some name⟩ ∈ s.custodyAfter i [] steps →
            let before := (s.run steps).2
            (∃ r, before.regions.get? name = some r ∧ r.size = size)
              ∧ ∀ os a, before.plain a = .release name i →
                let after := before.step os a
                (if (before.ledger i).regions = 0 ∨ (before.ledger i).bytes < size
                  then after.1 = .error (.code (.unknownRegion size))
                    ∧ after.2.ledger i = before.ledger i
                  else after.1 = .ok .done
                    ∧ after.2.ledger i
                      = ⟨(before.ledger i).regions - 1, (before.ledger i).bytes - size⟩)
                ∧ (s.ForeignRefused i [] steps →
                    (s.custodyAfter i [] steps).total < 2 ^ 64 → after.1 = .ok .done)) := by
  refine ⟨?_, ?_, ?_, ?_, ?_⟩
  · exact fun r os c fault => Region.call_of_error sync os
  · exact fun r os c => Region.protectRefusal_of_lost sync os
  · exact fun r later h => ⟨Region.after_of_lost sync h later, Region.gone_of_lost sync h⟩
  · exact fun r calls => Region.size_after sync r calls
  · intro s i hi hnew steps name size hmem before
    have hm := Custody.Matches.nil s
    have ht : Custody.Tallies [] (s.ledger i) := hnew ▸ Custody.tallies_empty
    have hmatches := s.run_matches hm i steps
    obtain ⟨r, hr, hsize⟩ := hmatches.named _ hmem name rfl
    refine ⟨⟨r, hr, hsize⟩, ?_⟩
    intro os a hp after
    have hi' : i < before.ledgers.length :=
      Nat.lt_of_lt_of_le hi (s.length_ledgers_run_le steps)
    have hfits : (before.ledger i).Fits := by
      show ((s.run steps).2.ledger i).Fits
      rw [run_ledger s hi]
      exact ht.fits.serveAll _
    have hrelease := before.step_release_eq hi' hfits os hp hr
    rw [hsize] at hrelease
    refine ⟨hrelease, fun hrefused htotal => ?_⟩
    -- the counters are what is out, and the region is among it
    have hheld : (s.custodyAfter i [] steps).holds name = true :=
      List.any_eq_true.mpr ⟨_, hmem, beq_self_eq_true _⟩
    have hin := (s.run_tallies hi hm ht steps hrefused).admits hmatches htotal hheld hr
    rw [hsize] at hin
    rw [if_neg hin] at hrelease
    exact hrelease.1

/-- A region that lost its memory answers to nothing, whatever is called on it, and is
taken off the counters with the size it had. -/
theorem lost_mapping_stays_lost_own :
    let steps : List (Platform × Action) :=
      [(.standard, .allocate "own" 0 16), (.guarded, .makeExecutable "own" Profile.native)]
    let before := ((start 1 none).run steps).2
    let after := before.step .standard (.release "own" 0)
    (∃ r, before.regions.get? "own" = some r ∧ r.size = 16 ∧ r.phase = .lost
        ∧ ∀ later, r.after Profile.synchronize later = r ∧ Region.Gone Profile.synchronize r)
      ∧ before.ledger 0 = ⟨1, 16⟩
      ∧ after.1 = .ok .done
      ∧ after.2.ledger 0 = ⟨0, 0⟩ := by
  intro steps before after
  obtain ⟨-, -, habsorbs, -, hsessions⟩ := lost_mapping_stays_lost Profile.synchronize
  have hnew : 0 < (start 1 none).ledgers.length := by decide
  have hout : ⟨16, some "own"⟩ ∈ (start 1 none).custodyAfter 0 [] steps :=
    List.mem_singleton.mpr rfl
  obtain ⟨⟨r, hr, hsize⟩, hrelease⟩ := hsessions (start 1 none) 0 hnew rfl steps "own" 16 hout
  have hlost : r.phase = .lost := by
    have hphase : (before.regions.get? "own").map Region.phase = some .lost := rfl
    rw [hr] at hphase
    exact Option.some.inj hphase
  have hcounts : before.ledger 0 = ⟨1, 16⟩ := rfl
  obtain ⟨htaken, -⟩ := hrelease .standard (.release "own" 0) rfl
  have hcovers : ¬ ((before.ledger 0).regions = 0 ∨ (before.ledger 0).bytes < 16) := by
    rw [hcounts]
    decide
  rw [if_neg hcovers] at htaken
  exact ⟨⟨r, hr, hsize, hlost, fun later => habsorbs r later hlost⟩, hcounts, htaken⟩

/-- **A region that lost its memory is refused**, too, once the counters are short of
what is out: a smaller stray passed for it. -/
theorem lost_region_refused :
    let steps : List (Platform × Action) :=
      [(.standard, .allocate "own" 0 16), (.guarded, .makeExecutable "own" Profile.native),
        (.standard, .map "stray" 8), (.standard, .release "stray" 0)]
    let before := ((start 1 none).run steps).2
    let after := before.step .standard (.release "own" 0)
    (start 1 none).custodyAfter 0 [] steps = [⟨16, some "own"⟩]
      ∧ (before.regions.get? "own").map Region.phase = some .lost
      ∧ (before.regions.get? "own").map Region.size = some 16
      ∧ before.ledger 0 = ⟨0, 8⟩
      ∧ after.1 = .error (.code (.unknownRegion 16))
      ∧ after.2.ledger 0 = ⟨0, 8⟩ :=
  ⟨rfl, rfl, rfl, rfl, rfl, rfl⟩

end Session

end JitTarget
