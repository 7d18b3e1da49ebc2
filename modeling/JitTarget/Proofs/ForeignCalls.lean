/-
  JitTarget.Proofs.ForeignCalls
  ────────────────────────────────
  **A CALL FOR ANOTHER MACHINE CHANGES NOTHING.**

  What the gate refuses is refused before anything is touched; an installation
  gives its region back.  Together with who may switch a region this is all
  that is promised of executable memory:

      step_foreign          — a call for another machine fails and leaves
                              regions and counters as they were
      step_supported        — an environment never lacks facts
      only_native_executes  — both, and who switched last, over every run
-/
import JitTarget.Proofs.NativeGate

namespace JitTarget

/-! ## §1. Calls for another machine. -/

/-- Filling a region fails for a profile that does not pass. -/
theorem Environment.fill_foreign {e : Environment}
    (h : e.profile.family ≠ Profile.native.family) (os : Platform) (code : Array UInt8)
    (r : Region) : ∃ fault, e.fill os code r = .error fault := by
  cases hf : e.fill os code r with
  | error fault => exact ⟨fault, rfl⟩
  | ok r' =>
      obtain ⟨hn, -⟩ := e.fill_ok os code hf
      exact absurd ((e.profile.ensureNative_eq_ok_iff).mp hn).2 h

namespace Session

variable (s : Session) {name : String}

/-- A call on a region that fails and leaves it alone. -/
theorem onRegion_refused {call : Region → Outcome × Region}
    (hcall : ∀ r, ∃ fault, call r = (.error fault, r)) (region : String) :
    (∃ fault, (s.onRegion region call).1 = .error fault)
      ∧ ∀ n, (s.onRegion region call).2.regions.get? n = s.regions.get? n := by
  constructor
  · unfold onRegion
    cases s.regions.get? region with
    | none => exact ⟨.noRegion, rfl⟩
    | some r =>
        obtain ⟨fault, h⟩ := hcall r
        exact ⟨fault, congrArg Prod.fst h⟩
  · intro n
    rw [get?_onRegion]
    by_cases hn : n = region
    · subst hn
      rw [beq_self_eq_true, if_pos rfl]
      cases s.regions.get? n with
      | none => rfl
      | some r =>
          obtain ⟨fault, h⟩ := hcall r
          exact congrArg some (congrArg Prod.snd h)
    · rw [beq_false_of_ne hn]
      rfl

theorem activating_refused {p : Profile} (h : p.family ≠ Profile.native.family) (os : Platform)
    (r : Region) : ∃ fault, activating os p r = (.error fault, r) := by
  obtain ⟨fault, hr⟩ := Region.makeExecutable_foreign os r h
  exact ⟨.code fault, by simp only [activating, hr, silently]⟩

end Session

/-- An installation for another machine fails. -/
theorem Environment.install_foreign {e : Environment}
    (h : e.profile.family ≠ Profile.native.family) (os : Platform) (code : Array UInt8)
    (l : Ledger) : ∃ fault, (e.install os code l).1 = .error fault := by
  cases hi : (e.install os code l).1 with
  | error fault => exact ⟨fault, rfl⟩
  | ok r =>
      have hn := Environment.ensureNative_of_install hi
      exact absurd ((e.profile.ensureNative_eq_ok_iff).mp hn).2 h

/-- **It leaves the counters as they were**, if what was counted can be discounted,
and what was not counted is refused. -/
theorem Environment.install_foreign_snd {e : Environment}
    (h : e.profile.family ≠ Profile.native.family) (os : Platform) (code : Array UInt8)
    {l : Ledger} (hfits : l.Fits)
    (hsettles : if e.allocator.counts = true
      then l.regions + 1 < 2 ^ 64 ∧ l.bytes + (code.size - e.allocator.shrink) < 2 ^ 64
      else l.regions = 0 ∨ l.bytes < code.size - e.allocator.shrink) :
    (e.install os code l).2 = l := by
  rcases e.install_cases os code l with
    ⟨fault, -, heq, -⟩ | ⟨r, l', halloc, -, ⟨r', hfill, -⟩ | ⟨fault, -, heq⟩⟩
  · rw [heq]
  · obtain ⟨fault, hfault⟩ := Environment.fill_foreign h os code r
    exact absurd (hfill.symm.trans hfault) nofun
  · rw [heq]
    rcases Environment.allocate_cases os e.allocator code.size l with
      ⟨refused, hrefused, -⟩ | ⟨-, hgranted⟩
    · rw [halloc] at hrefused
      exact absurd (congrArg Prod.fst hrefused) nofun
    · rw [halloc] at hgranted
      have hsize : r.size = code.size - e.allocator.shrink := by
        rw [Except.ok.inj (congrArg Prod.fst hgranted)]
        rfl
      have hl' := congrArg Prod.snd hgranted
      simp only at hl'
      rw [hsize]
      by_cases hc : e.allocator.counts = true
      · -- counted and discounted again
        rw [if_pos hc] at hsettles hl'
        obtain ⟨hregions, hbytes⟩ := hsettles
        rw [Ledger.wrap_of_lt hregions, Ledger.wrap_of_lt hbytes] at hl'
        rw [hl', Ledger.release_eq _ _ hregions, if_neg]
        · simp only [Nat.add_sub_cancel]
        · simp only
          omega
      · -- never counted, and refused
        rw [if_neg hc] at hsettles hl'
        rw [hl', Ledger.release_eq _ _ hfits.regions_lt, if_pos hsettles]

namespace Session

variable (s : Session) {name : String}

/-- An installation that fails leaves nothing but its counters. -/
theorem step_install_error {os : Platform} {env : String} {t : Tenant} {code : Array UInt8}
    {fault : CodeFault} {l : Ledger} (ht : s.tenants.get? env = some t)
    (h : t.environment.install os code (s.ledger t.ledger) = (.error fault, l))
    (region : String) :
    s.step os (.install env region code) = (.error (.code fault), s.withLedger t.ledger l) := by
  simp only [step, within, ht, storing, h]

/-- **A call for another machine** fails and leaves every region as it was, and the
counters too, where they settle. -/
theorem step_foreign (os : Platform) {a : Action} {p : Profile} (hp : s.profile? a = some p)
    (h : p.family ≠ Profile.native.family) :
    (∃ fault, (s.step os a).1 = .error fault)
      ∧ (∀ n, (s.step os a).2.regions.get? n = s.regions.get? n)
      ∧ ((∀ i, (s.ledger i).Fits) → s.Settles a →
          ∀ i, (s.step os a).2.ledger i = s.ledger i) := by
  cases a with
  | makeExecutable region q =>
      obtain rfl := Option.some.inj hp
      obtain ⟨hfails, hregions⟩ := s.onRegion_refused (activating_refused h os) region
      exact ⟨hfails, hregions, fun _ _ i => s.ledger_onRegion region _ i⟩
  | synchronize region q span =>
      obtain rfl := Option.some.inj hp
      have hs : (s.step os (.synchronize region q span)).2 = s := s.lookingAt_snd region _
      refine ⟨?_, fun n => by rw [hs], fun _ _ i => by rw [hs]⟩
      obtain ⟨fault, hn⟩ := Profile.ensureNative_of_ne h
      show ∃ fault, (s.lookingAt region _).1 = .error fault
      unfold lookingAt
      cases s.regions.get? region with
      | none => exact ⟨.noRegion, rfl⟩
      | some r =>
          -- a region that is there may have the span or not; either way it fails
          show ∃ fault, silently (r.synchronizeWith Profile.synchronize q span) = .error fault
          unfold Region.synchronizeWith
          split
          · exact ⟨.code .lostMapping, rfl⟩
          · split
            · exact ⟨.code fault, by rw [q.synchronize_eq_ensureNative span, hn]; rfl⟩
            · exact ⟨_, rfl⟩
          · split
            · exact ⟨.code fault, by rw [q.synchronize_eq_ensureNative span, hn]; rfl⟩
            · exact ⟨_, rfl⟩
  | envMakeExecutable env region =>
      obtain ⟨t, ht, rfl⟩ := Option.map_eq_some_iff.mp hp
      have hstep : s.step os (.envMakeExecutable env region)
          = s.onRegion region (activating os t.environment.profile) := by
        simp only [step, within, ht]
      obtain ⟨hfails, hregions⟩ := s.onRegion_refused (activating_refused h os) region
      rw [hstep]
      exact ⟨hfails, hregions, fun _ _ i => s.ledger_onRegion region _ i⟩
  | envSynchronize env code =>
      obtain ⟨t, ht, rfl⟩ := Option.map_eq_some_iff.mp hp
      obtain ⟨fault, hn⟩ := Profile.ensureNative_of_ne h
      have hstep : s.step os (.envSynchronize env code)
          = (silently t.environment.profile.ensureNative, s) := by
        simp only [step, within, ht, Environment.synchronize,
          Profile.synchronize_eq_ensureNative]
      rw [hstep, hn]
      exact ⟨⟨.code fault, rfl⟩, fun n => rfl, fun _ _ i => rfl⟩
  | install env region code =>
      obtain ⟨t, ht, rfl⟩ := Option.map_eq_some_iff.mp hp
      obtain ⟨fault, hfault⟩ :=
        Environment.install_foreign h os code (s.ledger t.ledger)
      rw [s.step_install_error ht (Prod.ext hfault rfl) region]
      refine ⟨⟨_, rfl⟩, fun n => rfl, fun hfits hsettles i => ?_⟩
      show (s.withLedger t.ledger (t.environment.install os code _).2).ledger i = _
      rw [Environment.install_foreign_snd h os code (hfits t.ledger) (hsettles t ht),
          withLedger_self]
  | _ => exact absurd hp.symm (Option.some_ne_none _)

end Session

/-! ## §2. Environments have facts. -/

/-- A release is accepted, or the region is unknown. -/
theorem Ledger.release_fst (l : Ledger) (size : Nat) :
    (l.release size).1 = .ok () ∨ (l.release size).1 = .error (.unknownRegion size) := by
  unfold release
  cases l.discountRegion? with
  | none => exact Or.inr rfl
  | some discounted =>
      simp only
      cases discounted.discountBytes? size with
      | none => exact Or.inr rfl
      | some settled => exact Or.inl rfl

namespace Environment

variable (e : Environment) (os : Platform) (cause : Unsupported)

/-- An installation never lacks facts. -/
theorem install_supported (code : Array UInt8) (l : Ledger) :
    (e.install os code l).1 ≠ .error (.unsupported cause) := by
  rcases e.install_cases os code l with
    ⟨fault, -, heq, hne⟩ | ⟨r, l', -, -, ⟨r', -, heq⟩ | ⟨fault, hfill, heq⟩⟩ <;> rw [heq]
  · exact fun h => hne.ne_unsupported cause (Except.error.inj h)
  · exact nofun
  · rcases l'.release_fst r.size with hok | hout
    · simp only [hok]
      exact fun h => (e.fill_error os code hfill).ne_unsupported cause (Except.error.inj h)
    · simp only [hout]
      exact nofun

/-- Where code is called never lacks facts. -/
theorem callTarget_supported (r : Region) (toc : UInt64) :
    e.callTarget r toc ≠ .error (.unsupported cause) := by
  have hentry : ∀ fault, r.entryAddress 0 = .error fault → fault ≠ .unsupported cause := by
    intro fault h
    unfold Region.entryAddress at h
    split at h
    · exact Except.error.inj h ▸ nofun
    · exact Except.error.inj h ▸ nofun
    · split at h
      · exact absurd h nofun
      · exact Except.error.inj h ▸ nofun
  unfold callTarget
  cases he : r.entryAddress 0 with
  | error fault => exact fun h => hentry fault he (Except.error.inj h)
  | ok entry =>
      -- the only question left is one the facts answer
      have hfacts := e.supported
      show (e.profile.callTarget (UInt64.ofNat entry) toc).mapError CodeFault.unsupported ≠ _
      unfold Profile.callTarget Profile.require
      unfold Profile.isSupported at hfacts
      cases hf : e.profile.facts? with
      | none => exact absurd (hf ▸ hfacts) nofun
      | some f => exact nofun

end Environment

namespace Session

variable (s : Session)

/-- One fault, one outcome. -/
theorem fault_inj {fault fault' : CodeFault}
    (h : (.error (.code fault) : Outcome) = .error (.code fault')) : fault = fault' :=
  SessionFault.code.inj (Except.error.inj h)

/-- A call that fails as its result does. -/
theorem silently_supported {result : Except CodeFault Unit} {cause : Unsupported}
    (h : result ≠ .error (.unsupported cause)) :
    silently result ≠ .error (.code (.unsupported cause)) := by
  cases result with
  | ok u => exact nofun
  | error fault => exact fun hcon => h (congrArg _ (fault_inj hcon))

/-- A call that yields a region, and fails as the making of it does. -/
theorem storing_supported {made : Except CodeFault Region × Ledger} {cause : Unsupported}
    (h : made.1 ≠ .error (.unsupported cause)) (region : String) (j : Nat) :
    (s.storing region j made).1 ≠ .error (.code (.unsupported cause)) := by
  unfold storing
  cases hm : made.1 with
  | ok r => exact nofun
  | error fault =>
      exact fun hcon => h (hm.trans (congrArg _ (fault_inj hcon)))

/-- **An environment never lacks facts**, whatever it is asked for. -/
theorem step_supported {os : Platform} {a : Action} {env : String}
    (ha : a.environment? = some env) (cause : Unsupported) :
    (s.step os a).1 ≠ .error (.code (.unsupported cause)) := by
  have hwithin : ∀ (name : String) (call : Tenant → Outcome × Session),
      (∀ t, (call t).1 ≠ .error (.code (.unsupported cause))) →
      (s.within name call).1 ≠ .error (.code (.unsupported cause)) := by
    intro name call hcall
    unfold within
    cases s.tenants.get? name with
    | none => exact nofun
    | some t => exact hcall t
  cases a with
  | envAllocate env region size =>
      refine hwithin env _ (fun t => s.storing_supported ?_ region t.ledger)
      rcases Environment.allocate_cases os t.environment.allocator size (s.ledger t.ledger) with
        ⟨fault, heq, hne⟩ | ⟨-, heq⟩ <;> rw [heq]
      · exact fun h => hne.ne_unsupported cause (Except.error.inj h)
      · exact nofun
  | envRelease env region =>
      refine hwithin env _ (fun t => ?_)
      unfold releasing
      cases s.regions.get? region with
      | none => exact nofun
      | some r =>
          show silently ((s.ledger t.ledger).release r.size).1 ≠ _
          refine silently_supported ?_
          rcases (s.ledger t.ledger).release_fst r.size with hok | hout
          · rw [hok]
            exact nofun
          · rw [hout]
            exact nofun
  | install env region code =>
      exact hwithin env _ (fun t => s.storing_supported
        (t.environment.install_supported os cause code (s.ledger t.ledger)) region t.ledger)
  | envMakeExecutable env region =>
      refine hwithin env _ (fun t => ?_)
      unfold onRegion
      cases s.regions.get? region with
      | none => exact nofun
      | some r =>
          show silently (r.makeExecutable os t.environment.profile).1 ≠ _
          refine silently_supported ?_
          exact fun h => (t.environment.makeExecutable_ordinary os h).ne_unsupported cause rfl
  | envSynchronize env code =>
      refine hwithin env _ (fun t => silently_supported ?_)
      unfold Environment.synchronize
      rw [Profile.synchronize_eq_ensureNative]
      exact fun h => (t.environment.ensureNative_ordinary h).ne_unsupported cause rfl
  | callTarget env region toc =>
      refine hwithin env _ (fun t => ?_)
      unfold lookingAt
      cases s.regions.get? region with
      | none => exact nofun
      | some r =>
          have h := t.environment.callTarget_supported cause r toc
          simp only
          cases hc : t.environment.callTarget r toc with
          | ok target => exact nofun
          | error fault =>
              intro hcon
              rw [hc] at h
              exact h (congrArg _ (fault_inj hcon))
  | _ => exact absurd ha nofun

/-! ## §3. Every run. -/

/-- **Only native code becomes executable**, in every run from a session in which
nothing is out: whoever switched an executable region last had this machine's
profile; a call for another machine's fails and changes nothing; and no
environment lacks facts. -/
theorem only_native_executes (allocators : Nat) (override : Option String)
    (steps : List (Platform × Action)) :
    let s := ((start allocators override).run steps).2
    (∀ name, s.isExecutable name = true →
        ∃ e, lastSwitch name ((start allocators override).trace steps) = some e
          ∧ e.Native name)
      ∧ (∀ os a p, s.profile? a = some p → p.family ≠ Profile.native.family →
          (∃ fault, (s.step os a).1 = .error fault)
            ∧ (∀ name, (s.step os a).2.regions.get? name = s.regions.get? name)
            ∧ (s.Settles a → ∀ i, (s.step os a).2.ledger i = s.ledger i))
      ∧ (∀ os a env, a.environment? = some env → ∀ cause,
          (s.step os a).1 ≠ .error (.code (.unsupported cause))) := by
  have hfits : ∀ i, ((start allocators override).ledger i).Fits := by
    intro i
    rw [ledger_start]
    exact Ledger.fits_empty
  refine ⟨fun name hx => ?_, fun os a p hp h => ?_, fun os a env ha => ?_⟩
  · rcases (start allocators override).run_executable steps hx with hlast | ⟨-, hstart⟩
    · exact hlast
    · exact absurd hstart nofun
  · obtain ⟨hfails, hregions, hledgers⟩ :=
      ((start allocators override).run steps).2.step_foreign os hp h
    exact ⟨hfails, hregions, hledgers ((start allocators override).run_fits hfits steps)⟩
  · exact ((start allocators override).run steps).2.step_supported ha

/-- An installation whose region makes the counters start over is not undone. -/
private theorem install_starts_over :
    (Environment.mk (.resolve .ppc64 .standard) {} rfl).install .standard #[0]
        ⟨163455, 2 ^ 64 - 1⟩
      = (.error (.unknownRegion 1), ⟨163456, 0⟩) := rfl

/-- One region after another is counted under one name until the counters are about
to start over. -/
private theorem install_after_replicate (n : Nat)
    (hcount : (⟨Ledger.wrap (0 + n), Ledger.wrap (0 + n * 112855183834753)⟩ : Ledger)
      = ⟨163455, 2 ^ 64 - 1⟩) :
    let created := ((start 1 none).step .standard
      (.create "e" (.resolve .ppc64 .standard) {} 0)).2
    let before := (created.run
      (List.replicate n (.standard, .allocate "r" 0 112855183834753))).2
    let after := before.step .standard (.install "e" "x" #[0])
    after.1 = .error (.code (.unknownRegion 1))
      ∧ before.ledger 0 = ⟨163455, 2 ^ 64 - 1⟩
      ∧ after.2.ledger 0 = ⟨163456, 0⟩ := by
  intro created before after
  have hi : 0 < created.ledgers.length := by decide
  have hi' : 0 < before.ledgers.length :=
    Nat.lt_of_lt_of_le hi (created.length_ledgers_run_le _)
  obtain ⟨hledger, htenants⟩ := created.run_replicate_allocate hi Ledger.fits_empty
    (show 0 < 112855183834753 by decide)
    (show Platform.standard.mapRefusal 112855183834753 = none by decide) "r" n
  have hledger' : before.ledger 0 = ⟨163455, 2 ^ 64 - 1⟩ := hledger.trans hcount
  have htenant : before.tenants.get? "e" = some ⟨⟨.resolve .ppc64 .standard, {}, rfl⟩, 0⟩ :=
    (congrArg (Store.get? "e") htenants).trans rfl
  -- the kernel must not run the allocations, so the step is taken by its law
  have hstep := before.step_install_error htenant
    ((congrArg _ hledger').trans install_starts_over) "x"
  refine ⟨congrArg Prod.fst hstep, hledger', ?_⟩
  exact (congrArg (fun r => r.2.ledger 0) hstep).trans
    ((before.ledger_withLedger hi' 0 _).trans (if_pos rfl))

/-- **A failed installation that shows in the counters**: an allocator that does not
count what it hands out takes it for a region that is counted; and one whose
counters start over with the region refuses to take it back. -/
theorem failed_install_counted :
    (let steps : List (Platform × Action) :=
        [(.standard, .allocate "r" 0 8),
          (.standard, .create "e" (.resolve .ppc64 .standard) (Allocator.mk 0 false) 0)]
      let before := ((start 1 none).run steps).2
      let after := before.step .standard (.install "e" "x" #[0])
      after.1 = .error (.code (.foreignTarget .ppc64 Profile.native.family))
        ∧ before.ledger 0 = ⟨1, 8⟩
        ∧ after.2.ledger 0 = ⟨0, 7⟩)
      ∧ (let created := ((start 1 none).step .standard
          (.create "e" (.resolve .ppc64 .standard) {} 0)).2
        let before := (created.run
          (List.replicate 163455 (.standard, .allocate "r" 0 112855183834753))).2
        let after := before.step .standard (.install "e" "x" #[0])
        after.1 = .error (.code (.unknownRegion 1))
          ∧ before.ledger 0 = ⟨163455, 2 ^ 64 - 1⟩
          ∧ after.2.ledger 0 = ⟨163456, 0⟩) :=
  ⟨⟨rfl, rfl, rfl⟩, install_after_replicate 163455 (by decide)⟩

end Session

end JitTarget
