/-
  JitTarget.Proofs.NativeGate
  ────────────────────────────────
  **ONLY NATIVE CODE BECOMES EXECUTABLE.**

  Every way to make a region executable passes one gate.  Of every run:

      step_switches   — who switches a region has this machine's profile
      run_executable  — so had whoever switched an executable region last
-/
import JitTarget.Code.Trace
import JitTarget.Proofs.Dealings

namespace JitTarget

/-! ## §1. The gate of a region. -/

/-- A profile for another machine does not pass. -/
theorem Profile.ensureNative_of_ne {p : Profile} (h : p.family ≠ native.family) :
    ∃ fault, p.ensureNative = .error fault := by
  cases hn : p.ensureNative with
  | error fault => exact ⟨fault, rfl⟩
  | ok u => exact absurd ((p.ensureNative_eq_ok_iff).mp hn).2 h

/-- A region stays as it is when the profile does not pass. -/
theorem Region.makeExecutable_foreign (os : Platform) (r : Region) {p : Profile}
    (h : p.family ≠ Profile.native.family) :
    ∃ fault, r.makeExecutable os p = (.error fault, r) := by
  obtain ⟨fault, hn⟩ := Profile.ensureNative_of_ne h
  exact ⟨fault, by simp only [makeExecutable, makeExecutableWith, hn]⟩

/-- **A region that became executable** passed the gate. -/
theorem Region.ensureNative_of_executable {os : Platform} {r : Region} {p : Profile}
    (hr : r.phase ≠ .executable) (hx : (r.makeExecutable os p).2.phase = .executable) :
    p.ensureNative = .ok () ∧ (r.makeExecutable os p).1 = .ok () := by
  unfold makeExecutable at hx ⊢
  -- refused and unchanged, executable already, lost, or switched
  rcases r.makeExecutableWith_cases Profile.synchronize os p with
    ⟨fault, h, -⟩ | ⟨-, hphase, -⟩ | ⟨hn, -, -, ⟨cause, -, h⟩ | h⟩
  · rw [h] at hx
    exact absurd hx hr
  · exact absurd hphase hr
  · rw [h] at hx
    exact absurd hx nofun
  · exact ⟨hn, by rw [h]⟩

/-- A region does not become executable by being made writable. -/
theorem Region.makeWritable_executable {os : Platform} {r : Region}
    (hx : (r.makeWritable os).2.phase = .executable) : r.phase = .executable := by
  rcases r.makeWritable_cases os with h | ⟨hphase, -⟩
  · rw [h] at hx
    exact hx
  · exact hphase

/-- A region does not become executable by being written. -/
theorem Region.write_phase {r r' : Region} {offset : Nat} {bytes : Array UInt8}
    (h : r.write offset bytes = .ok r') : r'.phase = r.phase := by
  obtain ⟨-, -, rfl⟩ := (Region.write_eq_ok_iff r r' offset bytes).mp h
  rfl

/-- A region that was mapped is new. -/
theorem Region.eq_fresh_of_map {os : Platform} {size : Nat} {r : Region}
    (h : Region.map os size = .ok r) : r = Region.fresh size := by
  unfold Region.map at h
  split at h
  · exact absurd h nofun
  · exact (Except.ok.inj h).symm

/-- A region that was allocated is new. -/
theorem Ledger.eq_fresh_of_allocate {os : Platform} {size : Nat} {l : Ledger} {r : Region}
    (h : (l.allocate os size).1 = .ok r) : r = Region.fresh size := by
  rcases Ledger.allocate_cases os size l with ⟨fault, heq, -⟩ | ⟨-, heq⟩ <;> rw [heq] at h
  · exact absurd h nofun
  · exact (Except.ok.inj h).symm

/-- **Code that was installed** passed the gate. -/
theorem Environment.ensureNative_of_install {e : Environment} {os : Platform}
    {code : Array UInt8} {l : Ledger} {r : Region} (h : (e.install os code l).1 = .ok r) :
    e.profile.ensureNative = .ok () := by
  rcases e.install_cases os code l with
    ⟨fault, -, heq, -⟩ | ⟨r₀, l', -, -, ⟨r', hfill, -⟩ | ⟨fault, -, heq⟩⟩
  · rw [heq] at h
    exact absurd h nofun
  · exact (e.fill_ok os code hfill).1
  · rw [heq] at h
    split at h <;> exact absurd h nofun

namespace Session

variable (s : Session) {name : String}

/-! ## §2. Who switches a region. -/

theorem isExecutable_iff (s : Session) (name : String) :
    s.isExecutable name = true ↔ ∃ r, s.regions.get? name = some r ∧ r.phase = .executable := by
  unfold isExecutable
  cases s.regions.get? name with
  | none => simp
  | some r => simp

theorem isExecutable_congr {s s' : Session} (h : s'.regions = s.regions) (name : String) :
    s'.isExecutable name = s.isExecutable name := by
  unfold isExecutable
  rw [h]

theorem lastSwitch_cons (name : String) (e : Event) (es : List Event) :
    lastSwitch name (e :: es)
      = (lastSwitch name es).or (if e.switches name then some e else none) := by
  unfold lastSwitch
  rw [List.filter_cons]
  split
  · rw [List.getLast?_cons]
    cases (es.filter (fun e => e.switches name)).getLast? <;> rfl
  · rw [Option.or_none]

/-- Storing a region that is not executable makes none executable. -/
theorem storing_executable {made : Except CodeFault Region × Ledger} {region : String} {j : Nat}
    (hmade : ∀ r, made.1 = .ok r → r.phase ≠ .executable)
    (hx : (s.storing region j made).2.isExecutable name = true) :
    s.isExecutable name = true
      ∧ ((s.storing region j made).1.isOk = true → some region ≠ some name) := by
  obtain ⟨r, hr, hphase⟩ := (isExecutable_iff _ name).mp hx
  rw [get?_storing] at hr
  cases hm : made.1 with
  | error fault =>
      simp only [hm] at hr
      refine ⟨(isExecutable_iff s name).mpr ⟨r, hr, hphase⟩, fun hok => ?_⟩
      simp [storing, hm, Except.isOk, Except.toBool] at hok
  | ok r' =>
      simp only [hm] at hr
      by_cases hn : name = region
      · rw [hn, beq_self_eq_true, if_pos rfl] at hr
        exact absurd hphase (Option.some.inj hr ▸ hmade r' hm)
      · rw [beq_false_of_ne hn] at hr
        refine ⟨(isExecutable_iff s name).mpr ⟨r, hr, hphase⟩, fun _ hcon => ?_⟩
        exact hn (Option.some.inj hcon).symm

/-- A call on a region that makes it executable only if it was makes none
executable. -/
theorem onRegion_executable {call : Region → Outcome × Region}
    (hcall : ∀ r, (call r).2.phase = .executable → r.phase = .executable) {region : String}
    (hx : (s.onRegion region call).2.isExecutable name = true) :
    s.isExecutable name = true := by
  obtain ⟨r, hr, hphase⟩ := (isExecutable_iff _ name).mp hx
  rw [get?_onRegion] at hr
  by_cases hn : name = region
  · subst hn
    rw [beq_self_eq_true, if_pos rfl] at hr
    obtain ⟨r₀, hr₀, rfl⟩ := Option.map_eq_some_iff.mp hr
    exact (isExecutable_iff s name).mpr ⟨r₀, hr₀, hcall r₀ hphase⟩
  · rw [beq_false_of_ne hn] at hr
    exact (isExecutable_iff s name).mpr ⟨r, hr, hphase⟩

/-- Taking a region out makes none executable. -/
theorem executable_of_erased {s s' : Session} {region : String}
    (hget : ∀ n, s'.regions.get? n = if n == region then none else s.regions.get? n)
    (hx : s'.isExecutable name = true) : s.isExecutable name = true := by
  obtain ⟨r, hr, hphase⟩ := (isExecutable_iff s' name).mp hx
  rw [hget] at hr
  split at hr
  · exact absurd hr nofun
  · exact (isExecutable_iff s name).mpr ⟨r, hr, hphase⟩

/-- **A call that makes no region executable**: what is executable after it was so
before, and was not put there by it. -/
theorem executable_of_untargeted {os : Platform} {a : Action} (ha : a.target? = none)
    (hx : (s.step os a).2.isExecutable name = true) :
    s.isExecutable name = true
      ∧ ((s.step os a).1.isOk = true → a.puts? ≠ some name) := by
  -- only a region that was made can be stored, and it is new
  have hallocate : ∀ size (l : Ledger) r, (l.allocate os size).1 = .ok r →
      r.phase ≠ .executable := by
    intro size l r hr
    rw [Ledger.eq_fresh_of_allocate hr]
    exact nofun
  have hmap : ∀ size r, Region.map os size = .ok r → r.phase ≠ .executable := by
    intro size r hr
    rw [Region.eq_fresh_of_map hr]
    exact nofun
  -- the other calls store nothing
  have hnone : none ≠ some name := (Option.some_ne_none name).symm
  cases a with
  | allocate region j size => exact s.storing_executable (hallocate size (s.ledger j)) hx
  | map region size =>
      rw [s.step_map os region size 0] at hx ⊢
      exact s.storing_executable (hmap size) hx
  | envAllocate env region size =>
      -- the plain call is an allocation, or a mapping where nothing is counted
      rw [← step_plain] at hx ⊢
      cases ht : s.tenants.get? env with
      | none =>
          simp only [plain, ht, step, within] at hx ⊢
          exact ⟨hx, fun hok => absurd hok Bool.false_ne_true⟩
      | some t =>
          simp only [plain, ht] at hx ⊢
          split at hx
          next hc =>
            rw [if_pos hc]
            exact s.storing_executable (hallocate _ (s.ledger t.ledger)) hx
          next hc =>
            rw [if_neg hc]
            rw [s.step_map os region _ 0] at hx ⊢
            exact s.storing_executable (hmap _) hx
  | release region j =>
      exact ⟨executable_of_erased (s.get?_releasing region j) hx, fun _ => hnone⟩
  | envRelease env region =>
      refine ⟨?_, fun _ => hnone⟩
      rw [← step_plain] at hx
      cases ht : s.tenants.get? env with
      | none => simpa only [plain, ht, step, within] using hx
      | some t =>
          simp only [plain, ht] at hx
          exact executable_of_erased (s.get?_releasing region t.ledger) hx
  | drop region => exact ⟨executable_of_erased (s.get?_drop os region) hx, fun _ => hnone⟩
  | write region offset bytes =>
      refine ⟨s.onRegion_executable (fun r hr => ?_) hx, fun _ => hnone⟩
      split at hr
      next r' hw => exact (Region.write_phase hw).symm.trans hr
      next => exact hr
  | makeWritable region =>
      exact ⟨s.onRegion_executable (fun r => Region.makeWritable_executable) hx, fun _ => hnone⟩
  | read region span =>
      refine ⟨?_, fun _ => hnone⟩
      simpa only [step, lookingAt_snd] using hx
  | synchronize region p span =>
      refine ⟨?_, fun _ => hnone⟩
      simpa only [step, lookingAt_snd] using hx
  | entryAddress region offset =>
      refine ⟨?_, fun _ => hnone⟩
      simpa only [step, lookingAt_snd] using hx
  | create env p allocator j =>
      exact ⟨(isExecutable_congr (s.creating_frame env p allocator j).1 name) ▸ hx,
        fun _ => hnone⟩
  | createHost env =>
      exact ⟨(isExecutable_congr (s.creatingAlone_frame env _).1 name) ▸ hx, fun _ => hnone⟩
  | createNative env =>
      exact ⟨(isExecutable_congr (s.creatingAlone_frame env _).1 name) ▸ hx, fun _ => hnone⟩
  | envSynchronize env code =>
      refine ⟨?_, fun _ => hnone⟩
      rw [show (s.step os (.envSynchronize env code)).2 = s from
        s.within_snd_of_forall env _ (fun t => rfl)] at hx
      exact hx
  | callTarget env region toc =>
      refine ⟨?_, fun _ => hnone⟩
      rw [show (s.step os (.callTarget env region toc)).2 = s from
        s.within_snd_of_forall env _ (fun t => s.lookingAt_snd region _)] at hx
      exact hx
  | makeExecutable region p => exact absurd ha (Option.some_ne_none _)
  | install env region code => exact absurd ha (Option.some_ne_none _)
  | envMakeExecutable env region => exact absurd ha (Option.some_ne_none _)

/-- A call that makes a region executable which was not. -/
theorem activating_native {os : Platform} {p : Profile} {region : String}
    (hbefore : s.isExecutable name = false)
    (hx : (s.onRegion region (activating os p)).2.isExecutable name = true) :
    region = name ∧ p.family = Profile.native.family
      ∧ (s.onRegion region (activating os p)).1 = .ok .done := by
  obtain ⟨r, hr, hphase⟩ := (isExecutable_iff _ name).mp hx
  have hnot : ∀ r₀, s.regions.get? name = some r₀ → r₀.phase ≠ .executable := by
    intro r₀ hr₀ hp
    rw [(isExecutable_iff s name).mpr ⟨r₀, hr₀, hp⟩] at hbefore
    exact absurd hbefore nofun
  rw [get?_onRegion] at hr
  by_cases hn : name = region
  · subst hn
    rw [beq_self_eq_true, if_pos rfl] at hr
    obtain ⟨r₀, hr₀, rfl⟩ := Option.map_eq_some_iff.mp hr
    obtain ⟨hnative, hok⟩ := Region.ensureNative_of_executable (hnot r₀ hr₀) hphase
    refine ⟨rfl, ((p.ensureNative_eq_ok_iff).mp hnative).2, ?_⟩
    simp only [onRegion, hr₀, activating, hok, silently]
  · rw [beq_false_of_ne hn] at hr
    exact absurd hphase (hnot r hr)

/-- Storing what an installation yields. -/
theorem installing_native {os : Platform} {e : Environment} {code : Array UInt8} {l : Ledger}
    {region : String} {j : Nat}
    (hx : (s.storing region j (e.install os code l)).2.isExecutable name = true) :
    (s.isExecutable name = true
        ∧ ((s.storing region j (e.install os code l)).1.isOk = true → region ≠ name))
      ∨ (region = name ∧ e.profile.family = Profile.native.family
        ∧ (s.storing region j (e.install os code l)).1 = .ok .done) := by
  obtain ⟨r, hr, hphase⟩ := (isExecutable_iff _ name).mp hx
  rw [get?_storing] at hr
  cases hm : (e.install os code l).1 with
  | error fault =>
      simp only [hm] at hr
      refine Or.inl ⟨(isExecutable_iff s name).mpr ⟨r, hr, hphase⟩, fun hok => ?_⟩
      simp [storing, hm, Except.isOk, Except.toBool] at hok
  | ok r' =>
      simp only [hm] at hr
      by_cases hn : name = region
      · have hnative := Environment.ensureNative_of_install hm
        refine Or.inr ⟨hn.symm, ((e.profile.ensureNative_eq_ok_iff).mp hnative).2, ?_⟩
        simp only [storing, hm]
      · rw [beq_false_of_ne hn] at hr
        exact Or.inl ⟨(isExecutable_iff s name).mpr ⟨r, hr, hphase⟩, fun _ => Ne.symm hn⟩

/-- A call that switched a region found it not executable, or put it there. -/
theorem switches_iff (e : Event) (name : String) :
    e.switches name = true ↔ e.after.isExecutable name = true
      ∧ (e.before.isExecutable name = false
        ∨ (e.succeeds = true ∧ e.action.puts? = some name)) := by
  simp [Event.switches]

/-- **Who switches a region** to executable has this machine's profile. -/
theorem step_switches {os : Platform} {a : Action}
    (h : (s.event os a).switches name = true) : (s.event os a).Native name := by
  obtain ⟨hx, hwhy⟩ := (switches_iff (s.event os a) name).mp h
  -- three calls have a target; all others leave executable regions as they find them
  cases ht : a.target? with
  | none =>
      obtain ⟨hbefore, hputs⟩ := s.executable_of_untargeted ht hx
      rcases hwhy with hnot | ⟨hok, hput⟩
      · exact absurd (hbefore.symm.trans hnot) (by decide)
      · exact absurd hput (hputs hok)
  | some region =>
      cases a with
      | makeExecutable region p =>
          rcases hwhy with hnot | ⟨-, hput⟩
          · obtain ⟨rfl, hp, hdone⟩ := s.activating_native hnot hx
            exact ⟨rfl, ⟨p, rfl, hp⟩, hdone⟩
          · exact absurd hput.symm (Option.some_ne_none name)
      | envMakeExecutable env region =>
          rcases hwhy with hnot | ⟨-, hput⟩
          · cases htenant : s.tenants.get? env with
            | none =>
                simp only [event, step, within, htenant] at hx hnot
                exact absurd (hx.symm.trans hnot) (by decide)
            | some t =>
                have hstep : s.step os (.envMakeExecutable env region)
                    = s.onRegion region (activating os t.environment.profile) := by
                  simp only [step, within, htenant]
                simp only [event, hstep] at hx hnot
                obtain ⟨rfl, hp, hdone⟩ := s.activating_native hnot hx
                refine ⟨rfl, ⟨t.environment.profile, ?_, hp⟩, (congrArg Prod.fst hstep).trans hdone⟩
                simp only [event, profile?, htenant, Option.map_some]
          · exact absurd hput.symm (Option.some_ne_none name)
      | install env region code =>
          cases htenant : s.tenants.get? env with
          | none =>
              have hstep : s.step os (.install env region code) = (.error .noEnvironment, s) := by
                simp only [step, within, htenant]
              simp only [event, hstep, Event.succeeds] at hx hwhy
              rcases hwhy with hnot | ⟨hok, -⟩
              · exact absurd (hx.symm.trans hnot) (by decide)
              · exact absurd hok Bool.false_ne_true
          | some t =>
              have hstep : s.step os (.install env region code)
                  = s.storing region t.ledger
                      (t.environment.install os code (s.ledger t.ledger)) := by
                simp only [step, within, htenant]
              simp only [event, hstep, Event.succeeds] at hx hwhy
              rcases s.installing_native hx with ⟨hbefore, hother⟩ | ⟨rfl, hp, hdone⟩
              · -- the region was there before, so it is not the one installed
                rcases hwhy with hnot | ⟨hok, hput⟩
                · exact absurd (hbefore.symm.trans hnot) (by decide)
                · exact absurd (Option.some.inj hput) (hother hok)
              · refine ⟨rfl, ⟨t.environment.profile, ?_, hp⟩, (congrArg Prod.fst hstep).trans hdone⟩
                simp only [event, profile?, htenant, Option.map_some]
      | _ => exact absurd ht.symm (Option.some_ne_none region)

/-- **Who switched last**: a region that is executable was so before the run, or the
last to switch it had this machine's profile. -/
theorem run_executable (steps : List (Platform × Action))
    (hx : (s.run steps).2.isExecutable name = true) :
    (∃ e, lastSwitch name (s.trace steps) = some e ∧ e.Native name)
      ∨ (lastSwitch name (s.trace steps) = none ∧ s.isExecutable name = true) := by
  -- the rest of the run has a last switch, or its first call has to answer for it
  induction steps generalizing s with
  | nil => exact Or.inr ⟨rfl, hx⟩
  | cons first rest ih =>
      obtain ⟨os, a⟩ := first
      have hcons : lastSwitch name (s.trace ((os, a) :: rest))
          = (lastSwitch name ((s.step os a).2.trace rest)).or
            (if (s.event os a).switches name then some (s.event os a) else none) :=
        lastSwitch_cons name (s.event os a) _
      rcases ih (s.step os a).2 hx with ⟨e, hlast, hnative⟩ | ⟨hlast, hafter⟩
      · rw [hcons, hlast]
        exact Or.inl ⟨e, rfl, hnative⟩
      · rw [hcons, hlast, Option.none_or]
        cases hs : (s.event os a).switches name with
        | true => exact Or.inl ⟨s.event os a, rfl, s.step_switches hs⟩
        | false =>
            refine Or.inr ⟨rfl, ?_⟩
            cases hb : s.isExecutable name with
            | true => rfl
            | false =>
                -- executable after the call, not before, yet not switched by it
                rw [(switches_iff (s.event os a) name).mpr ⟨hafter, Or.inl hb⟩] at hs
                exact absurd hs nofun

end Session

end JitTarget
