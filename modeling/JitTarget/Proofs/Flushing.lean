/-
  JitTarget.Proofs.Flushing
  ────────────────────────────────
  **SYNCHRONIZING FLUSHES EXACTLY THE BYTES IT IS ASKED FOR.**

  The cache is flushed once, over the span that was given, or not at all; which of
  the two the facts and the span decide.  In front of it a region checks that it has
  its memory and the span, and the gate checks the profile.  Nothing of this changes
  the region:

      synchronizeBy_of_needsFlush, synchronizeBy_of_not, synchronizeBy_of_none
                                  — the ways to synchronize, for any flush
      run_synchronizeBy_noting    — the calls that are made are the ones reported
      synchronize_eq_firstFault   — a region reports its first obstacle
      after_filter_synchronizes   — a run without its synchronizations
      synchronization_exact       — all of it
-/
import JitTarget.Code.Flushing
import JitTarget.Proofs.SessionSteps

namespace JitTarget

/-! ## §1. Calls of a flush. -/

namespace Profile

section Flushes

variable {m : Type → Type} [Monad m] {p : Profile} {span : Span}

theorem cacheModel_of_some {facts : Facts} (h : p.facts? = some facts) :
    p.cacheModel = .ok facts.cacheModel := by
  unfold cacheModel require
  rw [h]
  rfl

/-- **Where a flush is needed** it is called, and nothing else is done. -/
theorem synchronizeBy_of_needsFlush (h : p.NeedsFlush span)
    (flush : Span → m (Except CodeFault Unit)) : p.synchronizeBy span flush = flush span := by
  obtain ⟨⟨facts, hfacts, hsplit⟩, hbytes⟩ := h
  have hempty : span.isEmpty = false := decide_eq_false (Nat.not_le.mpr hbytes)
  unfold synchronizeBy
  rw [cacheModel_of_some hfacts, hsplit, hempty]
  rfl

/-- **Where there are facts and none is needed** nothing is done, and that is a
success. -/
theorem synchronizeBy_of_not (h : ¬ p.NeedsFlush span) (hsupported : p.isSupported = true)
    (flush : Span → m (Except CodeFault Unit)) :
    p.synchronizeBy span flush = pure (.ok ()) := by
  obtain ⟨facts, hfacts⟩ := Option.isSome_iff_exists.mp hsupported
  unfold synchronizeBy
  rw [cacheModel_of_some hfacts]
  cases hmodel : facts.cacheModel with
  | unified => rfl
  | split =>
      have hbytes : ¬ span.start < span.stop := fun hlt => h ⟨⟨facts, hfacts, hmodel⟩, hlt⟩
      have hempty : span.isEmpty = true := decide_eq_true (Nat.not_lt.mp hbytes)
      simp only [hempty, if_true]

/-- **Without facts** nothing is done, and that is a failure. -/
theorem synchronizeBy_of_none (h : p.facts? = none)
    (flush : Span → m (Except CodeFault Unit)) :
    p.synchronizeBy span flush
      = pure (.error (.unsupported ⟨"instruction cache model"⟩)) := by
  unfold synchronizeBy cacheModel require
  rw [h]
  rfl

end Flushes

/-- **The calls that are made** are the ones reported, in number and in what they are
given, and so is the result. -/
theorem run_synchronizeBy_noting (p : Profile) (span : Span)
    (flush : Span → Except CodeFault Unit) (calls : List Span) :
    (p.synchronizeBy span (noting flush)).run calls
      = ((p.synchronizeWith span flush).result,
          calls ++ (p.synchronizeWith span flush).flushed.toList) := by
  unfold synchronizeBy synchronizeWith
  cases p.cacheModel with
  | error e => exact Prod.ext rfl (List.append_nil calls).symm
  | ok model =>
      cases model with
      | unified => exact Prod.ext rfl (List.append_nil calls).symm
      | split =>
          by_cases hempty : span.isEmpty = true
          · simp only [hempty, if_true]
            exact Prod.ext rfl (List.append_nil calls).symm
          · simp only [hempty]
            rfl

end Profile

/-! ## §2. Obstacles. -/

theorem firstFault_cons (b : Bool) (fault : CodeFault) (rest : List (Bool × CodeFault)) :
    firstFault ((b, fault) :: rest) = if b then .error fault else firstFault rest := by
  cases b <;> rfl

/-- Nothing is reported where no condition is met. -/
theorem firstFault_eq_ok_iff {obstacles : List (Bool × CodeFault)} :
    firstFault obstacles = .ok () ↔ ∀ o ∈ obstacles, o.1 = false := by
  induction obstacles with
  | nil => exact iff_of_true rfl (fun o ho => absurd ho List.not_mem_nil)
  | cons first rest ih =>
      obtain ⟨b, fault⟩ := first
      rw [firstFault_cons, List.forall_mem_cons, ← ih]
      cases b with
      | false => exact ⟨fun h => ⟨rfl, h⟩, And.right⟩
      | true => exact ⟨nofun, fun h => nomatch h.1⟩

/-- **The gate** has two obstacles: no facts, and another machine. -/
theorem Profile.ensureNative_eq_firstFault (p : Profile) :
    p.ensureNative
      = firstFault [(!p.isSupported, .unsupported ⟨"target profile"⟩),
          (p.family ≠ native.family, .foreignTarget p.family native.family)] := by
  rw [firstFault_cons, firstFault_cons]
  cases hs : p.isSupported with
  | false => exact ensureNative_of_unsupported hs
  | true =>
      by_cases hf : p.family = native.family
      · simp only [hf, ne_eq, not_true_eq_false, decide_false]
        exact p.ensureNative_eq_ok_iff.mpr ⟨hs, hf⟩
      · simp only [ne_eq, hf, not_false_eq_true, decide_true, if_true]
        exact ensureNative_of_foreign hs hf

namespace Region

variable (r : Region) (p : Profile) (span : Span)

/-- A region that has its memory and the span hands it on as it is. -/
theorem synchronizeWith_of_mapped (sync : Synchronizer) (h : r.phase ≠ .lost) :
    r.synchronizeWith sync p span
      = if span.start ≤ span.stop ∧ span.stop ≤ r.length then sync p span
        else .error (.outOfBounds span.start span.stop r.length) := by
  have hwithin : span.isWithin r.size = true ↔ span.start ≤ span.stop ∧ span.stop ≤ r.size := by
    simp only [Span.isWithin, Bool.and_eq_true, decide_eq_true_eq]
  rw [length_of_ne_lost h]
  unfold synchronizeWith
  cases hp : r.phase with
  | lost => exact absurd hp h
  | _ => simp only [hwithin]

/-- **A region reports its first obstacle**: the memory, the span, the facts and the
family, in this order. -/
theorem synchronize_eq_firstFault :
    r.synchronize p span = firstFault (r.obstacles p span) := by
  unfold obstacles
  rw [firstFault_cons, firstFault_cons, ← p.ensureNative_eq_firstFault]
  by_cases hlost : r.phase = .lost
  · simp only [synchronize, synchronizeWith, hlost, decide_true, if_true]
  · rw [synchronize, synchronizeWith_of_mapped r p span _ hlost]
    by_cases hwithin : span.start ≤ span.stop ∧ span.stop ≤ r.length
    · simp only [hlost, hwithin, and_self, not_true_eq_false, decide_false, if_true]
      exact p.synchronize_eq_ensureNative span
    · simp only [hlost, hwithin, not_false_eq_true, decide_true, decide_false, if_true]
      rfl

/-- A span is synchronized exactly if nothing is in the way. -/
theorem synchronize_eq_ok_iff :
    r.synchronize p span = .ok ()
      ↔ r.phase ≠ .lost ∧ (span.start ≤ span.stop ∧ span.stop ≤ r.length)
        ∧ p.isSupported = true ∧ p.family = Profile.native.family := by
  rw [synchronize_eq_firstFault, firstFault_eq_ok_iff]
  simp [obstacles]

/-- **For a profile that was resolved** the family tells whether it has facts. -/
theorem synchronize_resolve_eq_ok_iff (f : Family) (toolchain : Toolchain) :
    r.synchronize (.resolve f toolchain) span = .ok ()
      ↔ r.phase ≠ .lost ∧ (span.start ≤ span.stop ∧ span.stop ≤ r.length)
        ∧ f = Profile.native.family := by
  have hnative : (Profile.resolve f toolchain).isSupported = true
        ∧ (Profile.resolve f toolchain).family = Profile.native.family
      ↔ f = Profile.native.family := by
    rw [Profile.isSupported_resolve]
    constructor
    · exact And.right
    · rintro rfl
      exact ⟨rfl, rfl⟩
  rw [synchronize_eq_ok_iff, hnative]

/-! ## §3. Runs. -/

/-- **A run without its synchronizations** leaves the same region. -/
theorem after_filter_synchronizes (sync : Synchronizer) (calls : List (Platform × Call)) :
    r.after sync (calls.filter (fun call => !call.2.synchronizes)) = r.after sync calls := by
  induction calls generalizing r with
  | nil => rfl
  | cons first rest ih =>
      obtain ⟨os, c⟩ := first
      cases c with
      | synchronize p span => exact ih r
      | _ => exact ih _

end Region

/-! ## §4. Synchronizing. -/

/-- **SYNCHRONIZING FLUSHES EXACTLY THE BYTES IT IS ASKED FOR.**  For every profile,
span and flush, the flush is called once with this span and answers for the whole, if
there are facts, the cache is split and the span has bytes; it is not called at all
otherwise, which is a success where there are facts and a refusal where there are none.
A region, whatever was done with it, synchronizes a span exactly if it has its memory,
has the span, and the profile is for this machine; otherwise it reports the first of
these that fails, and for a profile without facts that rather than its family.  No
region is changed by it: not in a run, and not in a session, where nothing else changes
either. -/
theorem synchronization_exact :
    (∀ (p : Profile) (span : Span) (flush : Span → Except CodeFault Unit),
        let run := (p.synchronizeBy span (noting flush)).run []
        p.synchronizeWith span flush = ⟨run.2.head?, run.1⟩
          ∧ (p.NeedsFlush span → run = (flush span, [span]))
          ∧ (¬ p.NeedsFlush span → p.isSupported = true → run = (.ok (), []))
          ∧ (p.facts? = none →
              run = (.error (.unsupported ⟨"instruction cache model"⟩), [])))
      ∧ (∀ (r : Region) (p : Profile) (span : Span),
          r.synchronize p span = firstFault (r.obstacles p span)
            ∧ (r.synchronize p span = .ok ()
              ↔ r.phase ≠ .lost ∧ (span.start ≤ span.stop ∧ span.stop ≤ r.length)
                ∧ p.isSupported = true ∧ p.family = Profile.native.family))
      ∧ (∀ (r : Region) (f : Family) (toolchain : Toolchain) (span : Span),
          r.synchronize (.resolve f toolchain) span = .ok ()
            ↔ r.phase ≠ .lost ∧ (span.start ≤ span.stop ∧ span.stop ≤ r.length)
              ∧ f = Profile.native.family)
      ∧ (∀ (r : Region) sync calls,
          r.after sync (calls.filter (fun call => !call.2.synchronizes)) = r.after sync calls)
      ∧ (∀ (s : Session) os name r p span, s.regions.get? name = some r →
          s.step os (.synchronize name p span)
            = (Session.silently (r.synchronize p span), s)) := by
  refine ⟨fun p span flush => ?_, fun r p span => ?_, ?_, ?_, ?_⟩
  · have hcalls := p.run_synchronizeBy_noting span flush []
    refine ⟨?_, fun hneeds => ?_, fun hnot hsupported => ?_, fun hnone => ?_⟩
    · rw [hcalls]
      cases hs : p.synchronizeWith span flush with
      | mk flushed result => cases flushed <;> rfl
    · rw [Profile.synchronizeBy_of_needsFlush hneeds]
      rfl
    · rw [Profile.synchronizeBy_of_not hnot hsupported]
      rfl
    · rw [Profile.synchronizeBy_of_none hnone]
      rfl
  · exact ⟨r.synchronize_eq_firstFault p span, r.synchronize_eq_ok_iff p span⟩
  · exact fun r f toolchain span => r.synchronize_resolve_eq_ok_iff span f toolchain
  · exact fun r sync calls => r.after_filter_synchronizes sync calls
  · intro s os name r p span hr
    simp only [Session.step, Session.lookingAt, hr]

/-- A flush that fails is called with the eight bytes in question, and fails the whole;
it is not called for none.  A region reports a span that is turned round before it looks
at the machine the profile is for. -/
theorem synchronization_exact_split :
    let p := Profile.resolve .armV7 .standard
    let busy : Span → Except CodeFault Unit := fun _ => .error (.cacheSync "busy")
    p.NeedsFlush ⟨4, 12⟩
      ∧ (p.synchronizeBy ⟨4, 12⟩ (noting busy)).run [] = (.error (.cacheSync "busy"), [⟨4, 12⟩])
      ∧ ¬ p.NeedsFlush ⟨4, 4⟩ ∧ p.isSupported = true
      ∧ (p.synchronizeBy ⟨4, 4⟩ (noting busy)).run [] = (.ok (), [])
      ∧ (Region.fresh 16).synchronize p ⟨12, 4⟩ = .error (.outOfBounds 12 4 16)
      ∧ (Region.fresh 16).synchronize Profile.native ⟨0, 16⟩ = .ok () := by
  intro p busy
  have hneeds : p.NeedsFlush ⟨4, 12⟩ := ⟨⟨_, rfl, rfl⟩, by decide⟩
  have hnot : ¬ p.NeedsFlush ⟨4, 4⟩ := fun h => absurd h.2 (Nat.lt_irrefl 4)
  obtain ⟨hflush, hregion, -⟩ := synchronization_exact
  refine ⟨hneeds, (hflush p ⟨4, 12⟩ busy).2.1 hneeds, hnot, rfl,
    (hflush p ⟨4, 4⟩ busy).2.2.1 hnot rfl, (hregion _ p ⟨12, 4⟩).1, ?_⟩
  exact (hregion _ Profile.native ⟨0, 16⟩).2.mpr ⟨by decide, by decide, rfl, rfl⟩

end JitTarget
