/-
  JitTarget.Proofs.Accounting
  ────────────────────────────────
  **WHAT AN ALLOCATOR CAN BE TRUSTED WITH.**

  Two results on one allocator among the others of a session, over every run:

    • `allocator_accounts_for_run` — its counters are what it allocated less
      what it took back; given only its own regions, it refuses none of them;
    • `release_goes_by_counters` — it knows a region by its size alone, so a
      region of somebody else's may pass for its own.
-/
import JitTarget.Proofs.Outstanding

namespace JitTarget

namespace Session

variable (s : Session) {i : Nat} {c : Custody}

/-! ## §1. Runs in parts. -/

theorem traffic_append (i : Nat) (first rest : List (Platform × Action)) :
    s.traffic i (first ++ rest) = s.traffic i first ++ (s.run first).2.traffic i rest := by
  induction first generalizing s with
  | nil => rfl
  | cons step first ih =>
      show s.dealings i step.1 step.2 ++ (s.step step.1 step.2).2.traffic i (first ++ rest) = _
      rw [ih (s.step step.1 step.2).2, ← List.append_assoc]
      rfl

/-- The first part of a run that gives an allocator only its own does so too. -/
theorem OwnOnly.of_append {first rest : List (Platform × Action)}
    (h : s.OwnOnly i c (first ++ rest)) : s.OwnOnly i c first := by
  induction first generalizing s c with
  | nil => trivial
  | cons step first ih =>
      obtain ⟨hfirst, hrest⟩ := h
      exact ⟨hfirst, ih (s.step step.1 step.2).2 hrest⟩

/-- A release answers what the allocator does. -/
theorem step_release_fst (os : Platform) {a : Action} {name : String} {i : Nat}
    (hp : s.plain a = .release name i) {r : Region} (hr : s.regions.get? name = some r) :
    (s.step os a).1 = silently ((s.ledger i).release r.size).1 := by
  rw [← step_plain, hp]
  simp only [step, releasing, hr]

/-! ## §2. The account of one allocator. -/

/-- What holds of a run that gives an allocator only its own, from the time nobody
had used it. -/
theorem run_own_empty (hi : i < s.ledgers.length) (hnew : s.ledger i = Ledger.empty)
    (steps : List (Platform × Action)) (hown : s.OwnOnly i [] steps)
    (hfit : (Ledger.allocated (Ledger.empty.history (s.traffic i steps))).sum < 2 ^ 64) :
    Ledger.refused (Ledger.empty.history (s.traffic i steps)) = []
      ∧ (s.custodyAfter i [] steps).total < 2 ^ 64 := by
  have hrun := s.run_own hi (Custody.Matches.nil s) (hnew ▸ Custody.tallies_empty) steps hown
  rw [hnew, show Custody.total [] = 0 from rfl, Nat.zero_add] at hrun
  exact hrun hfit

/-- **Its own are accepted**: in a run that gives an allocator only its own
regions, every release succeeds. -/
theorem step_release_own (hi : i < s.ledgers.length) (hnew : s.ledger i = Ledger.empty)
    {steps : List (Platform × Action)} {os : Platform} {a : Action}
    (hown : s.OwnOnly i [] (steps ++ [(os, a)]))
    (hfit : (Ledger.allocated
      (Ledger.empty.history (s.traffic i (steps ++ [(os, a)])))).sum < 2 ^ 64)
    {name : String} (hp : (s.run steps).2.plain a = .release name i) {r : Region}
    (hr : (s.run steps).2.regions.get? name = some r) :
    ((s.run steps).2.step os a).1 = .ok .done := by
  obtain ⟨hnone, -⟩ := s.run_own_empty hi hnew _ hown hfit
  have hledger : (s.run steps).2.ledger i = Ledger.empty.serveAll (s.traffic i steps) := by
    rw [run_ledger s hi, hnew]
  have hdeal : (s.run steps).2.traffic i [(os, a)] = [.release r] :=
    congrArg (· ++ []) ((s.run steps).2.dealings_release os hp hr)
  rw [traffic_append, hdeal, Ledger.history_append, Ledger.refused_append, ← hledger] at hnone
  rw [step_release_fst _ os hp hr]
  -- a release that is refused would show in the history
  cases hres : (((s.run steps).2.ledger i).release r.size).1 with
  | ok u => rfl
  | error fault =>
      simp [Ledger.history, Ledger.serve, hres, Ledger.refused] at hnone

/-- **An allocator accounts for every run** of a session, whatever regions are
given back to it, as long as all it allocates fits an address. Given only its
own regions it refuses none, and its counters are what is out. -/
theorem allocator_accounts_for_run (hi : i < s.ledgers.length)
    (hnew : s.ledger i = Ledger.empty) (steps : List (Platform × Action))
    (hfit : (Ledger.allocated (Ledger.empty.history (s.traffic i steps))).sum < 2 ^ 64) :
    (s.run steps).2.ledger i = Ledger.empty.serveAll (s.traffic i steps)
      ∧ (∀ calls, calls <+: s.traffic i steps →
          let counters := Ledger.empty.serveAll calls
          let events := Ledger.empty.history calls
          counters.regions + (Ledger.released events).length = (Ledger.allocated events).length
            ∧ counters.bytes + (Ledger.released events).sum = (Ledger.allocated events).sum)
      ∧ (∀ calls call, calls ++ [call] <+: s.traffic i steps →
          (Ledger.empty.serveAll calls).CountsInRange call)
      ∧ (s.OwnOnly i [] steps →
          Ledger.refused (Ledger.empty.history (s.traffic i steps)) = []
            ∧ (∀ before os a, before ++ [(os, a)] <+: steps →
                ∀ name r, (s.run before).2.plain a = .release name i →
                  (s.run before).2.regions.get? name = some r →
                  ((s.run before).2.step os a).1 = .ok .done)
            ∧ (s.run steps).2.ledger i
                = ⟨(s.custodyAfter i [] steps).length, (s.custodyAfter i [] steps).total⟩) := by
  have hledger : (s.run steps).2.ledger i = Ledger.empty.serveAll (s.traffic i steps) := by
    rw [run_ledger s hi, hnew]
  refine ⟨hledger, fun calls hpart => ?_, fun calls call hpart => ?_, fun hown => ?_⟩
  · have h := Ledger.balances_serveAll calls
      (Nat.lt_of_le_of_lt (Ledger.sum_allocated_le Ledger.empty hpart) hfit)
    exact ⟨h.regions_eq, h.bytes_eq⟩
  · -- the bound covers the call as well as what came before it
    have hpart' : calls <+: s.traffic i steps := (List.prefix_append calls [call]).trans hpart
    have h := Ledger.balances_serveAll calls
      (Nat.lt_of_le_of_lt (Ledger.sum_allocated_le Ledger.empty hpart') hfit)
    refine h.countsInRange call (Nat.lt_of_le_of_lt (Nat.le_of_eq ?_)
      (Nat.lt_of_le_of_lt (Ledger.sum_allocated_le Ledger.empty hpart) hfit))
    rw [Ledger.history_append]
    rfl
  · have hm := Custody.Matches.nil s
    have ht : Custody.Tallies [] (s.ledger i) := hnew ▸ Custody.tallies_empty
    obtain ⟨hnone, htotal⟩ := s.run_own_empty hi hnew steps hown hfit
    refine ⟨hnone, ?_, ?_⟩
    · rintro before os a ⟨rest, rfl⟩ name r hp hr
      rw [traffic_append] at hfit
      exact s.step_release_own hi hnew hown.of_append
        (Nat.lt_of_le_of_lt (Ledger.sum_allocated_le Ledger.empty (List.prefix_append _ _)) hfit)
        hp hr
    · exact (s.run_tallies hi hm ht steps (hown.foreignRefused s)).eq_of_lt
        (s.run_matches hm i steps) htotal

/-- Two regions of its own, one of them given back, and one of another's that is
not. -/
theorem allocator_accounts_for_two :
    let steps : List (Platform × Action) :=
      [(.standard, .allocate "kept" 0 16), (.standard, .allocate "own" 0 8),
        (.standard, .map "stray" 64), (.standard, .release "own" 0)]
    (0 < (start 1 none).ledgers.length ∧ (start 1 none).ledger 0 = Ledger.empty
        ∧ (Ledger.allocated (Ledger.empty.history ((start 1 none).traffic 0 steps))).sum
          < 2 ^ 64)
      ∧ (start 1 none).OwnOnly 0 [] steps
      ∧ ((start 1 none).run steps).2.ledger 0 = ⟨1, 16⟩ := by
  have hown : (start 1 none).OwnOnly 0 []
      [(.standard, .allocate "kept" 0 16), (.standard, .allocate "own" 0 8),
        (.standard, .map "stray" 64), (.standard, .release "own" 0)] :=
    ⟨rfl, rfl, rfl, rfl, trivial⟩
  refine ⟨⟨by decide, rfl, by decide⟩, hown, ?_⟩
  exact ((allocator_accounts_for_run (start 1 none) (by decide) rfl _ (by decide)).2.2.2
    hown).2.2

/-! ## §3. What the counters cannot tell. -/

/-- **A release goes by the counters alone**: it is refused, and nothing changes,
exactly when no region is counted or fewer bytes are than the region has. As
long as whatever was somebody else's was refused, and what is out fits an
address, an allocator's own regions are accepted. -/
theorem release_goes_by_counters (hi : i < s.ledgers.length) (hnew : s.ledger i = Ledger.empty)
    (steps : List (Platform × Action)) (os : Platform) {a : Action} {name : String}
    (hp : (s.run steps).2.plain a = .release name i) {r : Region}
    (hr : (s.run steps).2.regions.get? name = some r) :
    let before := (s.run steps).2
    let after := (s.run steps).2.step os a
    (if (before.ledger i).regions = 0 ∨ (before.ledger i).bytes < r.size
      then after.1 = .error (.code (.unknownRegion r.size))
        ∧ after.2.ledger i = before.ledger i
      else after.1 = .ok .done
        ∧ after.2.ledger i
          = ⟨(before.ledger i).regions - 1, (before.ledger i).bytes - r.size⟩)
      ∧ (s.ForeignRefused i [] steps → (s.custodyAfter i [] steps).total < 2 ^ 64 →
          (s.custodyAfter i [] steps).holds name = true → after.1 = .ok .done) := by
  have hm := Custody.Matches.nil s
  have ht : Custody.Tallies [] (s.ledger i) := hnew ▸ Custody.tallies_empty
  have hi' : i < (s.run steps).2.ledgers.length :=
    Nat.lt_of_lt_of_le hi (s.length_ledgers_run_le steps)
  have hfits : ((s.run steps).2.ledger i).Fits := by
    rw [run_ledger s hi]
    exact ht.fits.serveAll _
  have houtcome := (s.run steps).2.step_release_fst os hp hr
  have hledger : ((s.run steps).2.step os a).2.ledger i
      = (((s.run steps).2.ledger i).release r.size).2 := by
    rw [step_ledger _ hi', dealings_release _ os hp hr]
    rfl
  have hrelease := Ledger.release_eq ((s.run steps).2.ledger i) r.size hfits.regions_lt
  constructor
  · -- refused exactly when the counters cannot take it off
    split
    next hout =>
      rw [if_pos hout] at hrelease
      rw [houtcome, hledger, hrelease]
      exact ⟨rfl, rfl⟩
    next hin =>
      rw [if_neg hin] at hrelease
      rw [houtcome, hledger, hrelease]
      exact ⟨rfl, rfl⟩
  · intro hrefused htotal hheld
    have htally := s.run_tallies hi hm ht steps hrefused
    rw [if_neg (htally.admits (s.run_matches hm i steps) htotal hheld hr)] at hrelease
    rw [houtcome, hrelease]
    rfl

/-- A stray region larger than all that is out is refused, and does no harm. -/
theorem release_goes_by_counters_own :
    let steps : List (Platform × Action) :=
      [(.standard, .allocate "own" 0 16), (.standard, .map "stray" 64),
        (.standard, .release "stray" 0)]
    let before := ((start 1 none).run steps).2
    (0 < (start 1 none).ledgers.length ∧ (start 1 none).ledger 0 = Ledger.empty
        ∧ before.plain (.release "own" 0) = .release "own" 0
        ∧ before.regions.get? "own" = some (Region.fresh 16))
      ∧ (before.step .standard (.release "own" 0)).1 = .ok .done := by
  refine ⟨⟨by decide, rfl, rfl, rfl⟩, ?_⟩
  refine (release_goes_by_counters (start 1 none) (by decide) rfl
    [(.standard, .allocate "own" 0 16), (.standard, .map "stray" 64),
      (.standard, .release "stray" 0)] .standard rfl rfl).2 ⟨?_, ?_, ?_, trivial⟩ (by decide) rfl
  · exact fun r hr => absurd hr List.not_mem_nil
  · exact fun r hr => absurd hr List.not_mem_nil
  · intro r hr
    rw [List.mem_singleton.mp (show r ∈ [Region.fresh 64] from hr)]
    exact nofun

/-- A region allocated again and again is among what is out. -/
theorem holds_replicate_allocate {os : Platform} {size : Nat} (hsize : 0 < size)
    (hmap : os.mapRefusal size = none) (name : String) {n : Nat} (hn : 0 < n) :
    let steps := List.replicate n (os, Action.allocate name i size)
    s.OwnOnly i c steps
      ∧ (s.run steps).2.regions.get? name = some (Region.fresh size)
      ∧ (s.custodyAfter i c steps).holds name = true := by
  have hmade := allocate_granted hsize hmap
  induction n generalizing s c with
  | zero => exact absurd hn (Nat.lt_irrefl 0)
  | succ n ih =>
      have hget : (s.step os (.allocate name i size)).2.regions.get? name
          = some (Region.fresh size) := by
        show (s.storing name i _).2.regions.get? name = _
        rw [get?_storing, hmade]
        simp
      have hheld : (s.custody i os (.allocate name i size) c).holds name = true := by
        simp only [custody, plain, hmade]
        simp [Custody.receive, Custody.holds]
      rcases Nat.eq_zero_or_pos n with rfl | hpos
      · exact ⟨⟨rfl, trivial⟩, hget, hheld⟩
      · obtain ⟨hown, hrest⟩ := ih (c := s.custody i os (.allocate name i size) c)
          (s.step os (.allocate name i size)).2 hpos
        exact ⟨⟨rfl, hown⟩, hrest⟩

/-- **A smaller stray passes for its own**, and its own is refused afterwards. Its
own is refused without any stray, too, once the counters started over: regions
that were dropped are counted still. -/
theorem foreign_release_accepted :
    (let steps : List (Platform × Action) :=
        [(.standard, .allocate "own" 0 16), (.standard, .map "stray" 8)]
      let before := ((start 1 none).run steps).2
      let after := before.step .standard (.release "stray" 0)
      (start 1 none).custodyAfter 0 [] steps = [⟨16, some "own"⟩]
        ∧ before.ledger 0 = ⟨1, 16⟩
        ∧ after.1 = .ok .done
        ∧ after.2.ledger 0 = ⟨0, 8⟩
        ∧ (after.2.step .standard (.release "own" 0)).1 = .error (.code (.unknownRegion 16)))
      ∧ (let steps := List.replicate (2 ^ 18) (Platform.standard, Action.allocate "own" 0 (2 ^ 46))
        let before := ((start 1 none).run steps).2
        (start 1 none).OwnOnly 0 [] steps
          ∧ ((start 1 none).custodyAfter 0 [] steps).holds "own" = true
          ∧ (before.step .standard (.release "own" 0)).1
            = .error (.code (.unknownRegion (2 ^ 46)))) := by
  refine ⟨⟨rfl, rfl, rfl, rfl, rfl⟩, ?_⟩
  have hmap : Platform.standard.mapRefusal (2 ^ 46) = none := by decide
  obtain ⟨hown, hget, hheld⟩ := (start 1 none).holds_replicate_allocate (c := [])
    (i := 0) (show 0 < 2 ^ 46 by decide) hmap "own" (show 0 < 2 ^ 18 by decide)
  have hledger := ((start 1 none).run_replicate_allocate (i := 0) (by decide)
    Ledger.fits_empty (show 0 < 2 ^ 46 by decide) hmap "own" (2 ^ 18)).1
  refine ⟨hown, hheld, ?_⟩
  -- 2 ^ 18 times 2 ^ 46 bytes start the counter over
  have hzero : (⟨Ledger.wrap (((start 1 none).ledger 0).regions + 2 ^ 18),
      Ledger.wrap (((start 1 none).ledger 0).bytes + 2 ^ 18 * 2 ^ 46)⟩ : Ledger)
        = ⟨2 ^ 18, 0⟩ := by decide
  rw [step_release_fst _ .standard rfl hget, hledger, hzero]
  rfl

end Session

end JitTarget
