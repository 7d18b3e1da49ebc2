/-
  JitTarget.Proofs.Outstanding
  ────────────────────────────────
  **THE COUNTERS COUNT WHAT IS OUT.**

  As long as every region of somebody else's is refused, the counters of an
  allocator are the number and the total size of the regions it has out, as an
  address holds them.  While the total fits an address, none of those regions
  can be refused; given only its own regions, an allocator refuses nothing.
-/
import JitTarget.Proofs.Custody

namespace JitTarget

namespace Custody

variable {c : Custody} {l : Ledger} {s : Session} {name : String}

/-! ## §1. Tallies. -/

/-- The counters are the number and the total size of what is out, as far as an
address goes. -/
structure Tallies (c : Custody) (l : Ledger) : Prop where
  regions_eq : l.regions = Ledger.wrap c.length
  bytes_eq : l.bytes = Ledger.wrap c.total

theorem tallies_empty : Tallies [] Ledger.empty := ⟨rfl, rfl⟩

theorem Tallies.fits (h : c.Tallies l) : l.Fits where
  regions_lt := by
    rw [h.regions_eq]
    exact Ledger.wrap_lt c.length
  bytes_lt := by
    rw [h.bytes_eq]
    exact Ledger.wrap_lt c.total

/-- As many regions and as many bytes, whatever names they are under. -/
structure Alike (c c' : Custody) : Prop where
  length_eq : c'.length = c.length
  total_eq : c'.total = c.total

theorem alike_refl (c : Custody) : Alike c c := ⟨rfl, rfl⟩

theorem alike_forget (name : String) (c : Custody) : Alike c (c.forget name) :=
  ⟨length_forget name c, total_forget name c⟩

/-- A region was put under a name that the allocator did not count. -/
theorem alike_receive (name : String) (made : Except CodeFault Region) (c : Custody) :
    Alike c (c.receive false name made) := by
  cases made with
  | ok r => exact alike_forget name c
  | error fault => cases fault <;> exact alike_refl c

/-- A region could not be made. -/
theorem receive_error (counted : Bool) (name : String) {fault : CodeFault}
    (hne : fault.Ordinary) (c : Custody) :
    c.receive counted name (.error fault) = c := by
  unfold receive
  split
  next h => exact absurd h nofun
  next size h => exact absurd (Except.error.inj h) (hne.ne_unknownRegion size)
  next => rfl

namespace Tallies

theorem alike {c' : Custody} (h : c.Tallies l) (ha : Alike c c') : c'.Tallies l where
  regions_eq := by
    rw [ha.length_eq]
    exact h.regions_eq
  bytes_eq := by
    rw [ha.total_eq]
    exact h.bytes_eq

/-- One more region is out, and counted. -/
theorem count (h : c.Tallies l) (size : Nat) (name : Option String) :
    Tallies (⟨size, name⟩ :: c) ⟨Ledger.wrap (l.regions + 1), Ledger.wrap (l.bytes + size)⟩ where
  regions_eq := by
    rw [h.regions_eq]
    exact Nat.mod_add_mod c.length (2 ^ 64) 1
  bytes_eq := by
    rw [h.bytes_eq, total_cons, Nat.add_comm size]
    exact Nat.mod_add_mod c.total (2 ^ 64) size

/-- A region is taken back, and the counters admit it. -/
theorem takeBack (h : c.Tallies l) (hheld : c.holds name = true) {size : Nat}
    (hsize : ∀ held ∈ c, held.name = some name → held.size = size)
    (hin : ¬ (l.regions = 0 ∨ l.bytes < size)) :
    (c.takeBack name).Tallies ⟨l.regions - 1, l.bytes - size⟩ := by
  obtain ⟨held, front, back, hname, hc, htake⟩ := takeBack_split hheld
  have hs : held.size = size := hsize held (by rw [hc]; simp) hname
  obtain ⟨hr, hb⟩ := h
  -- one region less, and its bytes
  have hlength : c.length = (front ++ back).length + 1 := by
    rw [hc]
    simp only [List.length_append, List.length_cons]
    omega
  have htotal : c.total = total (front ++ back) + size := by
    rw [hc, ← hs]
    simp only [total, List.map_append, List.map_cons, List.sum_append, List.sum_cons]
    omega
  -- what is taken off did not start over, or the counters would not admit it
  rw [htake]
  rw [hlength] at hr
  rw [htotal] at hb
  simp only [Ledger.wrap] at hr hb
  constructor
  · simp only [Ledger.wrap]
    omega
  · simp only [Ledger.wrap]
    omega

end Tallies

/-- There are no more regions out than bytes. -/
theorem length_le_total (hpos : ∀ h ∈ c, 0 < h.size) : c.length ≤ c.total := by
  induction c with
  | nil => exact Nat.le_refl 0
  | cons h c ih =>
      have hrest := ih (fun x hx => hpos x (List.mem_cons_of_mem h hx))
      have hh := hpos h List.mem_cons_self
      rw [List.length_cons, total_cons]
      omega

/-- **Counters that fit are exact.** -/
theorem Tallies.eq_of_lt (h : c.Tallies l) (hm : c.Matches s) (hfit : c.total < 2 ^ 64) :
    l = ⟨c.length, c.total⟩ := by
  have hlength := length_le_total hm.positive
  obtain ⟨hr, hb⟩ := h
  rw [Ledger.wrap_of_lt (by omega)] at hr
  rw [Ledger.wrap_of_lt hfit] at hb
  cases l
  simp only at hr hb
  rw [hr, hb]

/-- Taking back takes bytes back. -/
theorem total_takeBack_le (name : String) (c : Custody) : (c.takeBack name).total ≤ c.total := by
  cases hheld : c.holds name with
  | false => exact Nat.le_of_eq (congrArg total (takeBack_of_not_holds hheld))
  | true =>
      obtain ⟨held, front, back, -, hc, htake⟩ := takeBack_split hheld
      rw [htake, hc]
      simp only [total, List.map_append, List.map_cons, List.sum_append, List.sum_cons]
      omega

/-- The region under a name has the size it is out with. -/
theorem Matches.size_eq (h : c.Matches s) {r : Region} (hr : s.regions.get? name = some r) :
    ∀ held ∈ c, held.name = some name → held.size = r.size := by
  intro held hm hname
  obtain ⟨r', hr', hs⟩ := h.named held hm name hname
  rw [hr] at hr'
  rw [← hs, ← Option.some.inj hr']

/-- **What is out is admitted**, as long as all of it fits an address. -/
theorem Tallies.admits (h : c.Tallies l) (hm : c.Matches s) (hfit : c.total < 2 ^ 64)
    (hheld : c.holds name = true) {r : Region} (hr : s.regions.get? name = some r) :
    ¬ (l.regions = 0 ∨ l.bytes < r.size) := by
  obtain ⟨held, front, back, hname, hc, -⟩ := takeBack_split hheld
  have hs : held.size = r.size := hm.size_eq hr held (by rw [hc]; simp) hname
  rw [h.eq_of_lt hm hfit, hc]
  simp only [total, List.length_append, List.length_cons, List.map_append, List.map_cons,
    List.sum_append, List.sum_cons]
  omega

end Custody

/-! ## §2. What one step does to an allocator. -/

/-- The calls of an installation whose regions are not counted. -/
theorem Environment.dealings_uncounted {e : Environment} (hc : e.allocator.counts = false)
    (os : Platform) (code : Array UInt8) (l : Ledger) :
    e.dealings os code l = [] ∨ ∃ r, e.dealings os code l = [.release r] := by
  unfold dealings
  rw [if_neg (by simp [hc]), List.nil_append]
  cases (e.allocator.allocate os code.size l).1 with
  | error fault => exact Or.inl rfl
  | ok r =>
      cases hf : e.fill os code r with
      | ok r' => exact Or.inl (by simp only [hf])
      | error fault => exact Or.inr ⟨r, by simp only [hf]⟩

namespace Session

variable (s : Session) {i : Nat} {c : Custody}

/-- **One step, for one allocator**: the regions it has out after it, the counters
after it, the sizes that were allocated and the sizes that were refused. -/
inductive Dealing (i : Nat) (os : Platform) (a : Action) (c : Custody) :
    Custody → Ledger → List Nat → List Nat → Prop
  /-- The allocator is left alone, or hands out nothing. -/
  | idle {c' : Custody} (hc : c.Alike c') : Dealing i os a c c' (s.ledger i) [] []
  /-- A region is handed out, and is where it was put. -/
  | counted {c' : Custody} (hc : c.Alike c') (n : Nat) (name : String) :
      Dealing i os a c (⟨n, some name⟩ :: c')
        ⟨Ledger.wrap ((s.ledger i).regions + 1), Ledger.wrap ((s.ledger i).bytes + n)⟩ [n] []
  /-- A region is handed out and taken back at once. -/
  | undone (n : Nat) : Dealing i os a c c (s.ledger i) [n] []
  /-- A region is handed out, and refused when it is given back at once. -/
  | stuck (n : Nat) (hpos : 0 < n) (l' : Ledger)
      (hl' : l' = ⟨Ledger.wrap ((s.ledger i).regions + 1),
        Ledger.wrap ((s.ledger i).bytes + n)⟩)
      (hout : l'.regions = 0 ∨ l'.bytes < n) :
      Dealing i os a c (⟨n, none⟩ :: c) l' [n] [n]
  /-- A region of its own is taken back. -/
  | taken (name : String) (r : Region) (hr : s.regions.get? name = some r)
      (hheld : c.holds name = true)
      (hin : ¬ ((s.ledger i).regions = 0 ∨ (s.ledger i).bytes < r.size)) :
      Dealing i os a c (c.takeBack name)
        ⟨(s.ledger i).regions - 1, (s.ledger i).bytes - r.size⟩ [] []
  /-- A region of its own is refused. -/
  | denied (name : String) (r : Region) (hr : s.regions.get? name = some r)
      (hheld : c.holds name = true)
      (hout : (s.ledger i).regions = 0 ∨ (s.ledger i).bytes < r.size) :
      Dealing i os a c (c.forget name) (s.ledger i) [] [r.size]
  /-- A region of somebody else's is given to it. -/
  | foreign {c' : Custody} (r : Region) (hr : r ∈ s.foreign i os a c) (hc : c.Alike c') :
      Dealing i os a c c' ((s.ledger i).release r.size).2 []
        (Ledger.refused ((s.ledger i).history [.release r]))

/-- What is counted and discounted at once leaves the counters as they were. -/
private theorem discount_count {l l' : Ledger} {n : Nat} (h : l.Fits)
    (hl' : l' = ⟨Ledger.wrap (l.regions + 1), Ledger.wrap (l.bytes + n)⟩)
    (hin : ¬ (l'.regions = 0 ∨ l'.bytes < n)) :
    (⟨l'.regions - 1, l'.bytes - n⟩ : Ledger) = l := by
  obtain ⟨hr, hb⟩ := h
  subst hl'
  simp only [Ledger.wrap] at hin ⊢
  cases l
  simp only at hr hb hin ⊢
  congr 1
  · omega
  · omega

/-- The calls a release makes. -/
theorem dealings_release (os : Platform) {a : Action} {name : String}
    (hp : s.plain a = .release name i) {r : Region} (hr : s.regions.get? name = some r) :
    s.dealings i os a = [.release r] := by
  simp only [dealings, hp, if_true, hr, Option.toList_some, List.map_cons, List.map_nil]

/-- Every release is one of these. -/
private theorem dealing_release (hfits : (s.ledger i).Fits) (os : Platform) {a : Action}
    {region : String} (hp : s.plain a = .release region i) {r : Region}
    (hr : s.regions.get? region = some r) :
    s.Dealing i os a c
      (match ((s.ledger i).release r.size).1 with
        | .ok () => c.takeBack region
        | .error _ => c.forget region)
      ((s.ledger i).release r.size).2 []
      (Ledger.refused ((s.ledger i).history [.release r])) := by
  cases hheld : c.holds region with
  | false =>
      -- nothing of the allocator's is under the name
      refine .foreign r ?_ ?_
      · simp only [Session.foreign, hp, hheld, s.dealings_release os hp hr, givenBack]
        exact List.mem_singleton_self r
      · split
        · rw [Custody.takeBack_of_not_holds hheld]
          exact Custody.alike_refl c
        · exact Custody.alike_forget region c
  | true =>
      have hrelease := Ledger.release_eq (s.ledger i) r.size hfits.regions_lt
      by_cases hout : (s.ledger i).regions = 0 ∨ (s.ledger i).bytes < r.size
      · rw [if_pos hout] at hrelease
        simp only [Ledger.history, Ledger.serve, hrelease]
        exact .denied region r hr hheld hout
      · rw [if_neg hout] at hrelease
        simp only [Ledger.history, Ledger.serve, hrelease]
        exact .taken region r hr hheld hout

/-- Every installation is one of these. -/
private theorem dealing_install (hfits : (s.ledger i).Fits) (os : Platform) {a : Action}
    {env region : String} {code : Array UInt8} (hp : s.plain a = .install env region code)
    {t : Tenant} (ht : s.tenants.get? env = some t) (hi : t.ledger = i) :
    s.Dealing i os a c
      (c.receive t.environment.allocator.counts region
        (t.environment.install os code (s.ledger i)).1)
      (t.environment.install os code (s.ledger i)).2
      (Ledger.allocated ((s.ledger i).history (t.environment.dealings os code (s.ledger i))))
      (Ledger.refused ((s.ledger i).history (t.environment.dealings os code (s.ledger i)))) := by
  cases hc : t.environment.allocator.counts with
  | false =>
      have hd : s.dealings i os a = t.environment.dealings os code (s.ledger i) := by
        simp only [dealings, hp, ht, hi, if_true]
      -- its only call can be a release, of a region it never counted
      rw [Environment.install_snd]
      rcases Environment.dealings_uncounted hc os code (s.ledger i) with h | ⟨r, h⟩
      · rw [h]
        exact .idle (Custody.alike_receive region _ c)
      · have hr : r ∈ s.foreign i os a c := by
          simp only [Session.foreign, hp, ht, hc, hd, h, givenBack]
          exact List.mem_singleton_self r
        rw [h]
        have hnone : Ledger.allocated ((s.ledger i).history [.release r]) = [] := rfl
        rw [hnone]
        exact .foreign r hr (Custody.alike_receive region _ c)
  | true =>
      have h := t.environment.installing os code hc (s.ledger i)
      generalize t.environment.install os code (s.ledger i) = made at h ⊢
      generalize Ledger.allocated _ = allocated at h ⊢
      generalize Ledger.refused _ = refused at h ⊢
      cases h with
      | denied hne =>
          rw [Custody.receive_error true region hne c]
          exact .idle (Custody.alike_refl c)
      | filled hpos => exact .counted (Custody.alike_forget region c) _ region
      | undone _ hne hl' _ hin =>
          rw [discount_count hfits hl' hin, Custody.receive_error true region hne c]
          exact .undone _
      | stuck hpos hl' hout => exact .stuck _ hpos _ hl' hout

/-- **Every step is one of these.** -/
theorem dealing (hi : i < s.ledgers.length) (hfits : (s.ledger i).Fits) (os : Platform)
    (a : Action) (c : Custody) :
    s.Dealing i os a c (s.custody i os a c) ((s.step os a).2.ledger i)
      (Ledger.allocated ((s.ledger i).history (s.dealings i os a)))
      (Ledger.refused ((s.ledger i).history (s.dealings i os a))) := by
  rw [step_ledger s hi]
  cases hp : s.plain a with
  | allocate region j size =>
      simp only [custody, dealings, hp]
      by_cases hj : j = i
      · subst hj
        rw [if_pos rfl, beq_self_eq_true]
        simp only [Ledger.serveAll, Ledger.history, Ledger.serve]
        rcases Ledger.allocate_cases os size (s.ledger j) with
          ⟨fault, heq, hne⟩ | ⟨-, heq⟩ <;> rw [heq]
        · rw [Custody.receive_error true region hne c]
          exact .idle (Custody.alike_refl c)
        · exact .counted (Custody.alike_forget region c) size region
      · rw [if_neg hj, beq_false_of_ne hj]
        exact .idle (Custody.alike_receive region _ c)
  | release region j =>
      simp only [custody, dealings, hp]
      cases hr : s.regions.get? region with
      | none =>
          simp only [Option.toList_none, List.map_nil, ite_self]
          exact .idle (Custody.alike_refl c)
      | some r =>
          by_cases hj : j = i
          · subst hj
            simp only [if_true, Option.toList_some, List.map_cons, List.map_nil]
            exact s.dealing_release hfits os hp hr
          · simp only [if_neg hj]
            refine .idle ?_
            split <;> exact Custody.alike_forget region c
  | install env region code =>
      simp only [custody, dealings, hp]
      cases ht : s.tenants.get? env with
      | none => exact .idle (Custody.alike_refl c)
      | some t =>
          by_cases hj : t.ledger = i
          · simp only [hj, if_true, beq_self_eq_true, Bool.true_and]
            rw [← Environment.install_snd]
            exact s.dealing_install hfits os hp ht hj
          · simp only [if_neg hj, beq_false_of_ne hj, Bool.false_and]
            exact .idle (Custody.alike_receive region _ c)
  | map region size =>
      simp only [custody, dealings, hp]
      exact .idle (Custody.alike_receive region _ c)
  | drop region =>
      simp only [custody, dealings, hp]
      exact .idle (Custody.alike_forget region c)
  | _ =>
      simp only [custody, dealings, hp]
      exact .idle (Custody.alike_refl c)

/-- The same, with what the step leaves under names of its own. -/
theorem exists_dealing (hi : i < s.ledgers.length) (hfits : (s.ledger i).Fits)
    (os : Platform) (a : Action) (c : Custody) :
    ∃ c' l' allocated refused, s.custody i os a c = c' ∧ (s.step os a).2.ledger i = l'
      ∧ Ledger.allocated ((s.ledger i).history (s.dealings i os a)) = allocated
      ∧ Ledger.refused ((s.ledger i).history (s.dealings i os a)) = refused
      ∧ s.Dealing i os a c c' l' allocated refused :=
  ⟨_, _, _, _, rfl, rfl, rfl, rfl, s.dealing hi hfits os a c⟩

/-! ## §3. Steps and runs. -/

/-- **Every step keeps the tally**, if no region of somebody else's is accepted. -/
theorem step_tallies (hi : i < s.ledgers.length) (hm : c.Matches s)
    (ht : c.Tallies (s.ledger i)) (os : Platform) (a : Action)
    (hrefused : ∀ r ∈ s.foreign i os a c, ((s.ledger i).release r.size).1 ≠ .ok ()) :
    (s.custody i os a c).Tallies ((s.step os a).2.ledger i) := by
  obtain ⟨c', l', allocated, refused, hc', hl', -, -, h⟩ :=
    s.exists_dealing hi ht.fits os a c
  rw [hc', hl']
  cases h with
  | idle hc => exact ht.alike hc
  | counted hc n name => exact (ht.alike hc).count n (some name)
  | undone n => exact ht
  | stuck n hpos l' hl' hout => exact hl' ▸ ht.count n none
  | taken name r hr hheld hin => exact ht.takeBack hheld (hm.size_eq hr) hin
  | denied name r hr hheld hout => exact ht.alike (Custody.alike_forget name c)
  | foreign r hr hc =>
      -- it was refused, so the counters are what they were
      rw [Ledger.release_of_ne_ok ht.fits (hrefused r hr)]
      exact ht.alike hc

/-- No more bytes are out after a step than before it and handed out in it. -/
theorem total_custody_le (hi : i < s.ledgers.length) (hfits : (s.ledger i).Fits)
    (os : Platform) (a : Action) (c : Custody) :
    (s.custody i os a c).total
      ≤ c.total + (Ledger.allocated ((s.ledger i).history (s.dealings i os a))).sum := by
  obtain ⟨c', l', allocated, refused, hc', -, hallocated, -, h⟩ :=
    s.exists_dealing hi hfits os a c
  rw [hc', hallocated]
  cases h with
  | idle hc => exact Nat.le_of_eq hc.total_eq
  | counted hc n name =>
      rw [Custody.total_cons, hc.total_eq, List.sum_singleton]
      exact Nat.le_of_eq (Nat.add_comm n c.total)
  | undone n => exact Nat.le_add_right _ _
  | stuck n hpos l' hl' hout =>
      rw [Custody.total_cons, List.sum_singleton]
      exact Nat.le_of_eq (Nat.add_comm n c.total)
  | taken name r hr hheld hin => exact Custody.total_takeBack_le name c
  | denied name r hr hheld hout => exact Nat.le_of_eq (Custody.total_forget name c)
  | foreign r hr hc => exact Nat.le_of_eq hc.total_eq

/-- **Given only its own, an allocator refuses nothing.** -/
theorem refused_eq_nil (hi : i < s.ledgers.length) (hm : c.Matches s)
    (ht : c.Tallies (s.ledger i)) (os : Platform) (a : Action)
    (hown : s.foreign i os a c = [])
    (hfit : c.total + (Ledger.allocated ((s.ledger i).history (s.dealings i os a))).sum
      < 2 ^ 64) :
    Ledger.refused ((s.ledger i).history (s.dealings i os a)) = [] := by
  obtain ⟨c', l', allocated, refused, -, -, hallocated, hrefused, h⟩ :=
    s.exists_dealing hi ht.fits os a c
  have htotal : c.total < 2 ^ 64 := by omega
  rw [hallocated] at hfit
  rw [hrefused]
  cases h with
  | idle hc => rfl
  | counted hc n name => rfl
  | undone n => rfl
  | stuck n hpos l' hl' hout =>
      -- what was counted is there to be discounted
      have hexact := ht.eq_of_lt hm htotal
      have hlength := Custody.length_le_total hm.positive
      rw [List.sum_singleton] at hfit
      rw [hl', hexact] at hout
      simp only [Ledger.wrap] at hout
      omega
  | taken name r hr hheld hin => rfl
  | denied name r hr hheld hout => exact absurd hout (ht.admits hm htotal hheld hr)
  | foreign r hr hc => exact absurd (hown ▸ hr) (List.not_mem_nil)

/-- Custody follows every run. -/
theorem run_matches (hm : c.Matches s) (i : Nat) (steps : List (Platform × Action)) :
    (s.custodyAfter i c steps).Matches (s.run steps).2 := by
  induction steps generalizing s c with
  | nil => exact hm
  | cons first rest ih =>
      obtain ⟨os, a⟩ := first
      exact ih (s.step os a).2 (s.step_matches hm i os a)

/-- **Every run keeps the tally**, if no region of somebody else's is accepted. -/
theorem run_tallies (hi : i < s.ledgers.length) (hm : c.Matches s)
    (ht : c.Tallies (s.ledger i)) (steps : List (Platform × Action))
    (hrefused : s.ForeignRefused i c steps) :
    (s.custodyAfter i c steps).Tallies ((s.run steps).2.ledger i) := by
  induction steps generalizing s c with
  | nil => exact ht
  | cons first rest ih =>
      obtain ⟨os, a⟩ := first
      obtain ⟨hfirst, hrest⟩ := hrefused
      have hi' := Nat.lt_of_lt_of_le hi (s.length_ledgers_le os a)
      exact ih (s.step os a).2 hi' (s.step_matches hm i os a)
        (s.step_tallies hi hm ht os a hfirst) hrest

/-- Who is given only its own is given nothing else to refuse. -/
theorem OwnOnly.foreignRefused {steps : List (Platform × Action)} (h : s.OwnOnly i c steps) :
    s.ForeignRefused i c steps := by
  induction steps generalizing s c with
  | nil => trivial
  | cons first rest ih =>
      obtain ⟨hfirst, hrest⟩ := h
      refine ⟨fun r hr => ?_, ih (s.step first.1 first.2).2 hrest⟩
      rw [hfirst] at hr
      exact absurd hr List.not_mem_nil

/-- **Given only its own**, an allocator refuses nothing in a run, and what is out
never exceeds what was allocated. -/
theorem run_own (hi : i < s.ledgers.length) (hm : c.Matches s) (ht : c.Tallies (s.ledger i))
    (steps : List (Platform × Action)) (hown : s.OwnOnly i c steps)
    (hfit : c.total + (Ledger.allocated ((s.ledger i).history (s.traffic i steps))).sum
      < 2 ^ 64) :
    Ledger.refused ((s.ledger i).history (s.traffic i steps)) = []
      ∧ (s.custodyAfter i c steps).total < 2 ^ 64 := by
  induction steps generalizing s c with
  | nil =>
      refine ⟨rfl, ?_⟩
      show c.total < 2 ^ 64
      omega
  | cons first rest ih =>
      obtain ⟨os, a⟩ := first
      obtain ⟨hfirst, hrest⟩ := hown
      have hi' := Nat.lt_of_lt_of_le hi (s.length_ledgers_le os a)
      have htotal := s.total_custody_le hi ht.fits os a c
      have hsplit : (s.ledger i).history (s.traffic i ((os, a) :: rest))
          = (s.ledger i).history (s.dealings i os a)
            ++ ((s.step os a).2.ledger i).history ((s.step os a).2.traffic i rest) := by
        rw [step_ledger s hi]
        exact Ledger.history_append (s.ledger i) (s.dealings i os a) _
      -- what the first step allocates and what the rest does share the bound
      rw [hsplit, Ledger.allocated_append, List.sum_append] at hfit
      have hnone := s.refused_eq_nil hi hm ht os a hfirst (by omega)
      have ht' := s.step_tallies hi hm ht os a (by
        intro r hr
        rw [hfirst] at hr
        exact absurd hr List.not_mem_nil)
      have hrun := ih (s.step os a).2 hi' (s.step_matches hm i os a) ht' hrest (by omega)
      rw [hsplit, Ledger.refused_append, hnone, List.nil_append]
      exact hrun

end Session

end JitTarget
