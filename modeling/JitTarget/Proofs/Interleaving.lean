/-
  JitTarget.Proofs.Interleaving
  ────────────────────────────────
  **CALLERS SIDE BY SIDE KEEP THE COUNTERS EXACT.**

  Between the steps of a call the two counters disagree, about the call and with
  each other.  They are right about a crew as soon as every call in progress is
  charged for the steps it has made and not for those it has not:

      regions = regions out + those charged to calls in progress
      bytes   = bytes out   + those charged to calls in progress

  A release is charged for all that it has still to take off, so taking it off
  never fails; and what is charged was mapped before, so nothing starts over.

      Stage.proceed_balanced  — one step of a call
      Charged.step            — one move of a caller
      Charged.run             — any number of moves, in any order
      nodup_out               — no region is out twice
      allocate_undisturbed, release_undisturbed
                              — a call nobody interrupts is that of the ledger
      counters_exact          — every crew, however its callers interleave
-/
import JitTarget.Code.Interleaving
import JitTarget.Proofs.LedgerBalance

namespace JitTarget.Crew

/-! ## §1. What a stage is charged for. -/

namespace Stage

/-- The regions a call in progress is charged for. -/
def regions : Stage → Nat
  | counted _ | returning (.granted _) | surrendered _ => 1
  | idle | mapped _ | discounted _ | overdrawn _
  | returning .released | returning (.failed _) => 0

/-- The bytes a call in progress is charged for. -/
def bytes : Stage → Nat
  | returning (.granted g) => g.size
  | surrendered size | discounted size | overdrawn size => size
  | idle | mapped _ | counted _ | returning .released | returning (.failed _) => 0

/-- The regions it may yet be charged for. -/
def pendingRegions : Stage → Nat
  | mapped _ => 1
  | idle | counted _ | surrendered _ | discounted _ | overdrawn _ | returning _ => 0

/-- The bytes it may yet be charged for. -/
def pendingBytes : Stage → Nat
  | mapped g | counted g => g.size
  | idle | surrendered _ | discounted _ | overdrawn _ | returning _ => 0

/-- No release was refused on the way to it. -/
def Sound : Stage → Prop
  | overdrawn _ | returning (.failed (.unknownRegion _)) => False
  | idle | mapped _ | counted _ | surrendered _ | discounted _ | returning _ => True

end Stage

/-- No counter starts over or lacks what is taken from it, and no release is
refused. -/
def Event.Regular : Event → Prop
  | added startsOver => startsOver = false
  | deducted enough => enough = true
  | putBack | returned (.failed (.unknownRegion _)) => False
  | skipped | began | returned _ => True

/-! ## §2. One step of a call. -/

namespace Stage

/-- **An allocation begins** as the ledger serves it: with a fault, or with memory. -/
theorem request_eq (os : Platform) (serial size : Nat) (l : Ledger) :
    request os serial size
      = match (l.allocate os size).1 with
        | .error fault => .returning (.failed fault)
        | .ok r => .mapped ⟨serial, r.size⟩ := by
  unfold request Ledger.allocate
  by_cases hz : size = 0
  · rw [if_pos hz, if_pos hz]
  · rw [if_neg hz, if_neg hz]
    cases Region.map os size <;> rfl

/-- The counters have what a call is charged for, and room for what it may yet be
charged for. -/
structure Room (l : Ledger) (s : Stage) : Prop where
  regions_le : s.regions ≤ l.regions
  bytes_le : s.bytes ≤ l.bytes
  regions_lt : l.regions + s.pendingRegions < 2 ^ 64
  bytes_lt : l.bytes + s.pendingBytes < 2 ^ 64

/-- **A step that balances**: it is a regular one, the counters change by what the
call is charged for from here on, and the call makes no further claims. -/
structure Balanced (l : Ledger) (s : Stage) (e : Event) (t : Stage) (l' : Ledger) : Prop where
  regular : e.Regular
  sound : t.Sound
  regions_eq : l'.regions + s.regions = l.regions + t.regions + e.grants.length
  bytes_eq : l'.bytes + s.bytes = l.bytes + t.bytes + (e.grants.map Grant.size).sum
  regions_le : l'.regions + t.pendingRegions ≤ l.regions + s.pendingRegions
  bytes_le : l'.bytes + t.pendingBytes ≤ l.bytes + s.pendingBytes

/-- **One step of a call** balances, where the counters have room for it. -/
theorem proceed_balanced {l : Ledger} {s : Stage} (hs : s.Sound) (hroom : Room l s) :
    Balanced l s (s.proceed l).1 (s.proceed l).2.1 (s.proceed l).2.2 := by
  obtain ⟨hr, hb, hrlt, hblt⟩ := hroom
  cases s with
  | idle => exact ⟨trivial, trivial, rfl, rfl, Nat.le_refl _, Nat.le_refl _⟩
  | mapped g =>
      have hone : l.regions + 1 < 2 ^ 64 := hrlt
      have hstays : decide (2 ^ 64 ≤ l.regions + 1) = false := decide_eq_false (by omega)
      have hcount : l.countRegion = ⟨l.regions + 1, l.bytes⟩ := by
        rw [Ledger.countRegion, Ledger.wrap_of_lt hone]
      simp only [proceed, hstays, hcount]
      exact ⟨rfl, trivial, rfl, rfl, Nat.le_refl _, Nat.le_refl _⟩
  | counted g =>
      have hadd : l.bytes + g.size < 2 ^ 64 := hblt
      have hstays : decide (2 ^ 64 ≤ l.bytes + g.size) = false := decide_eq_false (by omega)
      have hcount : l.countBytes g.size = ⟨l.regions, l.bytes + g.size⟩ := by
        rw [Ledger.countBytes, Ledger.wrap_of_lt hadd]
      simp only [proceed, hstays, hcount]
      exact ⟨rfl, trivial, rfl, rfl, Nat.le_refl _, Nat.le_refl _⟩
  | surrendered size =>
      have hpos : 1 ≤ l.regions := hr
      have hstep : l.discountRegion? = some ⟨l.regions - 1, l.bytes⟩ := if_neg (by omega)
      simp only [proceed, hstep]
      refine ⟨rfl, trivial, ?_, rfl, ?_, Nat.le_refl _⟩
      · exact Nat.sub_add_cancel hpos
      · exact Nat.sub_le l.regions 1
  | discounted size =>
      have henough : size ≤ l.bytes := hb
      have hstep : l.discountBytes? size = some ⟨l.regions, l.bytes - size⟩ := if_neg (by omega)
      simp only [proceed, hstep]
      refine ⟨rfl, trivial, rfl, ?_, Nat.le_refl _, ?_⟩
      · exact Nat.sub_add_cancel henough
      · exact Nat.sub_le l.bytes size
  | overdrawn size => exact hs.elim
  | returning answer =>
      cases answer with
      | granted g =>
          refine ⟨trivial, trivial, rfl, ?_, Nat.le_refl _, Nat.le_refl _⟩
          simp [proceed, bytes, Event.grants]
      | released => exact ⟨trivial, trivial, rfl, rfl, Nat.le_refl _, Nat.le_refl _⟩
      | failed fault =>
          -- only a refusal is irregular, and no sound call comes to one
          have hregular : (Event.returned (.failed fault)).Regular := by
            cases fault <;> first | exact hs.elim | trivial
          exact ⟨hregular, trivial, rfl, rfl, Nat.le_refl _, Nat.le_refl _⟩

/-- How an allocation can begin: with a fault that is no refusal, or with memory. -/
theorem request_cases (os : Platform) (serial size : Nat) :
    (∃ fault, request os serial size = .returning (.failed fault) ∧ fault.Ordinary)
      ∨ (0 < size ∧ request os serial size = .mapped ⟨serial, size⟩) := by
  have heq := request_eq os serial size .empty
  rcases Ledger.allocate_cases os size .empty with ⟨fault, hl, hordinary⟩ | ⟨hpos, hl⟩
  · rw [hl] at heq
    exact Or.inl ⟨fault, heq, hordinary⟩
  · rw [hl] at heq
    exact Or.inr ⟨hpos, heq⟩

end Stage

/-! ## §3. Crews. -/

/-- **What a move can do**: nothing; begin a call for a caller that is in none; or
make one step of a call. -/
theorem step_cases (c : Crew) (m : Move) :
    c.step m = (.skipped, c)
      ∨ (∃ i os size, m = .allocate i os size ∧ c.stages[i]? = some .idle
          ∧ c.step m = (.began, ⟨c.ledger,
              c.stages.set i (Stage.request os c.mapped.length size), c.out,
              c.mapped ++ (Stage.request os c.mapped.length size).mappings⟩))
      ∨ (∃ i g, m = .release i g ∧ c.stages[i]? = some .idle
          ∧ c.step m = (.began,
              ⟨c.ledger, c.stages.set i (.surrendered g.size), c.out.erase g, c.mapped⟩))
      ∨ (∃ i s, m = .proceed i ∧ c.stages[i]? = some s
          ∧ c.step m = ((s.proceed c.ledger).1, ⟨(s.proceed c.ledger).2.2,
              c.stages.set i (s.proceed c.ledger).2.1,
              (s.proceed c.ledger).1.grants ++ c.out, c.mapped⟩)) := by
  cases m with
  | allocate i os size =>
      cases hi : c.stages[i]? with
      | none => exact Or.inl (by simp only [step, hi])
      | some s =>
          cases s with
          | idle => exact Or.inr (Or.inl ⟨i, os, size, rfl, hi, by simp only [step, hi]⟩)
          | _ => exact Or.inl (by simp only [step, hi])
  | release i g =>
      cases hi : c.stages[i]? with
      | none => exact Or.inl (by simp only [step, hi])
      | some s =>
          cases s with
          | idle => exact Or.inr (Or.inr (Or.inl ⟨i, g, rfl, hi, by simp only [step, hi]⟩))
          | _ => exact Or.inl (by simp only [step, hi])
  | proceed i =>
      cases hi : c.stages[i]? with
      | none => exact Or.inl (by simp only [step, hi])
      | some s => exact Or.inr (Or.inr (Or.inr ⟨i, s, rfl, hi, by simp only [step, hi]⟩))

/-- A region that an idle caller gives back without a stray is out. -/
theorem mem_out_of_strays {c : Crew} {i : Nat} {g : Grant} (hi : c.stages[i]? = some .idle)
    (hown : c.strays (.release i g) = []) : g ∈ c.out := by
  by_cases hmem : g ∈ c.out
  · exact hmem
  · rw [strays, if_pos ⟨hi, hmem⟩] at hown
    cases hown

/-- One caller moves on, and the sum over all callers with it. -/
theorem sum_map_set {stages : List Stage} {i : Nat} {s : Stage} (hi : stages[i]? = some s)
    (t : Stage) (charge : Stage → Nat) :
    ((stages.set i t).map charge).sum + charge s = (stages.map charge).sum + charge t := by
  induction stages generalizing i with
  | nil => simp at hi
  | cons first rest ih =>
      cases i with
      | zero =>
          obtain rfl : first = s := by simpa using hi
          simp only [List.set_cons_zero, List.map_cons, List.sum_cons]
          omega
      | succ i =>
          have hrest := ih (i := i) (by simpa using hi)
          simp only [List.set_cons_succ, List.map_cons, List.sum_cons]
          omega

/-- What one caller has is part of what they all have. -/
theorem le_sum_map {stages : List Stage} {i : Nat} {s : Stage} (hi : stages[i]? = some s)
    (charge : Stage → Nat) (hidle : charge .idle = 0) : charge s ≤ (stages.map charge).sum := by
  have hset := sum_map_set hi .idle charge
  omega

/-- **Every call in progress is charged** for the steps it has made: with the regions
that are out, that is what the counters count, and it was all mapped before. -/
structure Charged (c : Crew) : Prop where
  sound : ∀ s ∈ c.stages, s.Sound
  regions_eq : c.ledger.regions = (c.stages.map Stage.regions).sum + c.out.length
  bytes_eq : c.ledger.bytes = (c.stages.map Stage.bytes).sum + c.outstanding
  regions_le : c.ledger.regions + (c.stages.map Stage.pendingRegions).sum ≤ c.mapped.length
  bytes_le : c.ledger.bytes + (c.stages.map Stage.pendingBytes).sum ≤ c.mapped.sum
  /-- What is mapped has at least one byte. -/
  length_le : c.mapped.length ≤ c.mapped.sum

theorem charged_start (callers : Nat) : (start callers).Charged := by
  constructor <;> simp [start, outstanding, Stage.Sound, Stage.regions, Stage.bytes,
    Stage.pendingRegions, Stage.pendingBytes, Ledger.empty]

namespace Charged

variable {c : Crew} {i : Nat} {s t : Stage} {l : Ledger} {out : List Grant}

/-- **The counters have room** for a call in progress, if what is mapped fits an
address. -/
theorem room (h : c.Charged) (hi : c.stages[i]? = some s) (hfit : c.mapped.sum < 2 ^ 64) :
    s.Room c.ledger := by
  obtain ⟨-, hr, hb, hrle, hble, hlen⟩ := h
  have hregions := le_sum_map hi Stage.regions rfl
  have hbytes := le_sum_map hi Stage.bytes rfl
  have hpendingRegions := le_sum_map hi Stage.pendingRegions rfl
  have hpendingBytes := le_sum_map hi Stage.pendingBytes rfl
  constructor <;> omega

/-- **One caller moves on**: the charges stay right where the counters and the regions
that are out change by what the caller is charged for. -/
theorem change (h : c.Charged) (hi : c.stages[i]? = some s) (ht : t.Sound) (more : List Nat)
    (hregions : l.regions + s.regions + c.out.length
      = c.ledger.regions + t.regions + out.length)
    (hbytes : l.bytes + s.bytes + c.outstanding
      = c.ledger.bytes + t.bytes + (out.map Grant.size).sum)
    (hrle : l.regions + t.pendingRegions
      ≤ c.ledger.regions + s.pendingRegions + more.length)
    (hble : l.bytes + t.pendingBytes ≤ c.ledger.bytes + s.pendingBytes + more.sum)
    (hmore : more.length ≤ more.sum) :
    Charged ⟨l, c.stages.set i t, out, c.mapped ++ more⟩ := by
  have hsetRegions := sum_map_set hi t Stage.regions
  have hsetBytes := sum_map_set hi t Stage.bytes
  have hsetPendingRegions := sum_map_set hi t Stage.pendingRegions
  have hsetPendingBytes := sum_map_set hi t Stage.pendingBytes
  obtain ⟨hsound, hr, hb, hrall, hball, hlen⟩ := h
  refine ⟨?_, ?_, ?_, ?_, ?_, ?_⟩
  · intro u hu
    rcases List.mem_or_eq_of_mem_set hu with hu | rfl
    · exact hsound u hu
    · exact ht
  · show l.regions = ((c.stages.set i t).map Stage.regions).sum + out.length
    omega
  · show l.bytes = ((c.stages.set i t).map Stage.bytes).sum + (out.map Grant.size).sum
    omega
  · show l.regions + ((c.stages.set i t).map Stage.pendingRegions).sum
      ≤ (c.mapped ++ more).length
    rw [List.length_append]
    omega
  · show l.bytes + ((c.stages.set i t).map Stage.pendingBytes).sum ≤ (c.mapped ++ more).sum
    rw [List.sum_append]
    omega
  · show (c.mapped ++ more).length ≤ (c.mapped ++ more).sum
    rw [List.length_append, List.sum_append]
    omega

/-- **One move** is a regular one and keeps the charges, if it gives back nothing but
what is out. -/
theorem step (h : c.Charged) (m : Move) (hown : c.strays m = [])
    (hfit : c.mapped.sum < 2 ^ 64) : (c.step m).1.Regular ∧ (c.step m).2.Charged := by
  rcases step_cases c m with heq | ⟨i, os, size, rfl, hi, heq⟩ | ⟨i, g, rfl, hi, heq⟩
    | ⟨i, s, rfl, hi, heq⟩
  · rw [heq]
    exact ⟨trivial, h⟩
  · rw [heq]
    refine ⟨trivial, ?_⟩
    rcases Stage.request_cases os c.mapped.length size with ⟨fault, hs, hf⟩ | ⟨hpos, hs⟩
    · have hsound : (Stage.returning (.failed fault)).Sound := by
        cases fault <;> first | exact absurd rfl (hf.ne_unknownRegion _) | trivial
      rw [hs]
      exact h.change hi hsound [] rfl rfl (Nat.le_refl _) (Nat.le_refl _) (Nat.le_refl _)
    · have hsound : (Stage.mapped ⟨c.mapped.length, size⟩).Sound := trivial
      rw [hs]
      exact h.change hi hsound [size] rfl rfl (Nat.le_refl _) (Nat.le_refl _) hpos
  · -- the region is charged to the release, and is out no more
    have hperm := List.perm_cons_erase (mem_out_of_strays hi hown)
    have hlength : c.out.length = (c.out.erase g).length + 1 := hperm.length_eq
    have hsum : c.outstanding = g.size + ((c.out.erase g).map Grant.size).sum :=
      (hperm.map Grant.size).sum_nat
    have hregions : c.ledger.regions + 0 + c.out.length
        = c.ledger.regions + 1 + (c.out.erase g).length := by omega
    have hbytes : c.ledger.bytes + 0 + c.outstanding
        = c.ledger.bytes + g.size + ((c.out.erase g).map Grant.size).sum := by omega
    have hmoved := h.change (t := .surrendered g.size) hi trivial [] hregions hbytes
      (Nat.le_refl _) (Nat.le_refl _) (Nat.le_refl _)
    rw [heq]
    rw [List.append_nil] at hmoved
    exact ⟨trivial, hmoved⟩
  · obtain ⟨hregular, hsound, hregions, hbytes, hrle, hble⟩ :=
      Stage.proceed_balanced (h.sound s (List.mem_of_getElem? hi)) (h.room hi hfit)
    have hout : (s.proceed c.ledger).2.2.regions + s.regions + c.out.length
        = c.ledger.regions + (s.proceed c.ledger).2.1.regions
          + ((s.proceed c.ledger).1.grants ++ c.out).length := by
      rw [List.length_append]
      omega
    have hsum : (s.proceed c.ledger).2.2.bytes + s.bytes + c.outstanding
        = c.ledger.bytes + (s.proceed c.ledger).2.1.bytes
          + (((s.proceed c.ledger).1.grants ++ c.out).map Grant.size).sum := by
      rw [List.map_append, List.sum_append, hbytes, Nat.add_assoc]
      rfl
    have hmoved := h.change hi hsound [] hout hsum hrle hble (Nat.le_refl _)
    rw [heq]
    rw [List.append_nil] at hmoved
    exact ⟨hregular, hmoved⟩

end Charged

/-- Nothing that was mapped is forgotten. -/
theorem mapped_step (c : Crew) (m : Move) :
    ∃ more, (c.step m).2.mapped = c.mapped ++ more := by
  rcases step_cases c m with heq | ⟨i, os, size, -, -, heq⟩ | ⟨i, g, -, -, heq⟩
    | ⟨i, s, -, -, heq⟩
  · exact ⟨[], by rw [heq, List.append_nil]⟩
  · exact ⟨_, congrArg (fun r => r.2.mapped) heq⟩
  · exact ⟨[], by rw [heq, List.append_nil]⟩
  · exact ⟨[], by rw [heq, List.append_nil]⟩

theorem sum_mapped_le (c : Crew) (moves : List Move) :
    c.mapped.sum ≤ (c.run moves).mapped.sum := by
  induction moves generalizing c with
  | nil => exact Nat.le_refl _
  | cons m rest ih =>
      obtain ⟨more, hmore⟩ := mapped_step c m
      have hstep : c.mapped.sum ≤ (c.step m).2.mapped.sum := by
        rw [hmore, List.sum_append]
        exact Nat.le_add_right _ _
      exact Nat.le_trans hstep (ih (c.step m).2)

/-- **Any number of moves**, in any order, are regular and keep the charges. -/
theorem Charged.run {c : Crew} (h : c.Charged) (moves : List Move)
    (hown : c.straysIn moves = []) (hfit : (c.run moves).mapped.sum < 2 ^ 64) :
    (∀ e ∈ c.events moves, e.Regular) ∧ (c.run moves).Charged := by
  induction moves generalizing c with
  | nil => exact ⟨fun e he => absurd he List.not_mem_nil, h⟩
  | cons m rest ih =>
      obtain ⟨hm, hrest⟩ := List.append_eq_nil_iff.mp hown
      obtain ⟨hregular, hcharged⟩ :=
        h.step m hm (Nat.lt_of_le_of_lt (sum_mapped_le c (m :: rest)) hfit)
      obtain ⟨hevents, hend⟩ := ih hcharged hrest hfit
      refine ⟨fun e he => ?_, hend⟩
      rcases List.mem_cons.mp he with rfl | he
      · exact hregular
      · exact hevents e he

/-- Callers that are in no call are charged for nothing. -/
theorem Quiet.sum_map {c : Crew} (h : c.Quiet) (charge : Stage → Nat)
    (hidle : charge .idle = 0) : (c.stages.map charge).sum = 0 := by
  rw [List.eq_replicate_of_mem h, List.map_replicate, hidle]
  simp

/-- **The counters of a quiet crew** are exactly what is out. -/
theorem Charged.ledger_eq {c : Crew} (h : c.Charged) (hquiet : c.Quiet) :
    c.ledger = ⟨c.out.length, c.outstanding⟩ := by
  have hregions := h.regions_eq
  have hbytes := h.bytes_eq
  rw [hquiet.sum_map Stage.regions rfl, Nat.zero_add] at hregions
  rw [hquiet.sum_map Stage.bytes rfl, Nat.zero_add] at hbytes
  rw [← hregions, ← hbytes]

/-! ## §4. Every region is one of its own. -/

/-- How often a serial is at a stage of an allocation. -/
def Stage.bears (k : Nat) : Stage → Nat
  | mapped g | counted g | returning (.granted g) => if g.serial = k then 1 else 0
  | idle | surrendered _ | discounted _ | overdrawn _
  | returning .released | returning (.failed _) => 0

/-- **Every serial is borne at most once**, and none is that was not given yet. -/
def Numbered (c : Crew) : Prop :=
  ∀ k, (c.stages.map (Stage.bears k)).sum + (c.out.map Grant.serial).count k
    ≤ if k < c.mapped.length then 1 else 0

/-- A step of a call passes its serial on. -/
theorem Stage.proceed_bears (l : Ledger) (s : Stage) (k : Nat) :
    (s.proceed l).2.1.bears k + ((s.proceed l).1.grants.map Grant.serial).count k
      ≤ s.bears k := by
  cases s with
  | surrendered size =>
      simp only [proceed]
      cases l.discountRegion? <;> exact Nat.le_refl _
  | discounted size =>
      simp only [proceed]
      cases l.discountBytes? size <;> exact Nat.le_refl _
  | returning answer =>
      cases answer with
      | granted g => simp [proceed, bears, Event.grants, List.count_singleton]
      | released => exact Nat.le_refl _
      | failed fault => exact Nat.le_refl _
  | idle => exact Nat.le_refl _
  | mapped g => exact Nat.le_refl _
  | counted g => exact Nat.le_refl _
  | overdrawn size => exact Nat.le_refl _

/-- One move keeps the serials apart. -/
theorem Numbered.step {c : Crew} (h : c.Numbered) (m : Move) : (c.step m).2.Numbered := by
  intro k
  have hk := h k
  rcases step_cases c m with heq | ⟨i, os, size, -, hi, heq⟩ | ⟨i, g, -, hi, heq⟩
    | ⟨i, s, -, hi, heq⟩ <;> rw [heq]
  · exact hk
  · have hset := sum_map_set hi (Stage.request os c.mapped.length size) (Stage.bears k)
    rcases Stage.request_cases os c.mapped.length size with ⟨fault, hs, -⟩ | ⟨-, hs⟩
    · rw [hs] at hset ⊢
      simp only [Stage.bears, Stage.mappings, List.append_nil] at hset ⊢
      omega
    · -- the new serial is the only one not borne before
      rw [hs] at hset ⊢
      simp only [Stage.bears, Stage.mappings, List.length_append, List.length_singleton] at hset ⊢
      split at hset <;> split at hk <;> split <;> omega
  · have hset := sum_map_set hi (.surrendered g.size) (Stage.bears k)
    have hcount : ((c.out.erase g).map Grant.serial).count k ≤ (c.out.map Grant.serial).count k :=
      (List.Sublist.map Grant.serial List.erase_sublist).count_le k
    simp only [Stage.bears] at hset ⊢
    omega
  · have hset := sum_map_set hi (s.proceed c.ledger).2.1 (Stage.bears k)
    have hstep := Stage.proceed_bears c.ledger s k
    simp only [List.map_append, List.count_append]
    omega

theorem Numbered.run {c : Crew} (h : c.Numbered) (moves : List Move) :
    (c.run moves).Numbered := by
  induction moves generalizing c with
  | nil => exact h
  | cons m rest ih => exact ih (h.step m)

/-- **No region is out twice**, whatever the callers do. -/
theorem nodup_out (callers : Nat) (moves : List Move) :
    (((start callers).run moves).out.map Grant.serial).Nodup := by
  have hstart : (start callers).Numbered := by
    intro k
    simp [start, Stage.bears]
  refine List.nodup_iff_count.mpr (fun k => ?_)
  have hk := hstart.run moves k
  split at hk <;> omega

/-! ## §5. A call nobody interrupts. -/

/-- A call and its steps with nothing between them; no call has more than four. -/
def undisturbed (i : Nat) (m : Move) : List Move := m :: List.replicate 4 (.proceed i)

/-- What an allocation of the ledger answers; the serial is that of the next mapping. -/
def Answer.ofAllocation (serial : Nat) : Except CodeFault Region → Answer
  | .ok r => .granted ⟨serial, r.size⟩
  | .error fault => .failed fault

/-- What a release of the ledger answers. -/
def Answer.ofRelease : Except CodeFault Unit → Answer
  | .ok () => .released
  | .error fault => .failed fault

section Undisturbed

variable {stages : List Stage} {i : Nat} (l : Ledger) (out : List Grant) (mapped : List Nat)

/-- Setting a caller to where it is changes nothing. -/
theorem set_of_getElem? {s : Stage} (hi : stages[i]? = some s) : stages.set i s = stages := by
  obtain ⟨hlt, rfl⟩ := List.getElem?_eq_some_iff.mp hi
  exact List.set_getElem_self hlt

/-- A caller whose stage was just set makes its next step. -/
theorem step_proceed_set (hi : i < stages.length) (s : Stage) :
    (⟨l, stages.set i s, out, mapped⟩ : Crew).step (.proceed i)
      = ((s.proceed l).1, ⟨(s.proceed l).2.2, stages.set i (s.proceed l).2.1,
          (s.proceed l).1.grants ++ out, mapped⟩) := by
  simp only [step, List.getElem?_set_self hi, List.set_set]

/-- **An allocation nobody interrupts** is that of the ledger. -/
theorem allocate_undisturbed (hi : stages[i]? = some .idle) (os : Platform) (size : Nat) :
    let c : Crew := ⟨l, stages, out, mapped⟩
    let moves := undisturbed i (.allocate i os size)
    (c.run moves).ledger = (l.allocate os size).2 ∧ (c.run moves).stages = stages
      ∧ .returned (.ofAllocation mapped.length (l.allocate os size).1) ∈ c.events moves := by
  have hlt : i < stages.length := (List.getElem?_eq_some_iff.mp hi).1
  have hback := set_of_getElem? hi
  have hbegin : (⟨l, stages, out, mapped⟩ : Crew).step (.allocate i os size)
      = (.began, ⟨l, stages.set i (Stage.request os mapped.length size), out,
          mapped ++ (Stage.request os mapped.length size).mappings⟩) := by
    simp only [step, hi]
  have hrequest := Stage.request_eq os mapped.length size l
  rcases Ledger.allocate_cases os size l with ⟨fault, heq, -⟩ | ⟨-, heq⟩
  · rw [heq] at hrequest ⊢
    simp only [undisturbed, run, events, hbegin, hrequest, List.replicate,
      step_proceed_set _ _ _ hlt, Stage.proceed, Answer.ofAllocation]
    exact ⟨trivial, hback, by simp⟩
  · rw [heq] at hrequest ⊢
    simp only [undisturbed, run, events, hbegin, hrequest, List.replicate,
      step_proceed_set _ _ _ hlt, Stage.proceed, Answer.ofAllocation, Ledger.countRegion,
      Ledger.countBytes]
    exact ⟨rfl, hback, by simp [Region.fresh]⟩

/-- **A release nobody interrupts** is that of the ledger. -/
theorem release_undisturbed (hi : stages[i]? = some .idle) (g : Grant) :
    let c : Crew := ⟨l, stages, out, mapped⟩
    let moves := undisturbed i (.release i g)
    (c.run moves).ledger = (l.release g.size).2 ∧ (c.run moves).stages = stages
      ∧ .returned (.ofRelease (l.release g.size).1) ∈ c.events moves := by
  have hlt : i < stages.length := (List.getElem?_eq_some_iff.mp hi).1
  have hback := set_of_getElem? hi
  have hbegin : (⟨l, stages, out, mapped⟩ : Crew).step (.release i g)
      = (.began, ⟨l, stages.set i (.surrendered g.size), out.erase g, mapped⟩) := by
    simp only [step, hi]
  unfold Ledger.release
  cases hregion : l.discountRegion? with
  | none =>
      simp only [undisturbed, run, events, hbegin, List.replicate, step_proceed_set _ _ _ hlt,
        Stage.proceed, hregion, Answer.ofRelease]
      exact ⟨trivial, hback, by simp⟩
  | some discounted =>
      cases hbytes : discounted.discountBytes? g.size with
      | none =>
          simp only [undisturbed, run, events, hbegin, List.replicate, step_proceed_set _ _ _ hlt,
            Stage.proceed, hregion, hbytes, Answer.ofRelease]
          exact ⟨trivial, hback, by simp⟩
      | some settled =>
          simp only [undisturbed, run, events, hbegin, List.replicate, step_proceed_set _ _ _ hlt,
            Stage.proceed, hregion, hbytes, Answer.ofRelease]
          exact ⟨trivial, hback, by simp⟩

end Undisturbed

/-! ## §6. Every crew. -/

theorem run_append (c : Crew) (first rest : List Move) :
    c.run (first ++ rest) = (c.run first).run rest := by
  induction first generalizing c with
  | nil => rfl
  | cons m first ih => exact ih (c.step m).2

theorem straysIn_append (c : Crew) (first rest : List Move) :
    c.straysIn (first ++ rest) = c.straysIn first ++ (c.run first).straysIn rest := by
  induction first generalizing c with
  | nil => rfl
  | cons m first ih =>
      show c.strays m ++ straysIn (c.step m).2 (first ++ rest) = (c.strays m ++ _) ++ _
      rw [ih, List.append_assoc]
      rfl

/-- **CALLERS SIDE BY SIDE KEEP THE COUNTERS EXACT**, however many they are and
however they interleave, if they give back only what is out and everything that was
ever mapped fits an address.  No release is refused, no region is counted again, no
counter starts over or lacks what is taken from it; and whenever no call is in
progress the counters are the number and the total size of the regions that are
out. -/
theorem counters_exact (callers : Nat) (moves : List Move)
    (hown : (start callers).straysIn moves = [])
    (hfit : ((start callers).run moves).mapped.sum < 2 ^ 64) :
    (∀ size, .returned (.failed (.unknownRegion size)) ∉ (start callers).events moves)
      ∧ .putBack ∉ (start callers).events moves
      ∧ .added true ∉ (start callers).events moves
      ∧ .deducted false ∉ (start callers).events moves
      ∧ ∀ part, part <+: moves → ((start callers).run part).Quiet →
          ((start callers).run part).ledger
            = ⟨((start callers).run part).out.length,
                ((start callers).run part).outstanding⟩ := by
  obtain ⟨hregular, -⟩ := (charged_start callers).run moves hown hfit
  refine ⟨fun size he => hregular _ he, fun he => hregular _ he, fun he => ?_, fun he => ?_, ?_⟩
  · exact Bool.noConfusion (hregular _ he)
  · exact Bool.noConfusion (hregular _ he)
  · rintro part ⟨rest, rfl⟩ hquiet
    rw [straysIn_append, List.append_eq_nil_iff] at hown
    rw [run_append] at hfit
    have hpart := Nat.lt_of_le_of_lt (sum_mapped_le _ rest) hfit
    exact ((charged_start callers).run part hown.1 hpart).2.ledger_eq hquiet

/-- Two callers: each counts its region before either counts its bytes, and the one
gives the other's region back while that one allocates again. -/
def passedOn : List Move :=
  [.allocate 0 .standard 8, .allocate 1 .standard 16, .proceed 1, .proceed 0, .proceed 0,
   .proceed 1, .proceed 0, .proceed 1, .release 1 ⟨0, 8⟩, .allocate 0 .standard 4, .proceed 1,
   .proceed 0, .proceed 0, .proceed 1, .proceed 1, .proceed 0]

/-- What is left are the second region and the third. -/
theorem counters_exact_passedOn :
    (start 2).straysIn passedOn = []
      ∧ ((start 2).run passedOn).mapped.sum < 2 ^ 64
      ∧ ((start 2).run passedOn).out = [⟨2, 4⟩, ⟨1, 16⟩]
      ∧ ((start 2).run passedOn).ledger = ⟨2, 20⟩ := by
  have hown : (start 2).straysIn passedOn = [] := by decide
  have hfit : ((start 2).run passedOn).mapped.sum < 2 ^ 64 := by decide
  have hout : ((start 2).run passedOn).out = [⟨2, 4⟩, ⟨1, 16⟩] := by decide
  have hquiet : ((start 2).run passedOn).Quiet := by decide
  obtain ⟨-, -, -, -, hexact⟩ := counters_exact 2 passedOn hown hfit
  have hledger := hexact passedOn (List.prefix_refl _) hquiet
  rw [outstanding, hout] at hledger
  exact ⟨hown, hfit, hout, hledger⟩

end JitTarget.Crew
