/-
  JitTarget.Proofs.DirtySpan
  ────────────────────────────────
  **THE DIRTY SPAN COVERS EVERYTHING THAT MUST BE SYNCHRONIZED.**

  A region keeps one span, grown by every write and cleared when the region
  becomes executable.  Over every run of calls that span is exactly the hull of
  the writes since the region last became writable:

      writable    — dirty is the hull of `writtenSince`, and none if that is empty
      executable  — dirty is none

  so a byte that differs from what it was when the region was last executable
  lies in the span that is synchronized before the region is executable again.
-/
import JitTarget.Proofs.RegionSteps

namespace JitTarget

/-! ## §1. Hulls of many spans. -/

/-- A span that runs from the smallest start of some spans to their largest
stop. -/
structure Span.IsHullOf (hull : Span) (spans : List Span) : Prop where
  start_le : ∀ s ∈ spans, hull.start ≤ s.start
  start_mem : ∃ s ∈ spans, hull.start = s.start
  le_stop : ∀ s ∈ spans, s.stop ≤ hull.stop
  stop_mem : ∃ s ∈ spans, hull.stop = s.stop

namespace Span

/-- One span is its own hull. -/
theorem isHullOf_singleton (s : Span) : s.IsHullOf [s] where
  start_le := by simp
  start_mem := ⟨s, List.mem_singleton_self s, rfl⟩
  le_stop := by simp
  stop_mem := ⟨s, List.mem_singleton_self s, rfl⟩

/-- The hull with one more span is the hull of one more span. -/
theorem IsHullOf.hull_cons {b : Span} {spans : List Span} (h : b.IsHullOf spans) (s : Span) :
    (b.hull s).IsHullOf (s :: spans) where
  start_le := by
    intro t ht
    rcases List.mem_cons.mp ht with rfl | ht
    · exact Nat.min_le_right _ _
    · exact Nat.le_trans (Nat.min_le_left _ _) (h.start_le t ht)
  start_mem := by
    obtain ⟨t, ht, heq⟩ := h.start_mem
    by_cases hle : b.start ≤ s.start
    · exact ⟨t, List.mem_cons_of_mem s ht, by rw [← heq]; exact Nat.min_eq_left hle⟩
    · exact ⟨s, List.mem_cons_self, Nat.min_eq_right (by omega)⟩
  le_stop := by
    intro t ht
    rcases List.mem_cons.mp ht with rfl | ht
    · exact Nat.le_max_right _ _
    · exact Nat.le_trans (h.le_stop t ht) (Nat.le_max_left _ _)
  stop_mem := by
    obtain ⟨t, ht, heq⟩ := h.stop_mem
    by_cases hle : s.stop ≤ b.stop
    · exact ⟨t, List.mem_cons_of_mem s ht, by rw [← heq]; exact Nat.max_eq_left hle⟩
    · exact ⟨s, List.mem_cons_self, Nat.max_eq_right (by omega)⟩

/-- What a region keeps of some spans: nothing of none, else their hull. -/
def Bounds (kept : Option Span) (spans : List Span) : Prop :=
  match kept with
  | none => spans = []
  | some hull => hull.IsHullOf spans

/-- Nothing is kept exactly when there is nothing to keep. -/
theorem Bounds.eq_none_iff {kept : Option Span} {spans : List Span} (h : Bounds kept spans) :
    kept = none ↔ spans = [] := by
  cases kept with
  | none => exact ⟨fun _ => h, fun _ => rfl⟩
  | some hull =>
      obtain ⟨s, hs, -⟩ := IsHullOf.start_mem h
      exact ⟨fun hk => absurd hk (by simp), fun he => absurd (he ▸ hs) (by simp)⟩

/-- Extending what is kept keeps up with one more span. -/
theorem Bounds.extend {kept : Option Span} {spans : List Span} (h : Bounds kept spans)
    (s : Span) : Bounds (some (Span.extend kept s)) (s :: spans) := by
  cases kept with
  | none =>
      have hnil : spans = [] := h
      rw [hnil]
      exact isHullOf_singleton s
  | some b => exact IsHullOf.hull_cons h s

end Span

namespace Region

/-! ## §2. The history, one event at a time. -/

/-- What one more event adds to what was written. -/
theorem writtenSince_append_one (es : List Event) (e : Event) :
    writtenSince (es ++ [e])
      = if e.reopens then [] else e.written?.toList ++ writtenSince es := by
  unfold writtenSince
  rw [List.reverse_append, List.reverse_singleton, List.singleton_append,
      List.takeWhile_cons]
  cases hr : e.reopens with
  | true => rfl
  | false => cases hw : e.written? <;> simp [hw]

/-- Reopening sets the bytes to compare with; no other event does. -/
theorem baseline_append_one (es : List Event) (e : Event) :
    baseline (es ++ [e]) = if e.reopens then e.before.memory else baseline es := by
  unfold baseline
  rw [List.reverse_append, List.reverse_singleton, List.singleton_append, List.find?_cons]
  cases hr : e.reopens <;> rfl

/-- An event that reopens nothing and writes nothing leaves both as they were. -/
private theorem history_quiet (es : List Event) {e : Event} (hr : e.reopens = false)
    (hw : e.written? = none) :
    writtenSince (es ++ [e]) = writtenSince es ∧ baseline (es ++ [e]) = baseline es := by
  rw [writtenSince_append_one, baseline_append_one, hr, hw]
  exact ⟨rfl, rfl⟩

/-! ## §3. The invariant. -/

/-- What a region of so many bytes has noted, when these spans were written
since it last became writable and its bytes were these before. -/
structure Tracks (size : Nat) (spans : List Span) (base : Memory) (r : Region) : Prop where
  size_eq : r.size = size
  /-- Only what is there was written. -/
  within : ∀ s ∈ spans, s.start ≤ s.stop ∧ s.stop ≤ size
  bounds : r.phase = .writable → Span.Bounds r.dirty spans
  clean : r.phase = .executable → r.dirty = none
  /-- Only what was written differs from before. -/
  changed : r.phase = .writable →
    ∀ i, r.memory i ≠ base i → ∃ s ∈ spans, s.start ≤ i ∧ i < s.stop

/-- A new region has noted nothing, and nothing has happened. -/
theorem tracks_fresh (size : Nat) : Tracks size [] (fun _ => 0) (fresh size) where
  size_eq := rfl
  within := by simp
  bounds := fun _ => rfl
  clean := fun h => absurd h (by simp [fresh])
  changed := fun _ i hi => absurd rfl hi

namespace Tracks

variable {size : Nat} {spans : List Span} {base : Memory} {r : Region}

/-- A write is noted, and it accounts for the bytes it changes. -/
theorem write (h : Tracks size spans base r) (offset : Nat) (bytes : Array UInt8)
    (hp : r.phase = .writable) (hfit : offset + bytes.size ≤ r.size) :
    Tracks size (⟨offset, offset + bytes.size⟩ :: spans) base
      { r with
        memory := r.memory.overwrite offset bytes
        dirty := some (Span.extend r.dirty ⟨offset, offset + bytes.size⟩) } where
  size_eq := h.size_eq
  within := by
    intro s hs
    rcases List.mem_cons.mp hs with rfl | hs
    · exact ⟨Nat.le_add_right _ _, h.size_eq ▸ hfit⟩
    · exact h.within s hs
  bounds := fun _ => (h.bounds hp).extend _
  clean := fun hx => absurd (hp.symm.trans hx) (by decide)
  changed := by
    intro _ i hi
    -- a byte outside the write differs only if it did before
    by_cases hin : offset ≤ i ∧ i < offset + bytes.size
    · exact ⟨_, List.mem_cons_self, hin⟩
    · have hout : i < offset ∨ offset + bytes.size ≤ i := by omega
      have hold : r.memory i ≠ base i := by
        rw [← Memory.overwrite_of_outside r.memory offset bytes i hout]
        exact hi
      obtain ⟨s, hs, hcover⟩ := h.changed hp i hold
      exact ⟨s, List.mem_cons_of_mem _ hs, hcover⟩

/-- Becoming executable clears what was noted. -/
theorem activate (h : Tracks size spans base r) :
    Tracks size spans base { r with phase := .executable, dirty := none } where
  size_eq := h.size_eq
  within := h.within
  bounds := fun hw => nomatch hw
  clean := fun _ => rfl
  changed := fun hw => nomatch hw

/-- Reopening starts over, from the bytes that were executable. -/
theorem reopen (h : Tracks size spans base r) (hx : r.phase = .executable) :
    Tracks size [] r.memory { r with phase := .writable } where
  size_eq := h.size_eq
  within := by simp
  bounds := fun _ => by
    show Span.Bounds r.dirty []
    rw [h.clean hx]
    rfl
  clean := fun hx => nomatch hx
  changed := fun _ i hi => absurd rfl hi

/-- A region that is lost has nothing left to note. -/
theorem lose (h : Tracks size spans base r) :
    Tracks size spans base { r with phase := .lost } where
  size_eq := h.size_eq
  within := h.within
  bounds := fun hw => nomatch hw
  clean := fun hx => nomatch hx
  changed := fun hw => nomatch hw

/-- **Every call keeps the invariant.** -/
theorem append_event {es : List Event} {e : Event}
    (h : Tracks size (writtenSince es) (baseline es) e.before)
    (hstep : Step e.before e.after e.written?) :
    Tracks size (writtenSince (es ++ [e])) (baseline (es ++ [e])) e.after := by
  obtain ⟨r, c, result, r'⟩ := e
  simp only at h hstep ⊢
  -- which of the five changes it was decides both what is added and what is kept
  generalize hw : Event.written? ⟨r, c, result, r'⟩ = w at hstep
  cases hstep with
  | stay =>
      have hr : Event.reopens ⟨r, c, result, r⟩ = false := by
        cases hp : r.phase <;> simp [Event.reopens, hp]
      obtain ⟨hspans, hbase⟩ := history_quiet es hr hw
      rw [hspans, hbase]
      exact h
  | write offset bytes hp hfit =>
      have hr : ∀ r', Event.reopens ⟨r, c, result, r'⟩ = false := by
        simp [Event.reopens, hp]
      rw [writtenSince_append_one, baseline_append_one, hw, hr]
      exact h.write offset bytes hp hfit
  | activate hp =>
      obtain ⟨hspans, hbase⟩ := history_quiet es (by simp [Event.reopens]) hw
      rw [hspans, hbase]
      exact h.activate
  | reopen hx =>
      have hr : Event.reopens ⟨r, c, result, { r with phase := .writable }⟩ = true := by
        simp [Event.reopens, hx]
      rw [writtenSince_append_one, baseline_append_one, hr]
      exact h.reopen hx
  | lose hl =>
      obtain ⟨hspans, hbase⟩ := history_quiet es (by simp [Event.reopens]) hw
      rw [hspans, hbase]
      exact h.lose

/-- **Every run keeps the invariant**, whatever happened before it. -/
theorem append_history (sync : Synchronizer) (calls : List (Platform × Call))
    {es : List Event} (h : Tracks size (writtenSince es) (baseline es) r) :
    Tracks size (writtenSince (es ++ r.history sync calls))
      (baseline (es ++ r.history sync calls)) (r.after sync calls) := by
  induction calls generalizing r es with
  | nil =>
      show Tracks size (writtenSince (es ++ [])) (baseline (es ++ [])) r
      rw [List.append_nil]
      exact h
  | cons first rest ih =>
      have hfirst := h.append_event (e := r.event sync first.1 first.2)
        (event_step sync first.1 r first.2)
      have hrest := ih hfirst
      rw [List.append_assoc, List.singleton_append] at hrest
      exact hrest

end Tracks

/-! ## §4. Every run of calls. -/

/-- What a new region has noted after any run of calls. -/
theorem tracks_after (sync : Synchronizer) (size : Nat) (calls : List (Platform × Call)) :
    Tracks size (writtenSince ((fresh size).history sync calls))
      (baseline ((fresh size).history sync calls)) ((fresh size).after sync calls) := by
  have hnew : Tracks size (writtenSince []) (baseline []) (fresh size) := tracks_fresh size
  exact hnew.append_history sync calls

/-- Becoming executable means that what was noted has been synchronized. -/
theorem synchronizeDirty_of_makeExecutableWith {sync : Synchronizer} {os : Platform}
    {r r' : Region} {p : Profile} (hw : r.phase = .writable)
    (h : r.makeExecutableWith sync os p = (.ok (), r')) :
    r.synchronizeDirty sync p = .ok () := by
  rcases makeExecutableWith_cases sync os r p with
    ⟨fault, he, -⟩ | ⟨-, hx, -⟩ | ⟨-, -, hs, -⟩
  · rw [he] at h
    exact absurd (congrArg Prod.fst h) (by simp)
  · exact absurd (hw.symm.trans hx) (by decide)
  · exact hs

/-- **THE DIRTY SPAN IS THE HULL OF THE WRITES SINCE THE REGION BECAME
WRITABLE**, after every run of calls on a region of any size, and therefore
every byte that differs from the last executable phase is synchronized before
the region becomes executable.  The way to synchronize is arbitrary, so a span
it accepted is one that was handed to it. -/
theorem dirty_isHullOf_writtenSince (sync : Synchronizer) (size : Nat)
    (calls : List (Platform × Call)) :
    let r := (fresh size).after sync calls
    let es := (fresh size).history sync calls
    (r.phase = .writable →
        (r.dirty = none ↔ writtenSince es = [])
        ∧ ∀ span, r.dirty = some span →
            span.IsHullOf (writtenSince es)
            ∧ span.start ≤ span.stop ∧ span.stop ≤ r.size
            ∧ span.isWithin r.length = true)
      ∧ (r.phase = .executable → r.dirty = none)
      ∧ ∀ os p r', r.phase = .writable → r.makeExecutableWith sync os p = (.ok (), r') →
          ∀ i, r.memory i ≠ baseline es i →
            ∃ span, r.dirty = some span ∧ sync p span = .ok ()
              ∧ span.start ≤ i ∧ i < span.stop := by
  intro r es
  have h : Tracks size (writtenSince es) (baseline es) r := tracks_after sync size calls
  refine ⟨fun hw => ⟨(h.bounds hw).eq_none_iff, ?_⟩, h.clean, ?_⟩
  · intro span hspan
    have hhull : span.IsHullOf (writtenSince es) := by
      have hb := h.bounds hw
      rw [hspan] at hb
      exact hb
    obtain ⟨first, hfirst, hstart⟩ := hhull.start_mem
    obtain ⟨last, hlast, hstop⟩ := hhull.stop_mem
    have hle : span.start ≤ span.stop := by
      rw [hstart]
      exact Nat.le_trans (h.within first hfirst).1 (hhull.le_stop first hfirst)
    have hin : span.stop ≤ r.size := by
      rw [hstop, h.size_eq]
      exact (h.within last hlast).2
    have hlen : r.length = r.size := by simp only [length, hw]
    exact ⟨hhull, hle, hin, by simp [Span.isWithin, hlen, hle, hin]⟩
  · intro os p r' hw hexec i hi
    obtain ⟨s, hs, hfrom, hto⟩ := h.changed hw i hi
    have hsync := synchronizeDirty_of_makeExecutableWith hw hexec
    cases hd : r.dirty with
    | none =>
        -- nothing noted means nothing written, yet a byte changed
        have hnil := (h.bounds hw).eq_none_iff.mp hd
        rw [hnil] at hs
        exact absurd hs (by simp)
    | some span =>
        have hhull : span.IsHullOf (writtenSince es) := by
          have hb := h.bounds hw
          rw [hd] at hb
          exact hb
        simp only [synchronizeDirty, hd] at hsync
        exact ⟨span, rfl, hsync, Nat.le_trans (hhull.start_le s hs) hfrom,
          Nat.lt_of_lt_of_le hto (hhull.le_stop s hs)⟩

/-- A write of no bytes counts as the point at its offset; one that does not fit
does not count. -/
example : ((fresh 16).after Profile.synchronize
    [(.standard, .write 4 #[1, 2]), (.standard, .write 20 #[3]),
      (.standard, .write 2 #[])]).dirty = some ⟨2, 6⟩ := by
  decide

end Region

end JitTarget
