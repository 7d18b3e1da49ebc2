/-
  JitTarget.Proofs.Contents
  ────────────────────────────────
  **A REGION HOLDS THE REPLAY OF ITS ACCEPTED WRITES.**

  A new region is zero everywhere, and only a write that succeeds changes a byte
  of it.  So after every run of calls, however they fail and whichever way the
  phase goes in between, the byte at an offset is the one the last accepted
  write put there:

      memory_event    — what one call makes of a byte
      memory_after    — what a run makes of all of them
      bytes_eq_replay — what the region shows, and which writes it accepts
-/
import JitTarget.Proofs.DirtySpan

namespace JitTarget

/-- The byte at an offset after bytes were put down: theirs, if they reach it. -/
theorem Memory.overwrite_apply (m : Memory) (offset : Nat) (bytes : Array UInt8) (i : Nat) :
    m.overwrite offset bytes i
      = (if offset ≤ i then bytes[i - offset]? else none).getD (m i) := by
  unfold Memory.overwrite
  by_cases hi : offset ≤ i
  · rw [if_pos hi, if_pos hi, Array.getD_eq_getD_getElem?]
  · rw [if_neg hi, if_neg hi, Option.getD_none]

namespace Region

/-! ## §1. One call. -/

/-- A change that writes nothing leaves every byte. -/
theorem Step.memory_eq {r r' : Region} (h : Step r r' none) : r'.memory = r.memory := by
  cases h <;> rfl

/-- **What one call makes of a byte**: the one it supplies, or else the one that
was there. -/
theorem memory_event (sync : Synchronizer) (os : Platform) (r : Region) (c : Call) (i : Nat) :
    (r.event sync os c).after.memory i
      = ((r.event sync os c).supplied? i).getD (r.memory i) := by
  have hstep := event_step sync os r c
  cases c with
  | write offset bytes =>
      cases hw : r.write offset bytes with
      | error fault =>
          have hcall : r.call sync os (.write offset bytes) = (.error fault, r) := by
            simp only [call, hw]
          simp only [event, Event.supplied?, hcall, Option.getD_none]
      | ok written =>
          have hcall : r.call sync os (.write offset bytes) = (.ok (), written) := by
            simp only [call, hw]
          obtain ⟨-, -, rfl⟩ := (write_eq_ok_iff r written offset bytes).mp hw
          simp only [event, Event.supplied?, hcall]
          exact Memory.overwrite_apply r.memory offset bytes i
  -- the other calls neither supply a byte nor write a span
  | read span => exact congrFun (Step.memory_eq hstep) i
  | synchronize p span => exact congrFun (Step.memory_eq hstep) i
  | makeExecutable p => exact congrFun (Step.memory_eq hstep) i
  | makeWritable => exact congrFun (Step.memory_eq hstep) i
  | entryAddress offset => exact congrFun (Step.memory_eq hstep) i

theorem written?_of_executable (sync : Synchronizer) (os : Platform) {r : Region} (c : Call)
    (hx : r.phase = .executable) : (r.event sync os c).written? = none := by
  have hstep := event_step sync os r c
  generalize (r.event sync os c).written? = w, (r.event sync os c).after = r' at hstep
  cases hstep with
  | write offset bytes hw hfit => exact absurd (hw.symm.trans hx) (by decide)
  | stay => rfl
  | activate hw => rfl
  | reopen hx => rfl
  | lose hl => rfl

/-! ## §2. Every run of calls. -/

theorem replay_append_one (es : List Event) (e : Event) (i : Nat) :
    replay (es ++ [e]) i = (e.supplied? i).getD (replay es i) := by
  unfold replay
  rw [List.reverse_append, List.reverse_singleton, List.singleton_append,
      List.findSome?_cons]
  cases e.supplied? i <;> rfl

/-- **Every run replays its writes**, whatever was written before it. -/
theorem memory_after (sync : Synchronizer) (calls : List (Platform × Call)) (es : List Event)
    {r : Region} (h : r.memory = replay es) :
    (r.after sync calls).memory = replay (es ++ r.history sync calls) := by
  induction calls generalizing r es with
  | nil =>
      show r.memory = replay (es ++ [])
      rw [List.append_nil]
      exact h
  | cons first rest ih =>
      have hfirst : (r.event sync first.1 first.2).after.memory
          = replay (es ++ [r.event sync first.1 first.2]) := by
        funext i
        rw [memory_event, replay_append_one, h]
      have hrest := ih _ hfirst
      rw [List.append_assoc, List.singleton_append] at hrest
      exact hrest

theorem bytes_of_ne_lost {r : Region} (h : r.phase ≠ .lost) :
    r.bytes = .ok ((List.range r.size).map r.memory) := by
  unfold bytes read
  cases hp : r.phase with
  | writable => simp
  | executable => simp
  | lost => exact absurd hp h

/-- **A REGION HOLDS THE REPLAY OF ITS ACCEPTED WRITES**, after every run of
calls on a new region of any size that still has its memory.  A write is
accepted exactly where the region is writable and the sum of offset and length,
however large, is within the region; one that is out of range is told so with
the sum capped.  No other call changes a byte, and none does while the region is
executable. -/
theorem bytes_eq_replay (sync : Synchronizer) (size : Nat) (calls : List (Platform × Call))
    (hkept : ((fresh size).after sync calls).phase ≠ .lost) :
    let r := (fresh size).after sync calls
    let es := (fresh size).history sync calls
    r.length = size
      ∧ (∃ contents, r.bytes = .ok contents ∧ contents.length = size
          ∧ ∀ i, i < size → contents[i]? = some (replay es i))
      ∧ (∀ os offset bytes,
          ((r.call sync os (.write offset bytes)).1 = .ok () ↔
              r.phase = .writable ∧ offset + bytes.size ≤ size)
            ∧ (r.phase = .writable → size < offset + bytes.size →
                (r.call sync os (.write offset bytes)).1
                  = .error (.outOfBounds offset
                      (min (offset + bytes.size) (2 ^ 64 - 1)) size)))
      ∧ ∀ os c, (r.event sync os c).after.phase ≠ .lost →
          r.phase = .executable ∨ (r.event sync os c).written? = none →
          (r.event sync os c).after.bytes = r.bytes := by
  intro r es
  have hsize : r.size = size := (tracks_after sync size calls).size_eq
  have hmemory : r.memory = replay es := memory_after sync calls [] rfl
  refine ⟨(length_of_ne_lost hkept).trans hsize, ?_, ?_, ?_⟩
  · refine ⟨_, bytes_of_ne_lost hkept, by simp [hsize], ?_⟩
    intro i hi
    rw [List.getElem?_map, List.getElem?_range (hsize ▸ hi), hmemory]
    rfl
  · intro os offset bytes
    have hiff := fun r' => write_eq_ok_iff r r' offset bytes
    rw [hsize] at hiff
    constructor
    · cases hw : r.write offset bytes with
      | error fault =>
          simp only [call, hw, reduceCtorEq, false_iff]
          rintro ⟨hp, hfit⟩
          have hok := (hiff _).mpr ⟨hp, hfit, rfl⟩
          exact absurd (hw.symm.trans hok) (by simp)
      | ok written =>
          obtain ⟨hp, hfit, -⟩ := (hiff written).mp hw
          simp only [call, hw, hp, hfit, and_self]
    · intro hp hout
      have hw : r.write offset bytes
          = .error (.outOfBounds offset (capped (offset + bytes.size)) size) := by
        simp only [write, hp, hsize, if_neg (Nat.not_le.mpr hout)]
      simp only [call, hw]
      rfl
  · intro os c hstill hquiet
    have hnone : (r.event sync os c).written? = none :=
      hquiet.elim (written?_of_executable sync os c) id
    have hstep := event_step sync os r c
    rw [hnone] at hstep
    rw [bytes_of_ne_lost hstill, bytes_of_ne_lost hkept, hstep.memory_eq, hstep.size_eq]

/-- Overlapping writes in two writable phases, one that goes beyond every
address, and one that comes while the region is executable. -/
theorem bytes_eq_replay_overlap :
    let calls : List (Platform × Call) :=
      [(.standard, .write 1 #[7, 7, 7]), (.standard, .makeExecutable Profile.native),
        (.standard, .write 0 #[9]), (.standard, .makeWritable),
        (.standard, .write (2 ^ 64 - 1) #[8, 8]), (.standard, .write 2 #[5, 6])]
    let r := (fresh 4).after Profile.synchronize calls
    r.phase ≠ .lost ∧ r.bytes = .ok [0, 7, 5, 6]
      ∧ ∀ i, i < 4 →
          [0, 7, 5, 6][i]? = some (replay ((fresh 4).history Profile.synchronize calls) i) := by
  intro calls r
  have hkept : r.phase ≠ .lost := by decide
  obtain ⟨-, ⟨contents, hbytes, -, hcontents⟩, -⟩ :=
    bytes_eq_replay Profile.synchronize 4 calls hkept
  have hshown : r.bytes = .ok [0, 7, 5, 6] := rfl
  have heq : contents = [0, 7, 5, 6] := Except.ok.inj (hbytes.symm.trans hshown)
  exact ⟨hkept, hshown, heq ▸ hcontents⟩

end Region

end JitTarget
