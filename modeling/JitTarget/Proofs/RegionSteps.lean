/-
  JitTarget.Proofs.RegionSteps
  ────────────────────────────────
  **WHAT ONE CALL CAN DO TO A REGION.**

  Six calls, each with its own ways to fail, come to five changes:

      stay      — nothing happens, which is what most failures do
      write     — bytes are put within a writable region
      activate  — a writable region becomes executable
      reopen    — an executable region becomes writable
      lose      — the memory goes with a change of protection that was refused

  Every statement about runs of calls on a region goes through these five.
-/
import JitTarget.Code.History

namespace JitTarget

/-- Bytes outside what was put down stay as they were. -/
theorem Memory.overwrite_of_outside (m : Memory) (offset : Nat) (bytes : Array UInt8) (i : Nat)
    (h : i < offset ∨ offset + bytes.size ≤ i) : m.overwrite offset bytes i = m i := by
  unfold Memory.overwrite
  by_cases hi : offset ≤ i
  · have hend : bytes.size ≤ i - offset := by omega
    rw [if_pos hi, Array.getD_eq_getD_getElem?, Array.getElem?_eq_none hend,
        Option.getD_none]
  · rw [if_neg hi]

namespace Region

/-! ## §1. The functions, one law each. -/

/-- All bytes are there until the memory is lost. -/
theorem length_of_ne_lost {r : Region} (h : r.phase ≠ .lost) : r.length = r.size := by
  unfold length
  cases hp : r.phase with
  | writable => rfl
  | executable => rfl
  | lost => exact absurd hp h

/-- **A write succeeds** exactly on a writable region with room for it. -/
theorem write_eq_ok_iff (r r' : Region) (offset : Nat) (bytes : Array UInt8) :
    r.write offset bytes = .ok r' ↔
      r.phase = .writable ∧ offset + bytes.size ≤ r.size
        ∧ r' = { r with
            memory := r.memory.overwrite offset bytes
            dirty := some (Span.extend r.dirty ⟨offset, offset + bytes.size⟩) } := by
  unfold write
  cases hp : r.phase with
  | executable => simp
  | lost => simp
  | writable =>
      by_cases hfit : offset + bytes.size ≤ r.size
      · simp only [hfit, if_true, Except.ok.injEq, true_and]
        exact eq_comm
      · simp [hfit]

/-- Why a write does not succeed. -/
theorem write_error {r : Region} {offset : Nat} {bytes : Array UInt8} {fault : CodeFault}
    (h : r.write offset bytes = .error fault) :
    fault = .notWritable ∨ fault = .lostMapping
      ∨ ∃ start stop length, fault = .outOfBounds start stop length := by
  unfold write at h
  cases hp : r.phase with
  | executable =>
      simp only [hp, Except.error.injEq] at h
      exact Or.inl h.symm
  | lost =>
      simp only [hp, Except.error.injEq] at h
      exact Or.inr (Or.inl h.symm)
  | writable =>
      simp only [hp] at h
      split at h
      next => exact absurd h (by simp)
      next => exact Or.inr (Or.inr ⟨_, _, _, (Except.error.inj h).symm⟩)

/-- **The outcomes of ending the writable phase**: refused, executable already, lost to
a refused change of protection, or executable from now on. -/
theorem makeExecutableWith_cases (sync : Synchronizer) (os : Platform) (r : Region)
    (p : Profile) :
    (∃ fault, r.makeExecutableWith sync os p = (.error fault, r)
        ∧ (p.ensureNative = .error fault
          ∨ p.ensureNative = .ok ()
            ∧ (fault = .lostMapping ∨ r.synchronizeDirty sync p = .error fault)))
      ∨ (p.ensureNative = .ok () ∧ r.phase = .executable
          ∧ r.makeExecutableWith sync os p = (.ok (), r))
      ∨ (p.ensureNative = .ok () ∧ r.phase = .writable
          ∧ r.synchronizeDirty sync p = .ok ()
          ∧ ((∃ cause, os.protectRefusal = some cause
                ∧ r.makeExecutableWith sync os p
                  = (.error (.notProtected .executable cause), { r with phase := .lost }))
            ∨ r.makeExecutableWith sync os p
                = (.ok (), { r with phase := .executable, dirty := none }))) := by
  unfold makeExecutableWith
  cases hn : p.ensureNative with
  | error e => exact Or.inl ⟨e, rfl, Or.inl rfl⟩
  | ok u =>
      cases hp : r.phase with
      | executable => exact Or.inr (Or.inl ⟨rfl, rfl, rfl⟩)
      | lost => exact Or.inl ⟨.lostMapping, rfl, Or.inr ⟨rfl, Or.inl rfl⟩⟩
      | writable =>
          cases hs : r.synchronizeDirty sync p with
          | error e => exact Or.inl ⟨e, rfl, Or.inr ⟨rfl, Or.inr rfl⟩⟩
          | ok u =>
              refine Or.inr (Or.inr ⟨rfl, rfl, rfl, ?_⟩)
              cases os.protectRefusal with
              | some cause => exact Or.inl ⟨cause, rfl, rfl⟩
              | none => exact Or.inr rfl

/-- **The outcomes of ending the executable phase**: unchanged, lost to a refused change
of protection, or writable from now on. -/
theorem makeWritable_cases (os : Platform) (r : Region) :
    (r.makeWritable os).2 = r
      ∨ (r.phase = .executable
          ∧ ((∃ cause, os.protectRefusal = some cause
                ∧ r.makeWritable os
                  = (.error (.notProtected .writable cause), { r with phase := .lost }))
            ∨ r.makeWritable os = (.ok (), { r with phase := .writable }))) := by
  unfold makeWritable
  cases hp : r.phase with
  | writable => exact Or.inl rfl
  | lost => exact Or.inl rfl
  | executable =>
      refine Or.inr ⟨rfl, ?_⟩
      cases os.protectRefusal with
      | some cause => exact Or.inl ⟨cause, rfl, rfl⟩
      | none => exact Or.inr rfl

/-! ## §2. Steps. -/

/-- What a call can make of a region, with the span it writes, if it does. -/
inductive Step (r : Region) : Region → Option Span → Prop where
  | stay : Step r r none
  | write (offset : Nat) (bytes : Array UInt8)
      (hw : r.phase = .writable) (hfit : offset + bytes.size ≤ r.size) :
      Step r
        { r with
          memory := r.memory.overwrite offset bytes
          dirty := some (Span.extend r.dirty ⟨offset, offset + bytes.size⟩) }
        (some ⟨offset, offset + bytes.size⟩)
  | activate (hw : r.phase = .writable) :
      Step r { r with phase := .executable, dirty := none } none
  | reopen (hx : r.phase = .executable) : Step r { r with phase := .writable } none
  | lose (hl : r.phase ≠ .lost) : Step r { r with phase := .lost } none

/-- A call other than a write writes no span. -/
private theorem step_of_after {r r' : Region} {e : Event} (h : Step r r' none)
    (ha : e.after = r') (hw : e.written? = none) : Step r e.after e.written? := by
  rw [ha, hw]
  exact h

/-- **Every call is one of the five changes.** -/
theorem event_step (sync : Synchronizer) (os : Platform) (r : Region) (c : Call) :
    Step r (r.event sync os c).after (r.event sync os c).written? := by
  cases c with
  | write offset bytes =>
      cases hw : r.write offset bytes with
      | error fault =>
          have hcall : r.call sync os (.write offset bytes) = (.error fault, r) := by
            simp only [call, hw]
          exact step_of_after .stay (by simp only [event, hcall])
            (by simp only [Event.written?, event, hcall])
      | ok written =>
          obtain ⟨hp, hfit, rfl⟩ := (write_eq_ok_iff r written offset bytes).mp hw
          have hstep := Step.write (r := r) offset bytes hp hfit
          simpa only [event, Event.written?, call, hw] using hstep
  | read span => exact step_of_after .stay rfl rfl
  | synchronize p span => exact step_of_after .stay rfl rfl
  | entryAddress offset => exact step_of_after .stay rfl rfl
  | makeExecutable p =>
      rcases makeExecutableWith_cases sync os r p with
        ⟨fault, h, -⟩ | ⟨-, -, h⟩ | ⟨-, hp, -, ⟨cause, -, h⟩ | h⟩
      · exact step_of_after .stay (congrArg Prod.snd h) rfl
      · exact step_of_after .stay (congrArg Prod.snd h) rfl
      · exact step_of_after (.lose (by rw [hp]; decide)) (congrArg Prod.snd h) rfl
      · exact step_of_after (.activate hp) (congrArg Prod.snd h) rfl
  | makeWritable =>
      rcases makeWritable_cases os r with h | ⟨hp, ⟨cause, -, h⟩ | h⟩
      · exact step_of_after .stay h rfl
      · exact step_of_after (.lose (by rw [hp]; decide)) (congrArg Prod.snd h) rfl
      · exact step_of_after (.reopen hp) (congrArg Prod.snd h) rfl

/-- A region keeps its size. -/
theorem Step.size_eq {r r' : Region} {w : Option Span} (h : Step r r' w) :
    r'.size = r.size := by
  cases h <;> rfl

end Region

end JitTarget
