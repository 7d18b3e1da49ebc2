/-
  JitTarget.Number.Natural
  ────────────────────────────────
  **NATURAL NUMBERS, AND THOSE AN ADDRESS CAN BE.**

  Mantissas, bytes, offsets and sizes are natural numbers, and bounded by powers.
-/

namespace JitTarget

/-! ## §1. Powers and zero. -/

-- powers and zero are the built-in ones, whatever algebra is imported beside them
attribute [instance (2000), default_instance 20000] instPowNat
attribute [instance (2000)] Zero.ofOfNat0

/-! ## §2. Addresses. -/

/-- The greatest number an address or a size can be. -/
def addressMax : Nat := 2 ^ 64 - 1

/-- A number capped at the greatest address. -/
def capped (n : Nat) : Nat := min n addressMax

end JitTarget
