/-
  JitTarget.Text.Utf8
  ────────────────────────────────
  **BYTES SHOWN AS TEXT.**

  Bytes that are no well-formed UTF-8 still have to be shown: each longest
  piece that starts like a character but does not end as one is shown as the
  replacement character U+FFFD.
-/

namespace JitTarget.Text

/-- What the bytes read so far promise: how many bytes are owed, the bits so
far, and the bounds on the byte that comes next. -/
structure Pending where
  owed : Nat
  bits : Nat
  least : Nat
  greatest : Nat
  deriving Repr, DecidableEq

/-- What a first byte promises; one that starts no character promises nothing. -/
def Pending.ofLead? (b : Nat) : Option Pending :=
  if 0xC2 ≤ b ∧ b ≤ 0xDF then some ⟨1, b - 0xC0, 0x80, 0xBF⟩
  else if b = 0xE0 then some ⟨2, 0, 0xA0, 0xBF⟩
  else if b = 0xED then some ⟨2, 0xD, 0x80, 0x9F⟩
  else if 0xE1 ≤ b ∧ b ≤ 0xEF then some ⟨2, b - 0xE0, 0x80, 0xBF⟩
  else if b = 0xF0 then some ⟨3, 0, 0x90, 0xBF⟩
  else if 0xF1 ≤ b ∧ b ≤ 0xF3 then some ⟨3, b - 0xF0, 0x80, 0xBF⟩
  else if b = 0xF4 then some ⟨3, 4, 0x80, 0x8F⟩
  else none

/-- The character shown for a piece that is none. -/
def replacement : Char := '\uFFFD'

/-- Reads one byte between characters. -/
def lead (b : Nat) : List Char × Option Pending :=
  if b < 0x80 then ([Char.ofNat b], none)
  else
    match Pending.ofLead? b with
    | some p => ([], some p)
    | none => ([replacement], none)

/-- Reads one byte, with the characters it completes. -/
def advance (pending : Option Pending) (b : Nat) : List Char × Option Pending :=
  match pending with
  | none => lead b
  | some p =>
      if p.least ≤ b ∧ b ≤ p.greatest then
        let bits := p.bits * 64 + (b - 0x80)
        if p.owed ≤ 1 then ([Char.ofNat bits], none)
        else ([], some ⟨p.owed - 1, bits, 0x80, 0xBF⟩)
      else
        -- the piece ends here, and this byte is looked at afresh
        let (cs, next) := lead b
        (replacement :: cs, next)

/-- The characters of the bytes that are left. -/
def decodeFrom : Option Pending → List UInt8 → List Char
  | none, [] => []
  | some _, [] => [replacement]
  | pending, b :: bs =>
      let (cs, next) := advance pending b.toNat
      cs ++ decodeFrom next bs

/-- **Bytes shown as text.** -/
def ofBytes (bytes : List UInt8) : String :=
  String.ofList (decodeFrom none bytes)

end JitTarget.Text
