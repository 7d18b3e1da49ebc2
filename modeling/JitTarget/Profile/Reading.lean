/-
  JitTarget.Profile.Reading
  ────────────────────────────────
  **PROFILES READ OUT OF THEIR FIELDS.**

  A profile that was written can be told from what stands under its keys: the family
  by its name, and the facts if all of them are there.  Both formats come to the same
  scalars:

      ofFields?  — the profile that scalars under keys spell
      ofJson?    — the profile a JSON object spells
      ofToml?    — the profile a TOML table spells
-/
import JitTarget.Json.Basic
import JitTarget.Profile.Text
import JitTarget.Toml.Basic

namespace JitTarget

/-! ## §1. Scalars in either format. -/

namespace Scalar

/-- A scalar as a JSON value. -/
def toJson : Scalar → Json
  | text s => .string s
  | number n => .int n.toNat
  | flag b => .bool b

/-- A scalar as a TOML value. -/
def toToml : Scalar → Toml.Atom
  | text s => .string s
  | number n => .integer n.toNat
  | flag b => .boolean b

/-- The number of 32 bits that an integer is. -/
def ofInt? (n : Int) : Option Scalar :=
  if 0 ≤ n ∧ n < 2 ^ 32 then some (.number (.ofNat n.toNat)) else none

/-- The scalar a JSON value is. -/
def ofJson? : Json → Option Scalar
  | .string s => some (.text s)
  | .int n => ofInt? n
  | .bool b => some (.flag b)
  | .null | .float _ | .array _ | .object _ => none

/-- The scalar a TOML value is. -/
def ofToml? : Toml.Value → Option Scalar
  | .atom (.string s) => some (.text s)
  | .atom (.integer n) => ofInt? n
  | .atom (.boolean b) => some (.flag b)
  | .atom (.float _) | .atom (.datetime _) | .array _ | .series _ | .table _ => none

/-- A scalar that is a number. -/
def number? : Scalar → Option UInt32
  | number n => some n
  | text _ | flag _ => none

/-- A scalar that is a flag. -/
def flag? : Scalar → Option Bool
  | flag b => some b
  | text _ | number _ => none

/-- A scalar that names a value of a finite type. -/
def named? {α : Type} [Named α] : Scalar → Option α
  | text s => Named.ofName? s
  | number _ | flag _ => none

end Scalar

/-! ## §2. Profiles. -/

/-- The facts that scalars under keys spell, if they spell all of them. -/
def Facts.ofFields? (get : String → Option Scalar) : Option Facts := do
  return {
    wordWidthBytes := ← get "word-width-bytes" >>= Scalar.number?
    wordShift := ← get "word-shift" >>= Scalar.number?
    floatShift := ← get "float-shift" >>= Scalar.number?
    byteOrder := ← get "endianness" >>= Scalar.named?
    callingConvention := ← get "calling-convention" >>= Scalar.named?
    indirectCallRequired := ← get "indirect-call-required" >>= Scalar.flag?
    unalignedAccessAllowed := ← get "unaligned-access-allowed" >>= Scalar.flag?
    cacheModel := ← get "instruction-cache" >>= Scalar.named?
    vectorFp := ← get "vector-fp" >>= Scalar.named? }

namespace Profile

/-- **The profile that scalars under keys spell.** -/
def ofFields? (get : String → Option Scalar) : Option Profile := do
  let family ← get "family" >>= Scalar.named?
  return ⟨family, Facts.ofFields? get⟩

/-- The profile a JSON object spells. -/
def ofJson? (v : Json) : Option Profile :=
  ofFields? (fun key => v.field? key >>= Scalar.ofJson?)

/-- The profile a TOML table spells. -/
def ofToml? (t : Toml.Table) : Option Profile :=
  ofFields? (fun key => t.lookup key >>= Scalar.ofToml?)

end Profile

end JitTarget
