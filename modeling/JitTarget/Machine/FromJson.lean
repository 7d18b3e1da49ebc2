/-
  JitTarget.Machine.FromJson
  ────────────────────────────────
  **FACTS ABOUT MACHINES AS JSON.**

  Every choice among named values is written as its name.  A toolchain is a
  record of one field, read from an object or from an array.
-/
import JitTarget.Json.Codec
import JitTarget.Machine.WordWidth
import JitTarget.Machine.ByteOrder
import JitTarget.Machine.Caches
import JitTarget.Machine.Calls

namespace JitTarget

open Json Schema

/-! ## §1. Choices. -/

instance : Codec Family := ⟨ofChoice, toChoice⟩
instance : Codec WordWidth := ⟨ofChoice, toChoice⟩
instance : Codec CallingConvention := ⟨ofChoice, toChoice⟩
instance : Codec ByteOrder := ⟨ofChoice, toChoice⟩
instance : Codec CacheModel := ⟨ofChoice, toChoice⟩
instance : Codec VectorFp := ⟨ofChoice, toChoice⟩

/-! ## §2. Toolchains. -/

/-- A toolchain is written as an object. -/
def Toolchain.toJson (t : Toolchain) : Json :=
  .object [(Toolchain.fastcallKey, .bool t.fastcallAvailable)]

/-- Reads a toolchain. Its field is required, and an object may hold other keys
as well. -/
def Toolchain.ofJson : Json → Except Flaw Toolchain
  | .object fields =>
      match fields.lookup Toolchain.fastcallKey with
      | some v => (within (.field Toolchain.fastcallKey) (toFlag v)).map Toolchain.mk
      | none => refuse (.missingField Toolchain.fastcallKey)
  | .array items => do
      let some flag ← element toFlag 0 items
        | refuse (.missingElement 0 "struct Toolchain with 1 element")
      atMost 1 items
      return ⟨flag⟩
  | v => wrongKind v "struct Toolchain"

instance : Codec Toolchain := ⟨Toolchain.toJson, Toolchain.ofJson⟩

/-! ## §3. Call targets. -/

/-- A descriptor is written as an object, in the order of its words. -/
def FunctionDescriptor.toJson (d : FunctionDescriptor) : Json :=
  .object [("entry", .int d.entry.toNat), ("toc", .int d.toc.toNat), ("env", .int d.env.toNat)]

/-- A call target is written as an object whose key tells its kind. -/
def CallTarget.toJson : CallTarget → Json
  | direct entry => .object [("direct", .int entry.toNat)]
  | descriptor d => .object [("descriptor", d.toJson)]

end JitTarget
