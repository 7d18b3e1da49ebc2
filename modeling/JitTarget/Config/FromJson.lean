/-
  JitTarget.Config.FromJson
  ────────────────────────────────
  **CONFIGURATIONS AS JSON.**

  A configuration is written as an object with both sections, in which settings
  left open do not appear.  It is read strictly: a key that is not known is
  refused at either level, whatever stands beside it.
-/
import JitTarget.Config.Basic
import JitTarget.Machine.FromJson

namespace JitTarget.Config

open Schema

/-! ## §1. Writing. -/

/-- A section with one setting, which may be open. -/
def sectionToJson {α : Type} [Json.Codec α] (key : String) : Option α → Json
  | some a => .object [(key, Json.Codec.toJson a)]
  | none => .object []

/-- A configuration as JSON. -/
def toJson (c : Config) : Json :=
  .object [(targetKey, sectionToJson familyKey c.family),
    (toolchainKey, sectionToJson fastcallKey c.fastcall)]

/-! ## §2. Reading. -/

/-- Reads a section with one setting; null leaves the setting open. -/
def sectionOfJson {α : Type} [Json.Codec α] (name key : String) :
    Json → Except Flaw (Option α)
  | .object fields => do
      let setting ← oneField key (Json.Codec.ofJson (α := Option α)) fields
      return setting.join
  | .array items => do
      let setting ← element (Json.Codec.ofJson (α := Option α)) 0 items
      atMost 1 items
      return setting.join
  | v => Json.wrongKind v name

/-- Reads the section about the target. -/
def targetOfJson (v : Json) : Except Flaw (Option Family) :=
  sectionOfJson targetName familyKey v

/-- Reads the section about the toolchain. -/
def toolchainOfJson (v : Json) : Except Flaw (Option Bool) :=
  sectionOfJson toolchainName fastcallKey v

/-- **Reads a configuration** from JSON. -/
def ofJson : Json → Except Flaw Config
  | .object fields => do
      let (family, fastcall) ←
        twoFields targetKey toolchainKey targetOfJson toolchainOfJson fields
      return { family := family.join, fastcall := fastcall.join }
  | .array items => do
      let family ← element targetOfJson 0 items
      let fastcall ← element toolchainOfJson 1 items
      atMost 2 items
      return { family := family.join, fastcall := fastcall.join }
  | v => Json.wrongKind v recordName

instance : Json.Codec Config := ⟨toJson, ofJson⟩

end JitTarget.Config
