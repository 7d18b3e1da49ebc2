/-
  JitTarget.Profile.Text
  ────────────────────────────────
  **PROFILES AS TEXT.**

  A profile is written from one list of keys and values, `fields`: the family
  first, then the facts in their documented order.

      toToml  — one `key = value` line for each field
      toJson  — the fields as one object, indented by two blanks
      dump    — the whole record with its tags, for diagnostics
-/
import JitTarget.Profile.Basic

namespace JitTarget

/-! ## §1. Fields. -/

/-- A value a profile field can have. -/
inductive Scalar where
  | text (s : String)
  | number (n : UInt32)
  | flag (b : Bool)
  deriving Repr, DecidableEq

/-- A flag as both formats spell it. -/
def Scalar.flagText : Bool → String
  | true => "true"
  | false => "false"

/-- A value as both formats spell it. The texts a profile holds are canonical
names, in which no character has to be escaped. -/
def Scalar.render : Scalar → String
  | text s => "\"" ++ s ++ "\""
  | number n => toString n.toNat
  | flag b => flagText b

/-- The facts under their keys, in the documented order. -/
def Facts.fields (f : Facts) : List (String × Scalar) :=
  [("word-width-bytes", .number f.wordWidthBytes),
   ("word-shift", .number f.wordShift),
   ("float-shift", .number f.floatShift),
   ("endianness", .text f.byteOrder.name),
   ("calling-convention", .text f.callingConvention.name),
   ("indirect-call-required", .flag f.indirectCallRequired),
   ("unaligned-access-allowed", .flag f.unalignedAccessAllowed),
   ("instruction-cache", .text f.cacheModel.name),
   ("vector-fp", .text f.vectorFp.name)]

namespace Profile

/-- The family and the facts; a profile without facts has the family alone. -/
def fields (p : Profile) : List (String × Scalar) :=
  ("family", .text p.family.name) ::
    match p.facts? with
    | some f => f.fields
    | none => []

/-! ## §2. The two formats. -/

/-- The profile as TOML: a line for each field. -/
def toToml (p : Profile) : String :=
  String.join (p.fields.map (fun kv => kv.1 ++ " = " ++ kv.2.render ++ "\n"))

/-- The profile as JSON: an object with a line for each field. -/
def toJson (p : Profile) : String :=
  "\x7b\n"
    ++ String.intercalate ",\n"
        (p.fields.map (fun kv => "  \"" ++ kv.1 ++ "\": " ++ kv.2.render))
    ++ "\n\x7d"

end Profile

/-! ## §3. The diagnostic dump. -/

/-- The facts with their tags. -/
def Facts.dump (f : Facts) : String :=
  "TargetFacts \x7b word_width_bytes: " ++ toString f.wordWidthBytes
    ++ ", word_shift: " ++ toString f.wordShift
    ++ ", float_shift: " ++ toString f.floatShift
    ++ ", endianness: " ++ f.byteOrder.tag
    ++ ", calling_convention: " ++ f.callingConvention.tag
    ++ ", indirect_call_required: " ++ Scalar.flagText f.indirectCallRequired
    ++ ", unaligned_access_allowed: " ++ Scalar.flagText f.unalignedAccessAllowed
    ++ ", instruction_cache: " ++ f.cacheModel.tag
    ++ ", vector_fp: " ++ f.vectorFp.tag ++ " \x7d"

/-- The whole profile with its tags. -/
def Profile.dump (p : Profile) : String :=
  "TargetProfile \x7b family: " ++ p.family.tag ++ ", facts: "
    ++ (match p.facts? with
        | some f => "Some(" ++ f.dump ++ ")"
        | none => "None")
    ++ " \x7d"

end JitTarget
