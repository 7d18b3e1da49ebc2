/-
  JitTarget.Profile.Consistency
  ────────────────────────────────
  **WHAT TIES THE FACTS OF A PROFILE TO ITS FAMILY.**

  Six rules, each with the issue that reports its breach.  A profile without
  facts has nothing to break.
-/
import JitTarget.Profile.Basic

namespace JitTarget

/-! ## §1. Issues. -/

/-- A rule a profile breaks. -/
inductive ConsistencyIssue where
  /-- Words have four or eight bytes. -/
  | wordWidth (bytes : UInt32)
  /-- The word width is two to the word shift. -/
  | wordShift (bytes shift : UInt32)
  /-- Doubles have eight bytes. -/
  | floatShift (shift : UInt32)
  /-- Exactly the PowerPC families are big-endian. -/
  | byteOrder (family : Family) (order : ByteOrder)
  /-- Exactly 64-bit PowerPC calls through descriptors. -/
  | descriptorCalls (family : Family) (required : Bool)
  /-- Exactly the x86 families have a unified instruction cache. -/
  | cacheModel (family : Family) (model : CacheModel)
  deriving Repr, DecidableEq

/-- The text of an issue. -/
def ConsistencyIssue.message : ConsistencyIssue → String
  | wordWidth bytes => "word width " ++ toString bytes ++ " is not 4 or 8"
  | wordShift bytes shift =>
      "word width " ++ toString bytes ++ " does not equal 1 << word shift " ++ toString shift
  | floatShift shift =>
      "float shift " ++ toString shift ++ " is not " ++ toString JitTarget.floatShift
  | byteOrder f order => f.name ++ " cannot be " ++ order.display
  | descriptorCalls f required =>
      f.name ++ " cannot " ++ (if required then "" else "not ") ++ "require descriptor calls"
  | cacheModel f model =>
      f.name ++ " cannot have a " ++ model.tag ++ " instruction cache"

/-! ## §2. The check. -/

/-- The rules the facts break, in the order of the rules. -/
def Facts.issues (f : Facts) (family : Family) : List ConsistencyIssue :=
  (if f.wordWidthBytes = 4 ∨ f.wordWidthBytes = 8 then []
    else [.wordWidth f.wordWidthBytes])
  ++ (if f.wordWidthBytes = 1 <<< f.wordShift then []
    else [.wordShift f.wordWidthBytes f.wordShift])
  ++ (if f.floatShift = JitTarget.floatShift then []
    else [.floatShift f.floatShift])
  ++ (if (f.byteOrder == .big) = family.isPpc then []
    else [.byteOrder family f.byteOrder])
  ++ (if f.indirectCallRequired = (family == .ppc64) then []
    else [.descriptorCalls family f.indirectCallRequired])
  ++ (if (f.cacheModel == .unified) = family.isX86 then []
    else [.cacheModel family f.cacheModel])

/-- The rules a profile breaks; the list is empty when it is consistent. -/
def Profile.issues (p : Profile) : List ConsistencyIssue :=
  match p.facts? with
  | some f => f.issues p.family
  | none => []

/-- Whether a profile breaks no rule. -/
def Profile.isConsistent (p : Profile) : Bool := p.issues.isEmpty

end JitTarget
