/-
  JitTarget.Config.Basic
  ────────────────────────────────
  **CONFIGURATIONS.**

  What a configuration file can say: the family to aim at, and whether the
  toolchain offers fastcall.  Both may be left open.  On top of the signals of
  a machine a configuration selects one profile.  In the text of a file both section
  headers are always there, and a setting left open has no line.

      resolve   — the profile a configuration selects
      template  — an explained configuration that sets at most the family
-/
import JitTarget.Profile.Basic

namespace JitTarget

/-! ## §1. Configurations. -/

/-- A configuration; what it leaves open is none. -/
structure Config where
  /-- The family to aim at, whatever is detected. -/
  family : Option Family := none
  /-- Whether 32-bit x86 code may use fastcall. -/
  fastcall : Option Bool := none
  deriving Repr, DecidableEq, Inhabited

namespace Config

/-- The name a configuration file goes by. -/
def fileName : String := "jitcfg.toml"

/-- The toolchain, with the standard answer where nothing is said. -/
def toolchain (c : Config) : Toolchain :=
  ⟨c.fastcall.getD Toolchain.standard.fastcallAvailable⟩

/-- The signals with the configured family in force. -/
def apply (c : Config) (base : Signals) : Signals :=
  { base with explicit := c.family <|> base.explicit }

/-- The profile the configuration selects on top of `base`. -/
def resolve (c : Config) (base : Signals) : Profile :=
  Profile.detect (c.apply base) c.toolchain

/-! ## §2. Keys and names. -/

/-- The key of the section about the target. -/
def targetKey : String := "target"

/-- The key of the section about the toolchain. -/
def toolchainKey : String := "toolchain"

/-- The key of the family within its section. -/
def familyKey : String := "family"

/-- The key of the fastcall setting within its section. -/
def fastcallKey : String := Toolchain.fastcallKey

/-- What messages call a configuration and its two sections. -/
def recordName : String := "struct TargetConfig"

/-- What messages call the section about the target. -/
def targetName : String := "struct TargetSection"

/-- What messages call the section about the toolchain. -/
def toolchainName : String := "struct ToolchainSection"

/-! ## §3. Configuration files, written. -/

/-- The line of the family, if one is set. -/
def familyLine : Option Family → String
  | some f => familyKey ++ " = \"" ++ f.name ++ "\"\n"
  | none => ""

/-- The line of the fastcall setting, if it is set. -/
def fastcallLine : Option Bool → String
  | some true => fastcallKey ++ " = true\n"
  | some false => fastcallKey ++ " = false\n"
  | none => ""

/-- A configuration as the text of a file. -/
def toToml (c : Config) : String :=
  "[" ++ targetKey ++ "]\n" ++ familyLine c.family
    ++ "\n[" ++ toolchainKey ++ "]\n" ++ fastcallLine c.fastcall

/-- The comment a template opens with. -/
def templateHeader : String :=
  "# JIT target configuration.\n"
    ++ "# [target] family: one of " ++ String.intercalate ", " Family.names ++ "\n"
    ++ "# [toolchain] fastcall-available: x86-32 only\n\n"

/-- **A template**: an explained configuration that sets at most the family. -/
def template (family : Option Family) : String :=
  templateHeader ++ toToml { family := family }

end Config

end JitTarget
