/-
  JitTarget.Config.Strict
  ────────────────────────────────
  **WHAT A CONFIGURATION FILE MAY SAY.**

  Two sections and one setting in each, and nothing else: a key that is misspelt is
  refused, never passed over.

      Strict     — what a document may say
      Says       — which configuration that is
      Describes  — both at once
-/
import JitTarget.Config.Basic
import JitTarget.Toml.Basic

namespace JitTarget.Config

open Toml

/-- What stands under a key, in a value that may be a table. -/
def under? (key : String) : Value → Option Value
  | .table entries => entries.lookup key
  | .atom _ | .array _ | .series _ => none

/-- A setting of a document, by its section and its key. -/
def setting? (document : Table) (sectionKey key : String) : Option Value :=
  (document.lookup sectionKey).bind (under? key)

/-- **The sections are tables, and the family is a string**, as far as they are
there. -/
structure Sectioned (document : Table) : Prop where
  target : ∀ v, document.lookup "target" = some v → ∃ entries, v = .table entries
  toolchain : ∀ v, document.lookup "toolchain" = some v → ∃ entries, v = .table entries
  family : ∀ v, setting? document "target" "family" = some v → ∃ name, v = .atom (.string name)

/-- A section has no other key than its own. -/
def OnlyKey (document : Table) (sectionKey key : String) : Prop :=
  ∀ entries, document.lookup sectionKey = some (.table entries) →
    ∀ k ∈ entries.map Prod.fst, k = key

/-- **What a configuration file may say**: no other sections, no other keys, and
values that mean something. -/
structure Strict (document : Table) : Prop where
  keys : ∀ k ∈ document.map Prod.fst, k = "target" ∨ k = "toolchain"
  targetKeys : OnlyKey document "target" "family"
  toolchainKeys : OnlyKey document "toolchain" "fastcall-available"
  family : ∀ v, setting? document "target" "family" = some v →
    ∃ name ∈ Family.names, v = .atom (.string name)
  fastcall : ∀ v, setting? document "toolchain" "fastcall-available" = some v →
    ∃ b, v = .atom (.boolean b)

/-- **A document says what a configuration holds**: the same values, and nothing where
they are left out. -/
structure Says (document : Table) (c : Config) : Prop where
  family : setting? document "target" "family" = c.family.map (fun f => .atom (.string f.name))
  fastcall : setting? document "toolchain" "fastcall-available"
    = c.fastcall.map (fun b => .atom (.boolean b))

/-- **A document is a configuration**: it has no other keys than a configuration has,
and says what the configuration holds. -/
structure Describes (document : Table) (c : Config) : Prop where
  keys : ∀ k ∈ document.map Prod.fst, k = "target" ∨ k = "toolchain"
  targetKeys : OnlyKey document "target" "family"
  toolchainKeys : OnlyKey document "toolchain" "fastcall-available"
  holds : Says document c

end JitTarget.Config
