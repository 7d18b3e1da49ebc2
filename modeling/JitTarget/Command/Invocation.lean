/-
  JitTarget.Command.Invocation
  ────────────────────────────────
  **WHAT THE COMMAND LINE ASKS FOR.**

  The first argument names a command; the others are its options and paths, in
  any order.  An option's value stands behind an equals sign or is the next
  argument, which then must not look like an option.  Behind two dashes all
  arguments are paths.  Arguments are taken one by one, and the first that asks
  for help or is misused settles the matter.
-/

namespace JitTarget.Command

/-! ## §1. Invocations. -/

/-- What a well-formed command line asks for. -/
inductive Invocation where
  /-- Lists the families. -/
  | families
  /-- Shows a profile. -/
  | show (family config format : Option String)
  /-- Checks a configuration file. -/
  | check (path : String)
  /-- Writes a configuration file. -/
  | init (path family : Option String)
  /-- Looks this machine over. -/
  | doctor
  deriving Repr, DecidableEq

/-- A command line as it is understood. -/
inductive Request where
  | run (invocation : Invocation)
  | version
  | help
  /-- The arguments make no sense. -/
  | misuse
  deriving Repr, DecidableEq

/-! ## §2. Options and paths. -/

/-- An option of a command. -/
inductive Switch where
  | family
  | config
  | format
  deriving Repr, DecidableEq

/-- The name of an option, behind its two dashes. -/
def Switch.name : Switch → String
  | family => "family"
  | config => "config"
  | format => "format"

/-- Whether an option can have a value; a path cannot be empty. -/
def Switch.allows (s : Switch) (value : String) : Bool :=
  match s with
  | config => value != ""
  | family | format => true

/-- What a command takes: its options, and at most so many paths. -/
structure Shape where
  switches : List Switch
  paths : Nat
  deriving Repr, DecidableEq

/-- What a command was given. -/
structure Given where
  values : List (Switch × String) := []
  paths : List String := []
  deriving Repr, DecidableEq

/-- The value of an option. -/
def Given.value? (g : Given) (s : Switch) : Option String := g.values.lookup s

/-- What settles a command line early. -/
inductive Halt where
  | help
  | misuse
  deriving Repr, DecidableEq

/-- One argument. -/
inductive Argument where
  /-- Two dashes. -/
  | separator
  /-- A long option, perhaps with a value. -/
  | long (name : String) (value : Option String)
  /-- A dash and letters, of which the first counts. -/
  | short (letter : Char)
  /-- Anything else. -/
  | plain (text : String)
  deriving Repr, DecidableEq

/-- What an argument looks like. A single dash is no option. -/
def Argument.ofText (text : String) : Argument :=
  match text.toList with
  | '-' :: '-' :: [] => .separator
  | '-' :: '-' :: r =>
      match r.span (· != '=') with
      | (name, _ :: value) => .long (String.ofList name) (some (String.ofList value))
      | (name, []) => .long (String.ofList name) none
  | '-' :: c :: _ => .short c
  | _ => .plain text

/-- Takes one option value: the command must know the option, and it counts once. -/
def Given.takeValue (shape : Shape) (g : Given) (s : Switch) (value : String) :
    Except Halt Given :=
  if s ∈ shape.switches ∧ (g.value? s).isNone ∧ s.allows value then
    .ok { g with values := g.values ++ [(s, value)] }
  else .error .misuse

/-- Takes one path, which must not be empty. -/
def Given.takePath (shape : Shape) (g : Given) (path : String) : Except Halt Given :=
  if g.paths.length < shape.paths ∧ path ≠ "" then .ok { g with paths := g.paths ++ [path] }
  else .error .misuse

/-- The option with a name. -/
def Switch.ofName? (name : String) : Option Switch :=
  [family, config, format].find? (fun s => s.name == name)

/-- Takes the arguments of a command. -/
def Given.takeAll (shape : Shape) : Given → List String → Except Halt Given
  | g, [] => .ok g
  | g, text :: rest =>
      match Argument.ofText text with
      | .separator => rest.foldlM (Given.takePath shape) g
      | .short c => .error (if c = 'h' then .help else .misuse)
      | .plain text => do takeAll shape (← g.takePath shape text) rest
      | .long name value =>
          if name = "help" then .error (if value.isNone then .help else .misuse)
          else
            match Switch.ofName? name, value, rest with
            | none, _, _ => .error .misuse
            -- behind an equals sign anything may stand
            | some s, some v, rest => do takeAll shape (← g.takeValue shape s v) rest
            | some _, none, [] => .error .misuse
            -- the next argument, unless it looks like an option
            | some s, none, v :: rest =>
                match Argument.ofText v with
                | .plain v => do takeAll shape (← g.takeValue shape s v) rest
                | _ => .error .misuse

/-! ## §3. Commands. -/

/-- The names of the commands. -/
def commandNames : List String := ["families", "show", "check", "init", "doctor", "help"]

/-- The request that a command's arguments make. -/
def requestOf (shape : Shape) (arguments : List String)
    (invocation : Given → Option Invocation) : Request :=
  match Given.takeAll shape {} arguments with
  | .error .help => .help
  | .error .misuse => .misuse
  | .ok g =>
      match invocation g with
      | some i => .run i
      | none => .misuse

/-- **What a command line asks for.** -/
def Request.ofArguments : List String → Request
  | [] => .misuse
  | "families" :: rest => requestOf ⟨[], 0⟩ rest (fun _ => some .families)
  | "show" :: rest =>
      requestOf ⟨[.family, .config, .format], 0⟩ rest
        (fun g => some (.show (g.value? .family) (g.value? .config) (g.value? .format)))
  | "check" :: rest => requestOf ⟨[], 1⟩ rest (fun g => g.paths.head?.map .check)
  | "init" :: rest =>
      requestOf ⟨[.family], 1⟩ rest (fun g => some (.init g.paths.head? (g.value? .family)))
  | "doctor" :: rest => requestOf ⟨[], 0⟩ rest (fun _ => some .doctor)
  | "help" :: [] => .help
  | "help" :: name :: [] => if name ∈ commandNames then .help else .misuse
  | text :: _ =>
      match Argument.ofText text with
      | .long "help" none | .short 'h' => .help
      | .long "version" none | .short 'V' => .version
      | _ => .misuse

end JitTarget.Command
