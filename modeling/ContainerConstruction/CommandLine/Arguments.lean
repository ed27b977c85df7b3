import ContainerConstruction.Config

/-!
# Command line arguments

The three commands with their options.  An option is given with its value behind it or behind an equals
sign, and once at most; the two general options may stand before the command or behind it, where they
count more.
-/

namespace ContainerConstruction.CommandLine

inductive LogFormat where
  | text
  | json
  deriving DecidableEq, Repr

inductive Command where
  /-- To list the engines. -/
  | engines
  /-- To serve the operations of an engine on a socket. -/
  | serve (socket : Option String) (engine : String)
  /-- To run a container. -/
  | run (config : String)
  deriving DecidableEq, Repr

/-- A command with the general options. -/
structure Request where
  command : Command
  configFile : String
  logFormat : LogFormat
  deriving DecidableEq, Repr

/-- What arguments stand for. -/
inductive Parsed where
  | request (request : Request)
  | version
  | help
  /-- Nothing the program knows. -/
  | misuse
  deriving DecidableEq, Repr

/-! ## Options -/

inductive OptionName where
  | configFile
  | logFormat
  | socket
  | engine
  | config
  deriving DecidableEq, Repr

namespace OptionName

/-- The options by the way they are written. -/
def names : List (String × OptionName) :=
  [("--config-file", .configFile), ("--log-format", .logFormat), ("--socket", .socket),
    ("--engine", .engine), ("--config", .config)]

def general : List OptionName := [.configFile, .logFormat]

def ofCommand : String → Option (List OptionName)
  | "engines" => some general
  | "serve" => some (general ++ [.socket, .engine])
  | "run" => some (general ++ [.config])
  | _ => none

/-- Whether a value may be given to an option. -/
def admits (value : String) : OptionName → Bool
  | .logFormat => value = "text" || value = "json"
  | .engine => true
  | _ => !value.isEmpty

end OptionName

/-- The values of options. -/
abbrev Values : Type := List (OptionName × String)

/-- What arguments begin with. -/
inductive Step where
  /-- An option with its value, and what stands behind. -/
  | option (name : OptionName) (value : String) (rest : List String)
  /-- A word that is no option. -/
  | word (text : String) (rest : List String)
  | version
  | help
  | misuse
  | finished
  deriving DecidableEq, Repr

/-- Whether an argument cannot be the value of the option before it. -/
def looksLikeOption (argument : String) : Bool :=
  argument.toList.head? = some '-' && argument ≠ "-"

/-- The option that an argument names, if it is among those allowed, with a value behind an equals
sign. -/
def optionOf? (allowed : List OptionName) (argument : String) : Option (OptionName × Option String) :=
  let (written, value) := argument.toList.span (· ≠ '=')
  match OptionName.names.lookup (String.ofList written) with
  | none => none
  | some name =>
    if allowed.contains name then
      some (name, match value with
        | [] => none
        | _ :: value => some (String.ofList value))
    else none

/-- Takes the first argument, or the first two. -/
def step (allowed : List OptionName) (hasVersion : Bool) : List String → Step
  | [] => .finished
  | argument :: rest =>
    if argument = "--help" ∨ argument = "-h" then .help
    else if hasVersion && (argument = "--version" || argument = "-V") then .version
    else if !looksLikeOption argument then .word argument rest
    else
      match optionOf? allowed argument, rest with
      | none, _ => .misuse
      | some (name, some value), _ => if name.admits value then .option name value rest else .misuse
      | some (_, none), [] => .misuse
      | some (name, none), value :: rest =>
        if looksLikeOption value || !name.admits value then .misuse else .option name value rest

theorem step_rest_length {allowed : List OptionName} {hasVersion : Bool} {arguments rest : List String}
    {name : OptionName} {value : String} (h : step allowed hasVersion arguments = .option name value rest) :
    rest.length < arguments.length := by
  cases arguments with
  | nil => simp [step] at h
  | cons argument others =>
    simp only [step] at h
    repeat' split at h
    all_goals cases h
    all_goals simp only [List.length_cons]; omega

/-! ## Arguments -/

/-- Reads the options of a command. -/
def commandOptions (allowed : List OptionName) (values : Values) (arguments : List String) :
    Parsed ⊕ Values :=
  match _h : step allowed false arguments with
  | .finished => .inr values
  | .help => .inl .help
  | .version | .misuse | .word .. => .inl .misuse
  | .option name value rest =>
    if (values.lookup name).isSome then .inl .misuse
    else commandOptions allowed (values ++ [(name, value)]) rest
termination_by arguments.length
decreasing_by exact step_rest_length _h

def commandOf (name : String) (values : Values) : Option Command :=
  match name with
  | "engines" => some .engines
  | "serve" => some (.serve (values.lookup .socket) ((values.lookup .engine).getD "standard"))
  | _ => (values.lookup .config).map .run

def request (name : String) (before behind : Values) : Parsed :=
  let general (option : OptionName) : Option String := (behind.lookup option).or (before.lookup option)
  match commandOf name behind with
  | none => .misuse
  | some command =>
    .request ⟨command, (general .configFile).getD RuntimeConfig.defaultPath,
      if general .logFormat = some "json" then .json else .text⟩

/-- Reads arguments, the first of which are general options. -/
def parseFrom (values : Values) (arguments : List String) : Parsed :=
  match _h : step OptionName.general true arguments with
  | .finished | .misuse => .misuse
  | .help => .help
  | .version => .version
  | .option name value rest =>
    if (values.lookup name).isSome then .misuse else parseFrom (values ++ [(name, value)]) rest
  | .word name rest =>
    if name = "help" then .help
    else
      match OptionName.ofCommand name with
      | none => .misuse
      | some allowed =>
        match commandOptions allowed [] rest with
        | .inl parsed => parsed
        | .inr behind => request name values behind
termination_by arguments.length
decreasing_by exact step_rest_length _h

def parse (arguments : List String) : Parsed := parseFrom [] arguments

end ContainerConstruction.CommandLine
