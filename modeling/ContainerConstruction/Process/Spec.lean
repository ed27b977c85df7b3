import ContainerConstruction.Engine.Build
import ContainerConstruction.Failure
import ContainerConstruction.Process.Credentials
import ContainerConstruction.Text.Path

/-!
# Processes to run

A `ProcessSpec` says which program is run, with which arguments and environment, where and as whom.
Ids that the process has anyway are not asked for.  `ProcessSpec.launch?` settles all this before the
kernel is asked, and says what cannot even be asked.
-/

namespace ContainerConstruction

/-- A process to run inside the container. -/
structure ProcessSpec where
  /-- The program and its arguments. -/
  args : List String
  /-- Environment entries `KEY=VALUE`; there are no other variables. -/
  env : List String
  cwd : Option String
  uid : Option UInt32
  gid : Option UInt32
  deriving DecidableEq, Repr

/-- A program as the kernel is asked to run it. -/
structure Launch where
  program : String
  arguments : List String
  /-- The variables, sorted by name. -/
  environment : List (String × String)
  directory : Option String
  uid : Option UInt32
  gid : Option UInt32
  deriving DecidableEq, Repr

/-! ## Environments -/

namespace Environment

/-- Sets a variable in a list sorted by name. -/
def insert (name value : String) : List (String × String) → List (String × String)
  | [] => [(name, value)]
  | (other, kept) :: rest =>
    if name < other then (name, value) :: (other, kept) :: rest
    else if name = other then (name, value) :: rest
    else (other, kept) :: insert name value rest

/-- The variables that a list of bindings leaves, sorted by name: a later binding replaces an earlier
one. -/
def ofBindings (bindings : List (String × String)) : List (String × String) :=
  bindings.foldl (fun environment (name, value) ↦ insert name value environment) []

def value? (name : String) (environment : List (String × String)) : Option String :=
  (environment.find? (·.1 = name)).map (·.2)

end Environment

/-! ## Launches -/

namespace Launch

/-- Whether any text of a launch cannot be handed to the kernel. -/
def hasNul (launch : Launch) : Bool :=
  Path.hasNul launch.program || launch.arguments.any Path.hasNul ||
    launch.environment.any (fun (name, value) ↦ Path.hasNul name || Path.hasNul value) ||
    (launch.directory.map Path.hasNul).getD false

end Launch

namespace ProcessSpec

def execFailure (program : String) (cause : IoCause) : Failure :=
  .process s!"exec {program} failed: {cause.message}"

/-- An id to ask for: none, if the process has it as its real one. -/
def wanted (id : Option UInt32) (real : UInt32) : Option UInt32 := id.filter (· ≠ real)

/-- What the kernel is asked for by a process with the given real ids. -/
def launch? (credentials : Credentials) (spec : ProcessSpec) : Except Failure Launch :=
  match spec.args with
  | [] => .error (.config "process has no arguments")
  | program :: arguments =>
    let launch : Launch :=
      ⟨program, arguments, Environment.ofBindings (spec.env.filterMap splitEntry), spec.cwd,
        wanted spec.uid credentials.realUid, wanted spec.gid credentials.realGid⟩
    if launch.hasNul then .error (execFailure program .nulInData) else .ok launch

/-- The ids that the program of a process starts with, or why it is refused the ones it asks for. -/
def startedAs (credentials : Credentials) (spec : ProcessSpec) : Except IdRefusal Credentials :=
  (credentials.assume (wanted spec.uid credentials.realUid) (wanted spec.gid credentials.realGid)).map
    Credentials.execute

end ProcessSpec

end ContainerConstruction
