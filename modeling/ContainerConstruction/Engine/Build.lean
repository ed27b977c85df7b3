import ContainerConstruction.Engine.Config
import ContainerConstruction.Process.Status
import ContainerConstruction.Text.Blank

/-!
# Image builds

Which sections of a build are run, and the environment their scripts see.  The environment starts from
nothing: a search path, a home directory, the entries that are marked for the scripts by a prefix, and
two variables of the runtime itself.
-/

namespace ContainerConstruction

/-- An environment entry cut at its first `=`, if it has one. -/
def splitEntry (entry : String) : Option (String × String) :=
  match entry.toList.span (· ≠ '=') with
  | (_, []) => none
  | (key, _ :: value) => some (String.ofList key, String.ofList value)

def afterPrefix (start text : String) : Option String :=
  if start.toList.isPrefixOf text.toList then some (String.ofList (text.toList.drop start.length))
  else none

namespace BuildConfig

/-! ## Sections -/

/-- Whether a list of sections selects one of them: the first `none`, `all` or own name decides. -/
def selects (name : String) : List String → Bool
  | [] => false
  | entry :: rest =>
    if entry = "none" then false
    else if entry = "all" ∨ entry = name then true
    else selects name rest

def runsSection (config : BuildConfig) (name : String) : Bool := selects name config.sections

def nonBlank (script : Option String) : Option String :=
  script.filter fun text ↦ !Text.isAllBlank text

/-- The sections to run with their scripts, in order. -/
def scripts (config : BuildConfig) : List (String × String) :=
  let post := if config.runsSection "post" then nonBlank config.post else none
  let test := if config.runsSection "test" && !config.noTest then nonBlank config.test else none
  post.toList.map ("post", ·) ++ test.toList.map ("test", ·)

/-- The exit code of a build in which a script failed. -/
def failureExitCode : Nat := 255

/-- The failure to run a script at all. -/
def startFailure (name : String) (cause : IoCause) : Failure :=
  .process s!"cannot run %{name}: {cause.message}"

/-- What the process of a script means for its build: it could not be started, or has ended. -/
def scriptResult (name : String) : Except IoCause ExitStatus → Except Failure Unit
  | .error cause => .error (startFailure name cause)
  | .ok status =>
    if status.isSuccess then .ok () else .error (.process s!"%{name} exited with {status.message}")

/-- Runs scripts in order up to the first failure, which is reported, and gives the exit code. -/
def runInOrder {m : Type → Type} [Monad m] (runScript : (name script : String) → m (Except Failure Unit))
    (report : Failure → m Unit) : List (String × String) → m Nat
  | [] => return 0
  | (name, script) :: rest => do
    match ← runScript name script with
    | .ok _ => runInOrder runScript report rest
    | .error failure =>
      report failure
      return failureExitCode

def runScripts {m : Type → Type} [Monad m] (config : BuildConfig)
    (runScript : (name script : String) → m (Except Failure Unit)) (report : Failure → m Unit) : m Nat :=
  runInOrder runScript report config.scripts

/-! ## Environment -/

def searchPath : String := "/usr/local/sbin:/usr/local/bin:/usr/sbin:/usr/bin:/sbin:/bin"

def home : String := "/root"

/-- The mark of variables that are meant for the scripts. -/
def environmentPrefix : String := "STOCKADEENV_"

/-- The variables of the runtime that the scripts see. -/
def passedVariables : List String := ["STOCKADE_ROOTFS", "STOCKADE_ENVIRONMENT"]

/-- The binding that an entry contributes. -/
def binding (entry : String) : Option (String × String) :=
  match splitEntry entry with
  | none => none
  | some (key, value) =>
    match afterPrefix environmentPrefix key with
    | some name => if name.isEmpty then none else some (name, value)
    | none => if passedVariables.contains key then some (key, value) else none

/-- The bindings of build scripts in order; a later one of a name replaces an earlier one. -/
def environment (source : List String) : List (String × String) :=
  [("PATH", searchPath), ("HOME", home)] ++ source.filterMap binding

end BuildConfig

end ContainerConstruction
