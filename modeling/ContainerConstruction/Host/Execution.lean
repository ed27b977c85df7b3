import ContainerConstruction.Engine.Basic
import ContainerConstruction.Shell.Evaluation
import ContainerConstruction.Supervisor

/-!
# Execution

Starting a program on a host: taking on ids, entering a directory and finding the program, in this
order; and running it to its end, with what it wrote.
-/

namespace ContainerConstruction

/-- A program that is ready to run. -/
structure Readied where
  image : ProgramImage
  task : Task
  deriving Repr

/-- What a program that has ended leaves behind. -/
structure Ended where
  ending : Ending
  world : World

namespace Ending

def exitStatus? : Ending → Option ExitStatus
  | .exited code => some (.exited code)
  | .killed signal | .struck signal => some (.signaled signal false)
  | .waiting | .endless => none

end Ending

namespace Execution

/-- How many steps programs may take together. -/
def fuel : Nat := 100000

/-- The id that programs are run under. -/
def childPid : Nat := 1000

/-- The error of a refused id. -/
def refusalErrno : IdRefusal → Errno
  | .notPermitted => .notPermitted
  | .invalid => .invalid

/-- Becomes the program of a launch. -/
def become (who : Host.Accessor) (credentials : Credentials) (launch : Launch) (host : Host) :
    Except Errno Readied := do
  let credentials ← match credentials.assume launch.uid launch.gid with
    | .ok credentials => pure credentials
    | .error refusal => throw (refusalErrno refusal)
  let identity : FsIdentity := ⟨credentials.effectiveUid, credentials.effectiveGid⟩
  let place ← match launch.directory with
    | none => pure who.place
    | some path =>
      let directory ← host.enterable ⟨identity, who.place⟩ path
      pure { who.place with directory := directory }
  let who : Host.Accessor := ⟨identity, place⟩
  let image ← ProgramImage.ofProgram who host (Environment.value? "PATH" launch.environment)
    launch.program launch.arguments
  return ⟨image, who, Task.usualStreams, launch.environment, childPid⟩

def run (program : Readied) (isObserved : Bool) (world : World) : Ended :=
  let (ending, world) := Shell.runImage fuel program.image program.task isObserved world
  ⟨ending, world⟩

/-- Starts the program of a specification in the place of the present one. -/
def ofSpec (who : Host.Accessor) (credentials : Credentials) (spec : ProcessSpec) (host : Host) :
    Except Failure Readied := do
  let launch ← spec.launch? credentials
  match become who credentials launch host with
  | .ok program => return program
  | .error errno => throw (ProcessSpec.execFailure launch.program (.errno errno))

/-! ## Build scripts -/

/-- The variables that the scripts of a build see. -/
def buildVariables (config : BuildConfig) : List (String × String) :=
  Environment.ofBindings (BuildConfig.environment config.env)

/-- The process that runs a script of a build. -/
def scriptLaunch (config : BuildConfig) (script : String) : Launch :=
  ⟨ProgramImage.shellPath, ["-e", "-c", script], buildVariables config, none, none, none⟩

section

variable {m : Type → Type} [Monad m] (start : Launch → m (Except IoCause ExitStatus))

/-- Runs the script of a section: a process is started for it, and its end is waited for. -/
def runScript (config : BuildConfig) (name script : String) : m (Except Failure Unit) := do
  return BuildConfig.scriptResult name (← start (scriptLaunch config script))

/-- Runs the selected scripts of a build, and gives its exit code. -/
def runSections (report : Failure → m Unit) (config : BuildConfig) : m Nat :=
  config.runScripts (runScript start config) report

end

/-- What waits for processes on a host.  A process that does not come to an end stops it, in the way in which
the process goes on. -/
abbrev Waiting (α : Type) : Type := ExceptT Ending (StateM World) α

/-- Starts a process with the ids and the directory of the present one, and waits for its end. -/
def startAndWait (who : Host.Accessor) (launch : Launch) : Waiting (Except IoCause ExitStatus) :=
  fun world ↦
    if launch.hasNul then (.ok (.error .nulInData), world)
    else
      match ProgramImage.ofFile who world.host launch.program launch.program launch.arguments with
      | .error errno => (.ok (.error (.errno errno)), world)
      | .ok image =>
        let ended := run ⟨image, who, Task.usualStreams, launch.environment, childPid⟩ false world
        match ended.ending.exitStatus? with
        | some status => (.ok (.ok status), ended.world)
        | none => (.error ended.ending, ended.world)

def report (message : String) (world : World) : World :=
  world.write (.queue World.errorQueue) (Text.Utf8.ofText (Supervisor.report message))

/-- Writes a line about a failure. -/
def reportFailure (failure : Failure) : Waiting Unit := fun world ↦ (.ok (), report failure.message world)

/-- Runs the selected scripts of a build on a host, and gives its exit code.  It gives none if a script does
not come to an end. -/
def runBuild (who : Host.Accessor) (config : BuildConfig) : Waiting Nat :=
  runSections (startAndWait who) reportFailure config

/-! ## Contained processes -/

/-- What a contained process comes to, once it has been released. -/
def runStart (who : Host.Accessor) (credentials : Credentials) (isObserved : Bool) (start : Start)
    (world : World) : Except Failure Ended :=
  match start with
  | .build config =>
    match runBuild who config world with
    | (.ok code, world) => .ok ⟨.exited code, world⟩
    | (.error ending, world) => .ok ⟨ending, world⟩
  | .run spec => (ofSpec who credentials spec world.host).map fun program ↦ run program isObserved world

end Execution

end ContainerConstruction
