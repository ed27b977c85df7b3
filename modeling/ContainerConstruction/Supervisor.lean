import ContainerConstruction.Engine.Build
import ContainerConstruction.Process.Status
import ContainerConstruction.Server.Construction

/-!
# Supervising a container

A container goes through phases: its engine is looked up and takes over the configuration, namespaces
are created, a server carries out the plan, and a process is forked, released, monitored and at last
cleaned up after.  `Supervisor.run` is the order of these phases and what is done when one of them fails;
what a phase does is up to the machine that answers its call.

While a process is launched, its engine may also panic: when it is shown the process, and while it watches it.
-/

namespace ContainerConstruction

/-- A phase of a container. -/
inductive Phase where
  | lookUp (engine : String)
  | configure (container : ContainerConfig)
  | createNamespaces (request : NamespaceRequest)
  | startServer
  | step (request : Request)
  /-- Closes the connection to the server, and waits for its result. -/
  | stopServer
  | installSignals
  | openControl
  /-- Gives the id of the new process. -/
  | fork
  | afterFork (pid : Nat)
  /-- Lets the new process go on. -/
  | release
  | kill (pid : Nat)
  /-- Waits for a killed process to end. -/
  | collect (pid : Nat)
  | monitor (pid : Nat)
  | cleanUp (fatal : Option Failure) (status : Option WaitStatus)

namespace Phase

/-- What a phase gives. -/
abbrev Answer : Phase → Type
  | lookUp _ => Except Failure Unit
  | configure _ => Except Failure Unit
  | createNamespaces _ => Except Failure Unit
  | startServer => Except Failure Unit
  | step _ => Except Failure Reply
  | stopServer => Except Failure Unit
  | installSignals => Except Failure Unit
  | openControl => Except Failure Unit
  | fork => Except Failure Nat
  | afterFork _ => Outcome (Except Failure Unit)
  | release => Except Failure Unit
  | kill _ => Unit
  | collect _ => Unit
  | monitor _ => Outcome (Except Failure WaitStatus)
  | cleanUp .. => Except Failure Unit

/-- Whether the supervisor hands a phase to the worker, whose thread is the one that enters the namespaces.
Where a step is carried out is for its method to say. -/
def isOnWorker : Phase → Bool
  | createNamespaces _ | fork => true
  | _ => false

end Phase

/-- The phases as an interface. -/
abbrev Lifecycle : Interface := ⟨Phase, Phase.Answer⟩

abbrev Supervision (α : Type) : Type := ExceptT Failure (Program Lifecycle) α

namespace Supervisor

def enter (phase : Phase) : Supervision phase.Answer :=
  ExceptT.lift (Program.ask (I := Lifecycle) phase)

/-- The result of a phase, as a result of the supervision. -/
def settle {α : Type} (result : Except Failure α) : Supervision α :=
  match result with
  | .ok value => pure value
  | .error failure => throw failure

/-- Goes on with what an engine gives, unless it panics. -/
def unlessPanicked {α : Type} (outcome : Outcome α) : Supervision α :=
  ExceptT.lift (Program.ofOutcome outcome)

/-- Cleans up after a failure, which outweighs a failure of the cleanup. -/
def abandon {α : Type} (failure : Failure) : Supervision α := do
  let _ ← enter (.cleanUp (some failure) none)
  throw failure

/-- Cleans up if a result is a failure. -/
def orAbandon {α : Type} (result : Except Failure α) : Supervision α :=
  match result with
  | .ok value => pure value
  | .error failure => abandon failure

/-! ## Construction -/

/-- Carries out a plan with a server.  A failed step outweighs a failure of the server. -/
def construct (plan : ConstructionPlan) : Supervision Unit := do
  settle (← enter .startServer)
  let constructed ← ExceptT.lift
    (ConstructionPlan.replay (fun request ↦ Program.ask (I := Lifecycle) (.step request)) plan.steps)
  let served ← enter .stopServer
  orAbandon (match constructed with
    | .ok _ => served
    | .error failure => .error failure)

/-! ## Launch -/

/-- Lets the new process go on, once the engine has seen it. -/
def releaseProcess (pid : Nat) : Supervision (Except Failure Unit) := do
  match ← unlessPanicked (← enter (.afterFork pid)) with
  | .error failure => return .error failure
  | .ok _ => enter .release

/-- Forks the process of a container and supervises it to its end. -/
def launch : Supervision WaitStatus := do
  settle (← enter .installSignals)
  settle (← enter .openControl)
  let pid ← settle (← enter .fork)
  match ← releaseProcess pid with
  | .error failure =>
    enter (.kill pid)
    enter (.collect pid)
    abandon failure
  | .ok _ =>
    let status ← orAbandon (← unlessPanicked (← enter (.monitor pid)))
    settle (← enter (.cleanUp none (some status)))
    return status

/-- The failure of a launch that has panicked. -/
def launchFailure (panic : Panic) : Failure := Server.taskFailure "launch" panic

/-- Launches on a thread of its own, where a panic is caught. -/
def launchApart : Supervision WaitStatus := do
  match ← ExceptT.lift (Program.attempt launch.run) with
  | .returned result => settle result
  | .panicked panic => throw (launchFailure panic)

/-! ## Run -/

/-- Runs a container from its configuration to its end. -/
def run (config : RunConfig) : Supervision WaitStatus := do
  settle (← enter (.lookUp config.container.engineName))
  settle (← enter (.configure config.container))
  orAbandon (← enter (.createNamespaces config.container.namespaces))
  construct config.plan
  launchApart

/-- What a forked process that cannot start leaves behind as its exit code. -/
def startFailureExitCode : Nat := BuildConfig.failureExitCode

def report (message : String) : String := s!"stockade-runtime: {message}\n"

def startReport (failure : Failure) : String :=
  report s!"container process failed to start: {failure.message}"

end Supervisor

end ContainerConstruction
