import ContainerConstruction.Engine.Registry
import ContainerConstruction.Host.Kernel
import ContainerConstruction.Host.Observed
import ContainerConstruction.Operation.Namespaces
import ContainerConstruction.Server.HostMethods
import ContainerConstruction.Supervisor.Serving

/-!
# The runtime on a host

The built-in engines with their methods, as they work on a host: every phase of a container's life is
answered by the host, its worker or the contained process.
-/

namespace ContainerConstruction

/-- The runtime while it supervises a container. -/
structure Runtime where
  host : Host
  /-- The engine of the container, once it is known. -/
  engine : Option Engine
  process : Option Observed
  /-- What the contained process has written. -/
  output : List UInt8
  errors : List UInt8

namespace Runtime

/-- The runtime on a host, before anything has happened. -/
def ofHost (host : Host) : Runtime := ⟨host, none, none, [], []⟩

/-- The operations on the host. -/
def hostMethods : Methods Host := HostMethods.ofMachine (Host.kernel .worker) (Host.kernel .server)

/-- The kernel as a thread of the runtime meets it. -/
def kernel (actor : Actor) : Machine Kernel Runtime :=
  (Host.kernel actor).onPart (·.host) fun host runtime ↦ { runtime with host := host }

/-- The operations that the runtime offers. -/
def methods : Methods Runtime := HostMethods.ofMachine (kernel .worker) (kernel .server)

/-- The engines that the runtime knows. -/
def registry : Registry EngineKind (Methods Runtime) := Registry.builtin methods

def readText (runtime : Runtime) : ReadText := runtime.host.textReader

/-! ## Phases -/

/-- Looks an engine up and makes one. -/
def lookUp (name : String) (runtime : Runtime) : Except Failure Unit × Runtime :=
  match registry.lookup name with
  | .error failure => (.error failure, runtime)
  | .ok registration => (.ok (), { runtime with engine := some (Engine.fresh registration.factory) })

def configure (container : ContainerConfig) (runtime : Runtime) : Except Failure Unit × Runtime :=
  match runtime.engine with
  | none => (.error (Registry.notFound container.engineName), runtime)
  | some engine =>
    let (result, engine) := engine.init runtime.readText container
    (result, { runtime with engine := some engine })

/-- Gives the worker namespaces of its own. -/
def createNamespaces (request : NamespaceRequest) (host : Host) : Except Failure Unit × Host :=
  let (outcome, host) := Program.run (Host.kernel .worker) request.create.run host
  (Executor.settle outcome, host)

/-- The ids of the contained process before it takes on others. -/
def credentials (actor : Actor) (host : Host) : Credentials :=
  let identity := host.identityOf actor
  ⟨identity.user.real, identity.user.effective, identity.user.saved, identity.group.real,
    identity.group.effective, identity.group.saved, identity.mayChange⟩

/-- What a contained process does with what it reads from its control channel.  If it cannot start, it says
so and ends. -/
def contained (actor : Actor) (control : Engine.ControlRead) (engine : Engine) (host : Host) : Ended :=
  let world := World.ofHost host [] .endless
  let started := (engine.start control).bind fun start ↦
    Execution.runStart (host.accessor actor) (credentials actor host) true start world
  match started with
  | .ok ended => ended
  | .error failure =>
    ⟨.exited Supervisor.startFailureExitCode,
      world.write (.queue World.errorQueue) (Text.Utf8.ofText (Supervisor.startReport failure))⟩

/-- Lets the contained process go on, which it does to its end. -/
def release (runtime : Runtime) : Runtime :=
  match runtime.engine with
  | none => runtime
  | some engine =>
    let ended := contained .worker (.ok [Engine.goByte]) engine runtime.host
    let host := { ended.world.host with place := runtime.host.place, workerPlace := runtime.host.workerPlace }
    { runtime with
      host := host
      process := some (.finished ended)
      output := runtime.output ++ ended.world.queue World.outputQueue
      errors := runtime.errors ++ ended.world.queue World.errorQueue }

def containedPid : Nat := Execution.childPid

/-- Watches the contained process until it has ended. -/
def monitor (pid : Nat) (runtime : Runtime) : Outcome (Except Failure WaitStatus) × Runtime :=
  match runtime.process with
  | none => (.returned (.error (Monitor.waitFailure (toString pid) .noChild)), runtime)
  | some process =>
    let arrivals := [.pause .ended, .signal Signal.child]
    let (outcome, process) :=
      Program.run Observed.machine (Monitor.monitor Monitor.patience (toString pid) arrivals) process
    (outcome.map (·.1), { runtime with process := some process })

/-- Answers every phase that takes no server. -/
def phases : Machine Lifecycle Runtime where
  answer
    | .lookUp name, runtime => runtime.lookUp name
    | .configure container, runtime => runtime.configure container
    | .createNamespaces request, runtime =>
      let (result, host) := createNamespaces request runtime.host
      (result, { runtime with host := host })
    | .fork, runtime => (.ok containedPid, runtime)
    | .release, runtime => (.ok (), runtime.release)
    | .monitor pid, runtime => runtime.monitor pid
    | .startServer, runtime => (.ok (), runtime)
    | .step _, runtime => (.ok .unit, runtime)
    | .stopServer, runtime => (.ok (), runtime)
    | .installSignals, runtime => (.ok (), runtime)
    | .openControl, runtime => (.ok (), runtime)
    | .afterFork _, runtime => (.returned (.ok ()), runtime)
    | .kill _, runtime => ((), runtime)
    | .collect _, runtime => ((), runtime)
    | .cleanUp .., runtime => (.ok (), runtime)

/-- What a supervision gives. -/
def settle (outcome : Outcome (Except Failure WaitStatus)) : Except Failure WaitStatus :=
  match outcome with
  | .returned result => result
  | .panicked panic => .error (Server.taskFailure "supervision" panic)

/-- Runs a container to its end. -/
def run (config : RunConfig) (runtime : Runtime) : Except Failure WaitStatus × Runtime :=
  let (outcome, serving) :=
    Program.run (phases.serving methods) (Supervisor.run config).run (.idle runtime)
  (settle outcome, serving.state)

end Runtime

end ContainerConstruction
