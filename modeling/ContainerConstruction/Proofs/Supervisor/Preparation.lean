import ContainerConstruction.Host.Runtime
import ContainerConstruction.Proofs.Program.Run
import ContainerConstruction.Proofs.Server.Configuration

/-!
# Runs that are refused for their configuration

A run whose engine cannot be prepared ends with the failure of the preparation, and no phase after it is
entered.  `PreparationDefect` lists all that can be wrong.  A run that asks for a user namespace ends as well
before the kernel is asked for anything: the worker refuses the request for namespaces by itself.

`Machine.Hosts` is all that is assumed of the machine that answers the phases: its engines come from a
registry, and its worker creates namespaces on a kernel.  The runtime on a host is such a machine.
-/

namespace ContainerConstruction

variable {σ μ : Type}

/-! ## What an engine is refused for -/

/-- What is wrong with the payload of a container for an engine of a kind. -/
def ContainerConfig.payloadError? (container : ContainerConfig) : EngineKind → Option Json.ReadError
  | .standard => errorOf? (StandardConfig.reader.ofJson container.engineConfig)
  | .oci => errorOf? (OciConfig.reader.ofJson container.engineConfig)
  | .imageBuild => errorOf? (BuildConfig.reader.ofJson container.engineConfig)

/-- The place of a spec in its bundle. -/
def OciConfig.specPath (config : OciConfig) : String := Path.join config.bundle OciSpec.fileName

/-- What keeps an engine of a kind from taking over the configuration of a container. -/
inductive EngineDefect (readText : ReadText) (container : ContainerConfig) : EngineKind → Failure → Prop where
  | payload {kind : EngineKind} {error : Json.ReadError} (h : container.payloadError? kind = some error) :
      EngineDefect readText container kind
        (.config s!"{container.engineName} engine payload: {error.message}")
  | arguments {config : StandardConfig}
      (hread : StandardConfig.reader.ofJson container.engineConfig = .ok config) (h : config.args = []) :
      EngineDefect readText container .standard (.config "standard engine needs at least one argument")
  | specFile {config : OciConfig} {cause : IoCause}
      (hread : OciConfig.reader.ofJson container.engineConfig = .ok config) (hspec : config.spec = none)
      (h : readText config.specPath = .error cause) :
      EngineDefect readText container .oci (.io config.specPath cause)
  | specText {config : OciConfig} {text : String} {error : Json.ReadError}
      (hread : OciConfig.reader.ofJson container.engineConfig = .ok config) (hspec : config.spec = none)
      (hfile : readText config.specPath = .ok text) (h : OciSpec.reader.ofText text = .error error) :
      EngineDefect readText container .oci (.config s!"{config.specPath}: {error.message}")
  | process {config : OciConfig} (hbundle : Engine.ociConfig readText container = .ok config)
      (h : config.spec.bind (·.process) = none) :
      EngineDefect readText container .oci (.config "OCI spec has no process section")
  | processArguments {config : OciConfig} {process : OciProcess}
      (hbundle : Engine.ociConfig readText container = .ok config)
      (hprocess : config.spec.bind (·.process) = some process) (h : process.args = []) :
      EngineDefect readText container .oci (.config "OCI process.args must not be empty")

namespace Engine

variable {readText : ReadText} {container : ContainerConfig} {failure : Failure}

theorem ofPayload_of_error {α : Type} {read : Json.Reader α} {error : Json.ReadError}
    (h : read.ofJson container.engineConfig = .error error) :
    container.ofPayload read = .error (.config s!"{container.engineName} engine payload: {error.message}") := by
  rw [ContainerConfig.ofPayload, h]

theorem ofPayload_of_ok {α : Type} {read : Json.Reader α} {config : α}
    (h : read.ofJson container.engineConfig = .ok config) : container.ofPayload read = .ok config := by
  rw [ContainerConfig.ofPayload, h]

/-- A bundle without a spec of its own is as good as the file in it. -/
theorem ociConfig_of_noSpec {config : OciConfig}
    (hread : OciConfig.reader.ofJson container.engineConfig = .ok config) (hspec : config.spec = none) :
    ociConfig readText container =
      (OciSpec.ofBundle readText config.bundle).map fun spec ↦ { config with spec := some spec } := by
  simp only [ociConfig, ofPayload_of_ok hread, hspec]

/-- An engine is refused for each of its defects. -/
theorem init_of_defect {kind : EngineKind} (h : EngineDefect readText container kind failure) :
    ((fresh kind).init readText container).1 = .error failure := by
  have hbundle {failure : Failure} (h : ociConfig readText container = .error failure) :
      ((fresh .oci).init readText container).1 = .error failure := by simp only [fresh, init, h]
  cases h with
  | payload h =>
    cases kind with
    | standard => simp only [fresh, init, initStandard, ofPayload_of_error (errorOf?_eq_some.mp h)]
    | oci => simp only [fresh, init, ociConfig, ofPayload_of_error (errorOf?_eq_some.mp h)]
    | imageBuild => simp only [fresh, init, ofPayload_of_error (errorOf?_eq_some.mp h)]
  | arguments hread h => simp [fresh, init, initStandard, ofPayload_of_ok hread, h]
  | specFile hread hspec h =>
    apply hbundle
    rw [ociConfig_of_noSpec hread hspec, OciSpec.ofBundle, ← OciConfig.specPath, h]
    rfl
  | specText hread hspec hfile h =>
    apply hbundle
    rw [ociConfig_of_noSpec hread hspec, OciSpec.ofBundle, ← OciConfig.specPath, hfile]
    simp only [OciSpec.ofText, h]
    rfl
  | process hread h => simp [fresh, init, hread, ociDefect, OciConfig.process, h]
  | processArguments hread hprocess h => simp [fresh, init, hread, ociDefect, OciConfig.process, hprocess, h]

/-- Only an unreadable payload or a missing program keeps the first engine back. -/
theorem defect_of_initStandard (h : initStandard container = .error failure) :
    EngineDefect readText container .standard failure := by
  cases hread : StandardConfig.reader.ofJson container.engineConfig with
  | error error =>
    rw [initStandard, ofPayload_of_error hread] at h
    cases h
    exact .payload (errorOf?_eq_some.mpr hread)
  | ok config =>
    simp only [initStandard, ofPayload_of_ok hread] at h
    split at h
    · cases h
      exact .arguments hread (List.isEmpty_iff.mp ‹_›)
    · cases h

theorem defect_of_ociConfig (h : ociConfig readText container = .error failure) :
    EngineDefect readText container .oci failure := by
  cases hread : OciConfig.reader.ofJson container.engineConfig with
  | error error =>
    rw [ociConfig, ofPayload_of_error hread] at h
    cases h
    exact .payload (errorOf?_eq_some.mpr hread)
  | ok config =>
    cases hspec : config.spec with
    | some spec =>
      simp only [ociConfig, ofPayload_of_ok hread, hspec] at h
      cases h
    | none =>
      rw [ociConfig_of_noSpec hread hspec, OciSpec.ofBundle, ← OciConfig.specPath] at h
      cases hfile : readText config.specPath with
      | error cause =>
        rw [hfile] at h
        cases h
        exact .specFile hread hspec hfile
      | ok text =>
        rw [hfile] at h
        cases htext : OciSpec.reader.ofText text with
        | error error =>
          simp only [OciSpec.ofText, htext] at h
          cases h
          exact .specText hread hspec hfile htext
        | ok spec =>
          simp only [OciSpec.ofText, htext] at h
          cases h

theorem defect_of_ociDefect {config : OciConfig} (hread : ociConfig readText container = .ok config)
    (h : ociDefect config = .error failure) : EngineDefect readText container .oci failure := by
  cases hprocess : config.spec.bind (·.process) with
  | none =>
    simp only [ociDefect, OciConfig.process, hprocess] at h
    cases h
    exact .process hread hprocess
  | some process =>
    simp only [ociDefect, OciConfig.process, hprocess] at h
    split at h
    · cases h
      exact .processArguments hread hprocess (List.isEmpty_iff.mp ‹_›)
    · cases h

/-- An engine is refused for nothing else. -/
theorem defect_of_init {kind : EngineKind} (h : ((fresh kind).init readText container).1 = .error failure) :
    EngineDefect readText container kind failure := by
  cases kind with
  | standard =>
    cases hinit : initStandard container with
    | ok engine => simp [fresh, init, hinit] at h
    | error other =>
      simp only [fresh, init, hinit] at h
      cases h
      exact defect_of_initStandard hinit
  | oci =>
    cases hread : ociConfig readText container with
    | ok config =>
      simp only [fresh, init, hread] at h
      exact defect_of_ociDefect hread h
    | error other =>
      simp only [fresh, init, hread] at h
      cases h
      exact defect_of_ociConfig hread
  | imageBuild =>
    cases hread : BuildConfig.reader.ofJson container.engineConfig with
    | ok config => simp [fresh, init, ofPayload_of_ok hread] at h
    | error error =>
      simp only [fresh, init, ofPayload_of_error hread] at h
      cases h
      exact .payload (errorOf?_eq_some.mpr hread)

/-- The engine of a container, with the configuration that it has taken over. -/
def prepare (registry : Registry EngineKind μ) (readText : ReadText) (container : ContainerConfig) :
    Except Failure Engine :=
  match registry.lookup container.engineName with
  | .error failure => .error failure
  | .ok registration =>
    match (fresh registration.factory).init readText container with
    | (.ok _, engine) => .ok engine
    | (.error failure, _) => .error failure

end Engine

/-- What keeps the engine of a container from being prepared. -/
inductive PreparationDefect (registry : Registry EngineKind μ) (readText : ReadText)
    (container : ContainerConfig) : Failure → Prop where
  | unknown (h : registry.find? container.engineName = none) :
      PreparationDefect registry readText container (.notFound "engine" container.engineName)
  | engine {registration : Registration EngineKind μ} {failure : Failure}
      (hfound : registry.find? container.engineName = some registration)
      (h : EngineDefect readText container registration.factory failure) :
      PreparationDefect registry readText container failure

/-- An engine is not prepared exactly for one of the defects. -/
theorem Engine.prepare_eq_error_iff {registry : Registry EngineKind μ} {readText : ReadText}
    {container : ContainerConfig} {failure : Failure} :
    prepare registry readText container = .error failure ↔
      PreparationDefect registry readText container failure := by
  cases hfound : registry.find? container.engineName with
  | none =>
    simp only [prepare, Registry.lookup, hfound]
    constructor
    · intro h
      cases h
      exact .unknown hfound
    · intro h
      cases h with
      | unknown => rfl
      | engine hother => cases hfound.symm.trans hother
  | some registration =>
    have hprepare : prepare registry readText container = .error failure ↔
        ((fresh registration.factory).init readText container).1 = .error failure := by
      simp only [prepare, Registry.lookup, hfound]
      rcases (fresh registration.factory).init readText container with ⟨_ | _, engine⟩
      · rw [Except.error.injEq, Except.error.injEq]
      · exact ⟨nofun, nofun⟩
    rw [hprepare]
    constructor
    · exact fun h ↦ .engine hfound (defect_of_init h)
    · intro h
      cases h with
      | unknown hother => cases hfound.symm.trans hother
      | engine hother h =>
        cases hfound.symm.trans hother
        exact init_of_defect h

/-! ## Machines -/

/-- Prepares the engine of a container. -/
def Machine.prepare (machine : Machine Lifecycle σ) (container : ContainerConfig) (state : σ) :
    Except Failure Unit × σ :=
  match machine.answer (.lookUp container.engineName) state with
  | (.error failure, after) => (.error failure, after)
  | (.ok _, found) => machine.answer (.configure container) found

/-- A machine that prepares the engines of a registry from files, and whose worker creates namespaces on a
kernel. -/
structure Machine.Hosts (machine : Machine Lifecycle σ) (registry : Registry EngineKind μ)
    (readText : σ → ReadText) (kernel : Machine Kernel σ) : Prop where
  prepares : ∀ (container : ContainerConfig) (state : σ),
    (machine.prepare container state).1 =
      (Engine.prepare registry (readText state) container).map fun _ ↦ ()
  creates : ∀ (request : NamespaceRequest) (state : σ),
    machine.answer (.createNamespaces request) state =
      (Executor.settle (Program.run kernel request.create.run state).1,
        (Program.run kernel request.create.run state).2)

namespace Supervisor

open Program (Runs)

variable {machine : Machine Lifecycle σ} {config : RunConfig} {state after : σ} {failure : Failure}

/-- Going on after a phase. -/
theorem runs_enter_bind {α : Type} {phase : Phase} {answer : phase.Answer} {next : phase.Answer → Supervision α}
    {entered : σ} {events : List (Event Lifecycle)} {outcome : Outcome (Except Failure α)}
    (hanswer : machine.answer phase state = (answer, entered))
    (h : Runs machine (next answer).run entered events outcome after) :
    Runs machine (enter phase >>= next).run state (⟨phase, answer⟩ :: events) outcome after := by
  have henter : Runs machine (enter phase).run state [⟨phase, answer⟩] (.returned (.ok answer)) entered := by
    constructor
    · change ((.returned (.ok (machine.answer phase state).1), (machine.answer phase state).2) :
        Outcome (Except Failure phase.Answer) × σ) = _
      rw [hanswer]
    · change [(⟨phase, (machine.answer phase state).1⟩ : Event Lifecycle)] = _
      rw [hanswer]
  exact henter.bind_ok h

/-- A run whose engine cannot be prepared enters no phase but the preparation. -/
theorem runs_of_unprepared (h : machine.prepare config.container state = (.error failure, after)) :
    ∃ events, Runs machine (run config).run state events (.returned (.error failure)) after ∧
      events.map (·.call) <+: [.lookUp config.container.engineName, .configure config.container] := by
  rcases hfound : machine.answer (.lookUp config.container.engineName) state with ⟨lost | _, found⟩
  · rw [Machine.prepare, hfound] at h
    cases h
    exact ⟨_, runs_enter_bind hfound ⟨rfl, rfl⟩, [_], rfl⟩
  · rw [Machine.prepare, hfound] at h
    exact ⟨_, runs_enter_bind hfound (runs_enter_bind h ⟨rfl, rfl⟩), [], rfl⟩

/-- A run that is refused its namespaces ends with that, after the engine has cleaned up. -/
theorem runs_of_refused {prepared refused : σ}
    (hprepare : machine.prepare config.container state = (.ok (), prepared))
    (hrefuse : machine.answer (.createNamespaces config.container.namespaces) prepared =
      (.error failure, refused)) :
    ∃ events, Runs machine (run config).run state events (.returned (.error failure))
        (machine.answer (.cleanUp (some failure) none) refused).2 ∧
      events.map (·.call) = [.lookUp config.container.engineName, .configure config.container,
        .createNamespaces config.container.namespaces, .cleanUp (some failure) none] := by
  rcases hfound : machine.answer (.lookUp config.container.engineName) state with ⟨lost | _, found⟩
  · rw [Machine.prepare, hfound] at hprepare
    cases hprepare
  · rw [Machine.prepare, hfound] at hprepare
    exact ⟨_, runs_enter_bind hfound (runs_enter_bind hprepare (runs_enter_bind hrefuse
      (runs_enter_bind rfl ⟨rfl, rfl⟩))), rfl⟩

end Supervisor

/-! ## User namespaces -/

/-- The failure of a request for a user namespace. -/
def NamespaceRequest.userDenial : Failure :=
  .config "user namespaces cannot be created by a multi-threaded supervisor"

/-- A request for a user namespace is refused before the kernel is asked for anything. -/
theorem NamespaceRequest.create_of_user {request : NamespaceRequest} (h : request.user = true) :
    request.create = throw userDenial := by
  rw [create, cloneFlags, if_pos h]
  rfl

/-- A user namespace is denied before anything is created. -/
theorem Machine.Hosts.creates_of_user {machine : Machine Lifecycle σ} {registry : Registry EngineKind μ}
    {readText : σ → ReadText} {kernel : Machine Kernel σ} (h : machine.Hosts registry readText kernel)
    {request : NamespaceRequest} (huser : request.user = true) (state : σ) :
    machine.answer (.createNamespaces request) state = (.error NamespaceRequest.userDenial, state) := by
  rw [h.creates, NamespaceRequest.create_of_user huser]
  rfl

/-! ## The laws of a refused run -/

open Program (Runs)

/-- What becomes of a run that asks for what cannot be. -/
structure RefusedRunLaws (machine : Machine Lifecycle σ) (registry : Registry EngineKind μ)
    (readText : σ → ReadText) : Prop where
  /-- All that can be wrong with an engine is found when it is prepared. -/
  defects : ∀ (container : ContainerConfig) (state : σ) (failure : Failure),
    Engine.prepare registry (readText state) container = .error failure ↔
      PreparationDefect registry (readText state) container failure
  /-- A run whose engine cannot be prepared ends with the failure of the preparation.  No phase but the
  preparation is entered. -/
  unprepared : ∀ (config : RunConfig) (state : σ) (failure : Failure),
    Engine.prepare registry (readText state) config.container = .error failure →
      ∃ events, Runs machine (Supervisor.run config).run state events (.returned (.error failure))
          (machine.prepare config.container state).2 ∧
        events.map (·.call) <+: [.lookUp config.container.engineName, .configure config.container]
  /-- A run that asks for a user namespace ends with its denial.  What the worker is given to do is no more than
  that denial, so the kernel is asked for nothing, and then the engine cleans up. -/
  denied : ∀ (config : RunConfig) (state : σ) (engine : Engine),
    Engine.prepare registry (readText state) config.container = .ok engine →
      config.container.namespaces.user = true →
      config.container.namespaces.create = throw NamespaceRequest.userDenial ∧
        ∃ events, Runs machine (Supervisor.run config).run state events
            (.returned (.error NamespaceRequest.userDenial))
            (machine.answer (.cleanUp (some NamespaceRequest.userDenial) none)
              (machine.prepare config.container state).2).2 ∧
          events.map (·.call) = [.lookUp config.container.engineName, .configure config.container,
            .createNamespaces config.container.namespaces, .cleanUp (some NamespaceRequest.userDenial) none]

theorem refusedRunLaws {machine : Machine Lifecycle σ} {registry : Registry EngineKind μ}
    {readText : σ → ReadText} {kernel : Machine Kernel σ} (h : machine.Hosts registry readText kernel) :
    RefusedRunLaws machine registry readText where
  defects _ _ _ := Engine.prepare_eq_error_iff
  unprepared config state failure hprepare := by
    have hresult : (machine.prepare config.container state).1 = .error failure := by
      rw [h.prepares, hprepare]
      rfl
    exact Supervisor.runs_of_unprepared (Prod.ext hresult rfl)
  denied config state engine hprepare huser := by
    have hresult : (machine.prepare config.container state).1 = .ok () := by
      rw [h.prepares, hprepare]
      rfl
    exact ⟨NamespaceRequest.create_of_user huser,
      Supervisor.runs_of_refused (Prod.ext hresult rfl) (h.creates_of_user huser _)⟩

/-! ## The runtime on a host -/

namespace Serving

theorem state_withState (next : σ) (serving : Serving σ) : (serving.withState next).state = next := by
  cases serving <;> rfl

theorem withState_state (serving : Serving σ) : serving.withState serving.state = serving := by
  cases serving <;> rfl

theorem withState_withState (first second : σ) (serving : Serving σ) :
    (serving.withState first).withState second = serving.withState second := by
  cases serving <;> rfl

end Serving

namespace Runtime

/-- The kernel as the worker meets it while a server may be connected. -/
def workerKernel : Machine Kernel (Serving Runtime) :=
  (kernel .worker).onPart Serving.state Serving.withState

/-- The runtime prepares its engines from the files of the host, and leaves the host as it is. -/
theorem prepare_serving (container : ContainerConfig) (serving : Serving Runtime) :
    ((phases.serving methods).prepare container serving).1 =
        (Engine.prepare registry serving.state.readText container).map (fun _ ↦ ()) ∧
      ((phases.serving methods).prepare container serving).2.state.host = serving.state.host := by
  have hlookUp : (phases.serving methods).answer (.lookUp container.engineName) serving =
      ((serving.state.lookUp container.engineName).1,
        serving.withState (serving.state.lookUp container.engineName).2) := rfl
  have hconfigure (next : Serving Runtime) : (phases.serving methods).answer (.configure container) next =
      ((next.state.configure container).1, next.withState (next.state.configure container).2) := rfl
  cases hfound : registry.lookup container.engineName with
  | error failure =>
    simp [Machine.prepare, hlookUp, lookUp, hfound, Engine.prepare, Serving.state_withState, Except.map]
  | ok registration =>
    simp only [Machine.prepare, hlookUp, lookUp, hfound, hconfigure, Engine.prepare,
      Serving.state_withState, configure, readText]
    rcases (Engine.fresh registration.factory).init serving.state.host.textReader container with ⟨_ | _, engine⟩
    · exact ⟨rfl, trivial⟩
    · exact ⟨rfl, trivial⟩

/-- The runtime on a host is such a machine. -/
theorem hosts : (phases.serving methods).Hosts registry (fun serving ↦ serving.state.readText) workerKernel where
  prepares container serving := (prepare_serving container serving).1
  creates request serving := by
    have hworker : Program.run workerKernel request.create.run serving =
        ((Program.run (kernel .worker) request.create.run serving.state).1,
          serving.withState (Program.run (kernel .worker) request.create.run serving.state).2) :=
      Program.run_onPart Serving.state Serving.withState (kernel .worker) Serving.state_withState
        Serving.withState_state Serving.withState_withState request.create.run serving
    have hkernel : Program.run (kernel .worker) request.create.run serving.state =
        ((Program.run (Host.kernel .worker) request.create.run serving.state.host).1,
          { serving.state with
            host := (Program.run (Host.kernel .worker) request.create.run serving.state.host).2 }) :=
      Program.run_onPart Runtime.host (fun host runtime ↦ { runtime with host := host }) (Host.kernel .worker)
        (fun _ _ ↦ rfl) (fun _ ↦ rfl) (fun _ _ _ ↦ rfl) request.create.run serving.state
    rw [hworker, hkernel]
    rfl

/-- A run of the runtime that is refused leaves the host as it was: its files, its threads and its hostname. -/
theorem run_of_refused {config : RunConfig} {runtime : Runtime} {failure : Failure}
    (h : Engine.prepare registry runtime.readText config.container = .error failure ∨
      (∃ engine, Engine.prepare registry runtime.readText config.container = .ok engine) ∧
        config.container.namespaces.user = true ∧ failure = NamespaceRequest.userDenial) :
    (runtime.run config).1 = .error failure ∧ (runtime.run config).2.host = runtime.host := by
  obtain ⟨hprepares, hhost⟩ := prepare_serving config.container (.idle runtime)
  obtain hprepare | ⟨⟨engine, hprepare⟩, huser, rfl⟩ := h
  · obtain ⟨events, hruns, -⟩ := (refusedRunLaws hosts).unprepared config (.idle runtime) failure hprepare
    rw [run, hruns.run_eq]
    exact ⟨rfl, hhost⟩
  · obtain ⟨-, events, hruns, -⟩ := (refusedRunLaws hosts).denied config (.idle runtime) engine hprepare huser
    rw [run, hruns.run_eq]
    refine ⟨rfl, Eq.trans ?_ hhost⟩
    exact congrArg Runtime.host (Serving.state_withState _ _)

end Runtime

/-! ## Refusals have no effect -/

/-- What is true of every request and every run that is refused for its configuration. -/
structure ConfigurationLaws (worker caller : Machine Kernel σ) {τ : Type} (machine : Machine Lifecycle τ)
    (registry : Registry EngineKind μ) (readText : τ → ReadText) : Prop where
  requests : RefusalLaws worker caller
  runs : RefusedRunLaws machine registry readText

/-- A failure of configuration has no effect, on any kernel and on any machine that hosts engines. -/
theorem configuration_failures_idle (worker caller : Machine Kernel σ) {τ : Type} {machine : Machine Lifecycle τ}
    {registry : Registry EngineKind μ} {readText : τ → ReadText} {kernel : Machine Kernel τ}
    (h : machine.Hosts registry readText kernel) :
    ConfigurationLaws worker caller machine registry readText :=
  ⟨refusalLaws worker caller, refusedRunLaws h⟩

theorem configuration_failures_idle_onHost :
    (Runtime.phases.serving Runtime.methods).Hosts Runtime.registry (fun serving ↦ serving.state.readText)
        Runtime.workerKernel ∧
      ConfigurationLaws (Host.kernel .worker) (Host.kernel .server) (Runtime.phases.serving Runtime.methods)
        Runtime.registry (fun serving ↦ serving.state.readText) :=
  ⟨Runtime.hosts, configuration_failures_idle _ _ Runtime.hosts⟩

end ContainerConstruction
