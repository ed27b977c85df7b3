import ContainerConstruction.Engine.Build
import ContainerConstruction.Process.Spec
import ContainerConstruction.Text.Path

/-!
# Engines

An engine turns a constructed container into a running process.  There are three kinds of them: one
runs a program, one the process of a bundle, and one the scripts that build an image.  `Engine.init`
takes over the configuration of a container, and `Engine.start` says what the contained process does
once it has been released.
-/

namespace ContainerConstruction

inductive EngineKind where
  | standard
  | oci
  | imageBuild
  deriving DecidableEq, Repr

namespace EngineKind

def name : EngineKind → String
  | .standard => "standard"
  | .oci => "oci"
  | .imageBuild => "imgbuild"

def all : List EngineKind := [.standard, .oci, .imageBuild]

end EngineKind

/-- An engine with the configuration it has taken over. -/
inductive Engine where
  | standard (config : StandardConfig) (identity : Option ProcessIdentity)
  | oci (config : OciConfig)
  | imageBuild (config : BuildConfig)
  deriving DecidableEq, Repr

/-- What a contained process does once it has been released. -/
inductive Start where
  /-- Becomes a program. -/
  | run (spec : ProcessSpec)
  /-- Runs the scripts of a build, and ends. -/
  | build (config : BuildConfig)
  deriving DecidableEq, Repr

/-- Reads the spec of a bundle. -/
def OciSpec.ofBundle (readText : ReadText) (bundle : String) : Except Failure OciSpec :=
  let path := Path.join bundle OciSpec.fileName
  match readText path with
  | .error cause => .error (.io path cause)
  | .ok text => OciSpec.ofText path text

/-- The process that a bundle runs. -/
def OciConfig.process (config : OciConfig) : Except Failure OciProcess :=
  match config.spec.bind (·.process) with
  | some process => .ok process
  | none => .error (.config "OCI spec has no process section")

namespace Engine

/-- An engine that has not taken over anything. -/
def fresh : EngineKind → Engine
  | .standard => .standard .empty none
  | .oci => .oci .empty
  | .imageBuild => .imageBuild .empty

/-! ## Taking over a configuration -/

/-- The program of a container. -/
def initStandard (container : ContainerConfig) : Except Failure Engine :=
  match container.ofPayload StandardConfig.reader with
  | .error failure => .error failure
  | .ok config =>
    if config.args.isEmpty then .error (.config "standard engine needs at least one argument")
    else .ok (.standard config container.identity)

/-- The bundle of a container, with the spec it holds if none is given. -/
def ociConfig (readText : ReadText) (container : ContainerConfig) : Except Failure OciConfig :=
  match container.ofPayload OciConfig.reader with
  | .error failure => .error failure
  | .ok config =>
    match config.spec with
    | some _ => .ok config
    | none => (OciSpec.ofBundle readText config.bundle).map fun spec ↦ { config with spec := some spec }

/-- What keeps a bundle from being run. -/
def ociDefect (config : OciConfig) : Except Failure Unit :=
  match config.process with
  | .error failure => .error failure
  | .ok process =>
    if process.args.isEmpty then .error (.config "OCI process.args must not be empty") else .ok ()

/-- Takes over the configuration of a container.  A bundle that has been read is kept even if it cannot
be run. -/
def init (readText : ReadText) (container : ContainerConfig) (engine : Engine) :
    Except Failure Unit × Engine :=
  match engine with
  | .standard .. =>
    match initStandard container with
    | .ok engine => (.ok (), engine)
    | .error failure => (.error failure, engine)
  | .oci _ =>
    match ociConfig readText container with
    | .ok config => (ociDefect config, .oci config)
    | .error failure => (.error failure, engine)
  | .imageBuild _ =>
    match container.ofPayload BuildConfig.reader with
    | .ok config => (.ok (), .imageBuild config)
    | .error failure => (.error failure, engine)

def config : Engine → Json
  | .standard config _ => config.toJson
  | .oci config => config.toJson
  | .imageBuild config => config.toJson

/-! ## Starting -/

/-- The byte that releases a contained process. -/
def goByte : UInt8 := 1

/-- What can be read from a control channel: the bytes that it holds, or why it cannot be read. -/
abbrev ControlRead : Type := Except IoCause (List UInt8)

/-- Waits for the release: any byte is one, and a channel that is closed first is none. -/
def awaitGo : ControlRead → Except Failure Unit
  | .ok [] => .error (.process "control channel closed before start")
  | .ok (_ :: _) => .ok ()
  | .error cause => .error (.process s!"reading control channel: {cause.message}")

def released : Engine → Except Failure Start
  | .standard config identity =>
    .ok (.run ⟨config.args, config.env, config.cwd, identity.map (·.uid), identity.map (·.gid)⟩)
  | .oci config =>
    config.process.map fun process ↦
      .run ⟨process.args, process.env, some process.cwd, some process.user.uid, some process.user.gid⟩
  | .imageBuild config => .ok (.build config)

/-- What the contained process does, given what can be read from its control channel. -/
def start (control : ControlRead) (engine : Engine) : Except Failure Start :=
  match awaitGo control with
  | .error failure => .error failure
  | .ok _ => engine.released

/-- A process that starts does what its engine has it do. -/
theorem released_of_start {control : ControlRead} {engine : Engine} {next : Start}
    (h : engine.start control = .ok next) : engine.released = .ok next := by
  unfold start at h
  split at h
  · cases h
  · exact h

end Engine

end ContainerConstruction
