import ContainerConstruction.Json.Reader
import ContainerConstruction.Failure

/-!
# Configuration

`RuntimeConfig` holds what is the same for all containers of a machine.  `ContainerConfig` describes one
container: the engine that runs it, its namespaces and identity, and a payload that only the engine
understands.
-/

namespace ContainerConstruction

open Json (Reader)
open Json.Reader (string bool uint32 json optional record)
open Json.Reader.Fields (required defaulting)

/-! ## Machine -/

/-- Settings of the machine. -/
structure RuntimeConfig where
  stateDir : String
  /-- How many loop devices are tried if a request does not say. -/
  maxLoopDevices : UInt32
  deriving DecidableEq, Repr

namespace RuntimeConfig

def defaultStateDir : String := "/var/lib/stockade"

def defaultPath : String := "/etc/stockade/stockade.json"

/-- The number of loop devices tried if nothing else is said. -/
def defaultMaxLoopDevices : UInt32 := 256

/-- The settings in force without a file. -/
def standard : RuntimeConfig := ⟨defaultStateDir, defaultMaxLoopDevices⟩

def toJson (config : RuntimeConfig) : Json :=
  .object [("state_dir", .string config.stateDir),
    ("max_loop_devices", .nat config.maxLoopDevices.toNat)]

def reader : Reader RuntimeConfig :=
  record <| defaulting "state_dir" string standard.stateDir <|
    defaulting "max_loop_devices" uint32 standard.maxLoopDevices <|
    .done fun maxLoopDevices stateDir ↦ ⟨stateDir, maxLoopDevices⟩

/-- The settings of a file's text: a machine without any loop device to try is refused. -/
def ofText (text : String) : Except Failure RuntimeConfig :=
  match reader.ofText text with
  | .error error => .error (.serialization error)
  | .ok config =>
    if config.maxLoopDevices = 0 then
      .error (.config "max_loop_devices must be greater than zero")
    else .ok config

def load (readText : ReadText) (path : String) : Except Failure RuntimeConfig :=
  match readText path with
  | .ok text => ofText text
  | .error (.errno .noEntry) => .ok standard
  | .error cause => .error (.io path cause)

end RuntimeConfig

/-! ## Container -/

/-- The namespaces a container gets for its own. -/
structure NamespaceRequest where
  pid : Bool
  mount : Bool
  network : Bool
  user : Bool
  ipc : Bool
  uts : Bool
  deriving DecidableEq, Repr

namespace NamespaceRequest

def shared : NamespaceRequest := ⟨false, false, false, false, false, false⟩

def toJson (request : NamespaceRequest) : Json :=
  .object [("pid", .bool request.pid), ("mount", .bool request.mount),
    ("network", .bool request.network), ("user", .bool request.user), ("ipc", .bool request.ipc),
    ("uts", .bool request.uts)]

def reader : Reader NamespaceRequest :=
  record <| defaulting "pid" bool false <| defaulting "mount" bool false <|
    defaulting "network" bool false <| defaulting "user" bool false <|
    defaulting "ipc" bool false <| defaulting "uts" bool false <|
    .done fun uts ipc user network mount pid ↦ ⟨pid, mount, network, user, ipc, uts⟩

end NamespaceRequest

/-- The user and group a contained process runs as. -/
structure ProcessIdentity where
  uid : UInt32
  gid : UInt32
  deriving DecidableEq, Repr

namespace ProcessIdentity

def toJson (identity : ProcessIdentity) : Json :=
  .object [("uid", .nat identity.uid.toNat), ("gid", .nat identity.gid.toNat)]

def reader : Reader ProcessIdentity :=
  record <| required "uid" uint32 <| required "gid" uint32 <| .done fun gid uid ↦ ⟨uid, gid⟩

end ProcessIdentity

/-- One container. -/
structure ContainerConfig where
  engineName : String
  containerId : String
  namespaces : NamespaceRequest
  /-- Absent for the identity of the supervisor. -/
  identity : Option ProcessIdentity
  /-- What the engine itself has to read. -/
  engineConfig : Json
  deriving Repr

namespace ContainerConfig

/-- A container of an engine with nothing else said, under a fresh id. -/
def ofEngine (freshId engineName : String) : ContainerConfig :=
  ⟨engineName, freshId, .shared, none, .null⟩

def toJson (config : ContainerConfig) : Json :=
  .object [("engine_name", .string config.engineName), ("container_id", .string config.containerId),
    ("namespaces", config.namespaces.toJson),
    ("identity", .optional ProcessIdentity.toJson config.identity),
    ("engine_config", config.engineConfig)]

/-- A container without an id of its own gets the fresh one. -/
def reader (freshId : String) : Reader ContainerConfig :=
  record <| required "engine_name" string <| defaulting "container_id" string freshId <|
    defaulting "namespaces" NamespaceRequest.reader .shared <|
    defaulting "identity" (optional ProcessIdentity.reader) none <|
    defaulting "engine_config" json .null <|
    .done fun engineConfig identity namespaces containerId engineName ↦
      ⟨engineName, containerId, namespaces, identity, engineConfig⟩

end ContainerConfig

end ContainerConstruction
