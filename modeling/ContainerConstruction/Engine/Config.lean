import ContainerConstruction.Config

/-!
# Engine payloads

What each of the three engines has to be told: a program to run, a bundle with a runtime spec, or an
image to build.  The payload is part of the container's configuration, and an engine reads it with
`ofPayload`.
-/

namespace ContainerConstruction

open Json (Reader)
open Json.Reader (string bool uint32 list optional record)
open Json.Reader.Fields (required defaulting)

/-! ## Running a program -/

/-- A program with its arguments, environment entries `KEY=VALUE` and working directory. -/
structure StandardConfig where
  args : List String
  env : List String
  cwd : Option String
  deriving DecidableEq, Repr

namespace StandardConfig

def empty : StandardConfig := ⟨[], [], none⟩

def toJson (config : StandardConfig) : Json :=
  .object [("args", .strings config.args), ("env", .strings config.env),
    ("cwd", .optional .string config.cwd)]

def reader : Reader StandardConfig :=
  record <| required "args" (list string) <| defaulting "env" (list string) [] <|
    defaulting "cwd" (optional string) none <| .done fun cwd env args ↦ ⟨args, env, cwd⟩

end StandardConfig

/-! ## Running a bundle -/

structure OciUser where
  uid : UInt32
  gid : UInt32
  deriving DecidableEq, Repr

structure OciProcess where
  terminal : Bool
  user : OciUser
  args : List String
  env : List String
  cwd : String
  deriving DecidableEq, Repr

structure OciRoot where
  path : String
  readonly : Bool
  deriving DecidableEq, Repr

/-- The part of a runtime spec that is kept. -/
structure OciSpec where
  version : String
  process : Option OciProcess
  root : Option OciRoot
  hostname : Option String
  deriving DecidableEq, Repr

/-- A bundle directory, and its spec unless that is still to be read from the bundle. -/
structure OciConfig where
  bundle : String
  spec : Option OciSpec
  deriving DecidableEq, Repr

namespace OciUser

def root : OciUser := ⟨0, 0⟩

def toJson (user : OciUser) : Json :=
  .object [("uid", .nat user.uid.toNat), ("gid", .nat user.gid.toNat)]

def reader : Reader OciUser :=
  record <| required "uid" uint32 <| required "gid" uint32 <| .done fun gid uid ↦ ⟨uid, gid⟩

end OciUser

namespace OciProcess

def toJson (process : OciProcess) : Json :=
  .object [("terminal", .bool process.terminal), ("user", process.user.toJson),
    ("args", .strings process.args), ("env", .strings process.env), ("cwd", .string process.cwd)]

def reader : Reader OciProcess :=
  record <| defaulting "terminal" bool false <| defaulting "user" OciUser.reader .root <|
    defaulting "args" (list string) [] <| defaulting "env" (list string) [] <|
    defaulting "cwd" string "/" <|
    .done fun cwd env args user terminal ↦ ⟨terminal, user, args, env, cwd⟩

end OciProcess

namespace OciRoot

def toJson (root : OciRoot) : Json :=
  .object [("path", .string root.path), ("readonly", .bool root.readonly)]

def reader : Reader OciRoot :=
  record <| required "path" string <| defaulting "readonly" bool false <|
    .done fun readonly path ↦ ⟨path, readonly⟩

end OciRoot

namespace OciSpec

def fileName : String := "config.json"

def toJson (spec : OciSpec) : Json :=
  .object [("ociVersion", .string spec.version),
    ("process", .optional OciProcess.toJson spec.process),
    ("root", .optional OciRoot.toJson spec.root), ("hostname", .optional .string spec.hostname)]

def reader : Reader OciSpec :=
  record <| defaulting "ociVersion" string "" <|
    defaulting "process" (optional OciProcess.reader) none <|
    defaulting "root" (optional OciRoot.reader) none <|
    defaulting "hostname" (optional string) none <|
    .done fun hostname root process version ↦ ⟨version, process, root, hostname⟩

/-- The spec in the text of the file `path`. -/
def ofText (path text : String) : Except Failure OciSpec :=
  match reader.ofText text with
  | .ok spec => .ok spec
  | .error error => .error (.config s!"{path}: {error.message}")

end OciSpec

namespace OciConfig

/-- No bundle yet. -/
def empty : OciConfig := ⟨"", none⟩

def toJson (config : OciConfig) : Json :=
  .object [("bundle", .string config.bundle), ("spec", .optional OciSpec.toJson config.spec)]

def reader : Reader OciConfig :=
  record <| required "bundle" string <| defaulting "spec" (optional OciSpec.reader) none <|
    .done fun spec bundle ↦ ⟨bundle, spec⟩

end OciConfig

/-! ## Building an image -/

/-- The scripts that build an image, and which of them to run. -/
structure BuildConfig where
  rootfs : String
  sections : List String
  noTest : Bool
  env : List String
  post : Option String
  test : Option String
  deriving DecidableEq, Repr

namespace BuildConfig

/-- No image yet; all sections are selected. -/
def empty : BuildConfig := ⟨"", ["all"], false, [], none, none⟩

def toJson (config : BuildConfig) : Json :=
  .object [("rootfs", .string config.rootfs), ("sections", .strings config.sections),
    ("no_test", .bool config.noTest), ("env", .strings config.env),
    ("post", .optional .string config.post), ("test", .optional .string config.test)]

def reader : Reader BuildConfig :=
  record <| required "rootfs" string <| defaulting "sections" (list string) ["all"] <|
    defaulting "no_test" bool false <| defaulting "env" (list string) [] <|
    defaulting "post" (optional string) none <| defaulting "test" (optional string) none <|
    .done fun test post env noTest sections rootfs ↦ ⟨rootfs, sections, noTest, env, post, test⟩

end BuildConfig

/-! ## Payloads -/

/-- Reads the payload of a container for its engine. -/
def ContainerConfig.ofPayload {α : Type} (read : Reader α) (config : ContainerConfig) :
    Except Failure α :=
  match read.ofJson config.engineConfig with
  | .ok value => .ok value
  | .error error => .error (.config s!"{config.engineName} engine payload: {error.message}")

end ContainerConstruction
