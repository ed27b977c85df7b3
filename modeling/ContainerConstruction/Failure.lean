import ContainerConstruction.Errno
import ContainerConstruction.Json.Reader

/-!
# Failures

Everything that can go wrong in constructing and running a container is a `Failure`: a class with the
circumstances that its message shows.  The class alone travels between processes, as an `ErrorKind`,
and decides whether the state of the failing thread is still known: `Failure.isUnsafe`.

A kind has two spellings, one inside messages and one inside documents.
-/

namespace ContainerConstruction

inductive ErrorKind where
  | config
  | notFound
  | privilege
  | unsafeState
  | namespaceEntry
  | rootSwitch
  | mount
  | device
  | process
  | transport
  | io
  | internal
  deriving DecidableEq, Repr

namespace ErrorKind

/-- Every kind with its spelling in documents, in the order in which a reader lists them. -/
def wireNames : List (String × ErrorKind) :=
  [("config", .config), ("not_found", .notFound), ("privilege", .privilege), ("unsafe", .unsafeState),
    ("namespace", .namespaceEntry), ("root_switch", .rootSwitch), ("mount", .mount), ("device", .device),
    ("process", .process), ("transport", .transport), ("io", .io), ("internal", .internal)]

/-- The spelling in documents. -/
def wireName : ErrorKind → String
  | .config => "config"
  | .notFound => "not_found"
  | .privilege => "privilege"
  | .unsafeState => "unsafe"
  | .namespaceEntry => "namespace"
  | .rootSwitch => "root_switch"
  | .mount => "mount"
  | .device => "device"
  | .process => "process"
  | .transport => "transport"
  | .io => "io"
  | .internal => "internal"

def displayName : ErrorKind → String
  | .notFound => "not-found"
  | .unsafeState => "unsafe-state"
  | .rootSwitch => "root-switch"
  | kind => kind.wireName

def toJson (kind : ErrorKind) : Json := .string kind.wireName

def reader : Json.Reader ErrorKind := Json.Reader.choice wireNames

end ErrorKind

/-- Why reading or writing a path failed. -/
inductive IoCause where
  | errno (errno : Errno)
  /-- Found before the kernel was asked, or in what it gave. -/
  | text (text : String)
  deriving DecidableEq, Repr

namespace IoCause

/-- A path that cannot be handed to the kernel. -/
def nulInFileName : IoCause := .text "file name contained an unexpected NUL byte"

/-- A program, argument, variable or working directory that cannot be handed to the kernel. -/
def nulInData : IoCause := .text "nul byte found in provided data"

/-- A file that should have been text. -/
def notUtf8 : IoCause := .text "stream did not contain valid UTF-8"

def socketPathTooLong : IoCause := .text "path must be shorter than SUN_LEN"

def message : IoCause → String
  | .errno number => number.osText
  | .text content => content

end IoCause

/-- A way to read a file as text. -/
abbrev ReadText : Type := String → Except IoCause String

/-- Something that went wrong. -/
inductive Failure where
  /-- A file could not be used. -/
  | io (path : String) (cause : IoCause)
  /-- A request or configuration asks for what cannot be. -/
  | config (message : String)
  /-- A name stands for nothing. -/
  | notFound (kind id : String)
  /-- An identity could not be taken on; the thread has the one it had. -/
  | privilege (message : String)
  /-- The identity before a bracket could not be taken back. -/
  | identityRestore (message : String)
  /-- A namespace could not be entered; membership is unchanged. -/
  | namespaceEntry (message : String)
  /-- The own namespace could not be entered again. -/
  | namespaceRestore (message : String)
  /-- A step of a root switch failed. -/
  | rootSwitch (step message : String)
  /-- The kernel refused a mount. -/
  | mount (spec target message : String)
  /-- A loop device could not be attached or an encrypted one unlocked. -/
  | device (message : String)
  /-- A contained process could not be started, signalled or reaped. -/
  | process (message : String)
  /-- The channel to the privileged server failed. -/
  | transport (message : String)
  /-- The privileged server reported a failure of its own. -/
  | remote (kind : ErrorKind) (message : String)
  /-- The runtime broke one of its own rules. -/
  | internal (message : String)
  /-- A document is not what it should be. -/
  | serialization (error : Json.ReadError)
  deriving DecidableEq, Repr

namespace Failure

def kind : Failure → ErrorKind
  | .io .. => .io
  | .config _ | .serialization _ => .config
  | .notFound .. => .notFound
  | .privilege _ => .privilege
  | .identityRestore _ | .namespaceRestore _ => .unsafeState
  | .namespaceEntry _ => .namespaceEntry
  | .rootSwitch .. => .rootSwitch
  | .mount .. => .mount
  | .device _ => .device
  | .process _ => .process
  | .transport _ => .transport
  | .remote kind _ => kind
  | .internal _ => .internal

/-- Whether the identity or the namespaces of the failing thread are no longer known. -/
def isUnsafe (failure : Failure) : Bool := failure.kind = .unsafeState

def message : Failure → String
  | .io path cause => s!"I/O error at {path}: {cause.message}"
  | .config message => s!"invalid configuration: {message}"
  | .notFound kind id => s!"{kind} not found: {id}"
  | .privilege message => s!"privilege error: {message}"
  | .identityRestore message => s!"failed to restore filesystem identity: {message}"
  | .namespaceEntry message => s!"namespace error: {message}"
  | .namespaceRestore message => s!"failed to restore namespace: {message}"
  | .rootSwitch step message => s!"root switch failed during {step}: {message}"
  | .mount spec target message => s!"mount {spec} on {target} failed: {message}"
  | .device message => s!"device error: {message}"
  | .process message => s!"process error: {message}"
  | .transport message => s!"transport error: {message}"
  | .remote kind message => s!"remote {kind.displayName} error: {message}"
  | .internal message => s!"internal error: {message}"
  | .serialization error => s!"serialization error: {error.message}"

/-- A failed reading of a document that stands on its own. -/
def ofRead {α : Type} : Except Json.ReadError α → Except Failure α
  | .ok value => .ok value
  | .error error => .error (.serialization error)

end Failure

end ContainerConstruction
