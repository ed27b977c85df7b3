import ContainerConstruction.Request.Shown
import ContainerConstruction.Response
import ContainerConstruction.Server.Frame
import ContainerConstruction.Text.Utf8

/-!
# Calling a server

A client sends one request at a time and waits for the response.  The other end of its connection is a
`Peer`, a state machine that reads payloads: it answers each with a payload of its own, or it writes some
last bytes and is gone.

Beside the general `call`, there is a call for each operation that also checks the form of the reply.
-/

namespace ContainerConstruction

/-! ## Connections -/

/-- What a peer does with a payload. -/
inductive Reaction (σ : Type) where
  /-- Answers with one payload and goes on. -/
  | answer (payload : List UInt8) (peer : σ)
  /-- Writes some bytes and closes the connection. -/
  | close (bytes : List UInt8) (peer : σ)

/-- The other end of a connection. -/
structure Peer (σ : Type) where
  react : List UInt8 → σ → Reaction σ

/-- A connection to a peer in a state. -/
structure Connection (σ : Type) where
  peer : σ
  isOpen : Bool

/-- A step of a client: what it gives, and the connection afterwards. -/
abbrev Exchange (σ α : Type) : Type := StateM (Connection σ) (Except Failure α)

namespace Client

variable {σ : Type}

/-! ## Calls -/

/-- The result that a payload stands for. -/
def resultOf (payload : List UInt8) : Except Failure Reply :=
  match Response.reader.ofInput (Text.Utf8.decode payload) with
  | .error error => .error (.serialization error)
  | .ok response => response.result

/-- The result of a call after which the connection was closed. -/
def lastResult (method : String) (bytes : List UInt8) : Except Failure Reply :=
  match Frame.next bytes with
  | .frame payload _ => resultOf payload
  | .finished => .error (.transport s!"server closed the connection during {method}")
  | .failed defect => .error (.transport s!"reading {method} response: {defect.message}")

def requestPayload (request : Request) : List UInt8 := Text.Utf8.ofText request.toJson.render

/-- Sends a request and waits for the response. -/
def call (peer : Peer σ) (request : Request) : Exchange σ Reply := fun connection ↦
  match Frame.encode (requestPayload request) with
  | .error defect => (.error (.transport s!"sending {request.method}: {defect.message}"), connection)
  | .ok _ =>
    if connection.isOpen then
      match peer.react (requestPayload request) connection.peer with
      | .answer payload state => (resultOf payload, ⟨state, true⟩)
      | .close bytes state => (lastResult request.method bytes, ⟨state, false⟩)
    else (.error (.transport s!"sending {request.method}: broken pipe"), connection)

/-! ## Typed calls -/

/-- A reply of another form than the operation gives. -/
def unexpected (method : String) (reply : Reply) : Failure :=
  .transport s!"unexpected reply to {method}: {reply.shown}"

/-- A call whose reply has to have a certain form. -/
def callFor {α : Type} (expected : Reply → Option α) (peer : Peer σ) (request : Request) :
    Exchange σ α := fun connection ↦
  let (result, connection) := call peer request connection
  (result.bind fun reply ↦
    match expected reply with
    | some value => .ok value
    | none => .error (unexpected request.method reply), connection)

def unit? : Reply → Option Unit
  | .unit => some ()
  | _ => none

def device? : Reply → Option String
  | .crypt reply => some reply.device
  | _ => none

def index? : Reply → Option UInt32
  | .loop reply => some reply.index
  | _ => none

def mount (peer : Peer σ) (args : MountArgs) : Exchange σ Unit := callFor unit? peer (.mount args)

def decrypt (peer : Peer σ) (args : CryptArgs) : Exchange σ String :=
  callFor device? peer (.decrypt args)

def mkdir (peer : Peer σ) (args : MkdirArgs) : Exchange σ Unit := callFor unit? peer (.mkdir args)

def chroot (peer : Peer σ) (args : ChrootArgs) : Exchange σ Unit := callFor unit? peer (.chroot args)

def loopDevice (peer : Peer σ) (args : LoopArgs) : Exchange σ UInt32 :=
  callFor index? peer (.loopDevice args)

def setHostname (peer : Peer σ) (args : HostnameArgs) : Exchange σ Unit :=
  callFor unit? peer (.setHostname args)

def setFsId (peer : Peer σ) (args : SetFsIdArgs) : Exchange σ Unit :=
  callFor unit? peer (.setFsId args)

def chdir (peer : Peer σ) (args : ChdirArgs) : Exchange σ Unit := callFor unit? peer (.chdir args)

end Client

end ContainerConstruction
