import ContainerConstruction.Response
import ContainerConstruction.Server.Frame
import ContainerConstruction.Server.Methods
import ContainerConstruction.Text.Quoted
import ContainerConstruction.Text.Utf8

/-!
# The privileged server

A server answers one request after the other.  A failure that leaves the identity or the namespaces of
the worker unknown poisons it: the request is still answered, and every later one is refused.  Opening an
encrypted device is exempt, since that is done on a thread that does not live on.

`serve` answers the frames of a stream in order, until the stream ends, cannot be read on, or the server
is poisoned.
-/

namespace ContainerConstruction

/-- A server between two requests: the state its methods work on, and whether it is poisoned. -/
structure Server (σ : Type) where
  state : σ
  poisoned : Bool

namespace Server

variable {σ : Type}

/-! ## Requests -/

/-- The answer of a poisoned server. -/
def refusal (request : Request) : Failure :=
  .internal s!"{request.method} refused: server is in an unsafe state"

/-- The failure that a panicking method leaves.  The number of the task is not known to anyone and
stands as `N`. -/
def taskFailure (task : String) (panic : Panic) : Failure :=
  match panic.message with
  | some message => .internal s!"{task} task failed: task N panicked with message {Text.quoted message}"
  | none => .internal s!"{task} task failed: task N panicked"

/-- The result of a method, a panic included. -/
def resultOf (request : Request) : Outcome (Except Failure Reply) → Except Failure Reply
  | .returned result => result
  | .panicked panic => .error (taskFailure request.method panic)

/-- Whether a result poisons the server. -/
def poisons (request : Request) : Except Failure Reply → Bool
  | .ok _ => false
  | .error failure => !request.isDecrypt && failure.isUnsafe

/-- Answers a request. -/
def handle (methods : Methods σ) (request : Request) (server : Server σ) : Response × Server σ :=
  if server.poisoned then (.ofFailure (refusal request), server)
  else
    let (outcome, state) := methods.dispatch request server.state
    let result := resultOf request outcome
    (.ofResult result, ⟨state, poisons request result⟩)

/-- Answers a frame; one that holds no request is answered as well. -/
def handleFrame (methods : Methods σ) (payload : List UInt8) (server : Server σ) :
    Response × Server σ :=
  match Request.reader.ofInput (Text.Utf8.decode payload) with
  | .ok request => server.handle methods request
  | .error error =>
    (.ofFailure (.config s!"invalid request frame: {methods.wording payload error}"), server)

/-! ## Streams -/

def responsePayload (response : Response) : List UInt8 := Text.Utf8.ofText response.toJson.render

def responseFrame (response : Response) : Except Frame.Defect (List UInt8) :=
  Frame.encode (responsePayload response)

/-- The failure of a server that has been poisoned. -/
def poisonedFailure : Failure := .internal "server poisoned by an unsafe-state error"

def readFailure (defect : Frame.Defect) : Failure :=
  .transport s!"reading request frame: {defect.message}"

def writeFailure (defect : Frame.Defect) : Failure :=
  .transport s!"writing response frame: {defect.message}"

/-- What answering one frame comes to. -/
structure Turn (σ : Type) where
  /-- The response, if it could be written. -/
  response : Option Response
  /-- The failure that ends the connection. -/
  failure : Option Failure
  server : Server σ

/-- Answers one frame of a stream. -/
def turn (methods : Methods σ) (payload : List UInt8) (server : Server σ) : Turn σ :=
  let (response, server) := server.handleFrame methods payload
  match responseFrame response with
  | .error defect => ⟨none, some (writeFailure defect), server⟩
  | .ok _ => ⟨some response, if server.poisoned then some poisonedFailure else none, server⟩

/-- What serving a stream ends with. -/
structure Served (σ : Type) where
  /-- The responses that were written, in order. -/
  responses : List Response
  result : Except Failure Unit
  server : Server σ

/-- Answers the frames of a stream. -/
def serve (methods : Methods σ) (stream : List UInt8) (server : Server σ) : Served σ :=
  match _h : Frame.next stream with
  | .finished => ⟨[], .ok (), server⟩
  | .failed defect => ⟨[], .error (readFailure defect), server⟩
  | .frame payload rest =>
    let turn := server.turn methods payload
    match turn.failure with
    | some failure => ⟨turn.response.toList, .error failure, turn.server⟩
    | none =>
      let served := serve methods rest turn.server
      { served with responses := turn.response.toList ++ served.responses }
termination_by stream.length
decreasing_by exact Frame.rest_length_lt _h

end Server

end ContainerConstruction
