import ContainerConstruction.Plan
import ContainerConstruction.Server.Basic
import ContainerConstruction.Server.Client

/-!
# Construction

A plan is carried out by calling a server for each of its steps in order, up to the first failure.
`Construction.ofPlan` connects a fresh server to a client for the duration of one plan.
-/

namespace ContainerConstruction

/-- A server at the other end of a connection. -/
structure Session (σ : Type) where
  server : Server σ
  /-- The failure with which the server closed the connection. -/
  failure : Option Failure

namespace Session

variable {σ : Type}

/-- What a server does with a payload. -/
def react (methods : Methods σ) (payload : List UInt8) (session : Session σ) : Reaction (Session σ) :=
  let turn := session.server.turn methods payload
  let session : Session σ := ⟨turn.server, turn.failure⟩
  match turn.response, turn.failure with
  | some response, none => .answer (Server.responsePayload response) session
  | some response, some _ =>
    .close (Frame.header (Server.responsePayload response).length ++ Server.responsePayload response)
      session
  | none, _ => .close [] session

def peer (methods : Methods σ) : Peer (Session σ) := ⟨react methods⟩

/-- A connection to a fresh server. -/
def connect (state : σ) : Connection (Session σ) := ⟨⟨⟨state, false⟩, none⟩, true⟩

/-- What the server gives once the client is gone. -/
def result (session : Session σ) : Except Failure Unit :=
  match session.failure with
  | none => .ok ()
  | some failure => .error failure

end Session

/-- Makes a call for each step, up to the first failure. -/
def ConstructionPlan.replay {m : Type → Type} [Monad m] (call : Request → m (Except Failure Reply)) :
    List Request → m (Except Failure Unit)
  | [] => return .ok ()
  | step :: rest => do
    match ← call step with
    | .error failure => return .error failure
    | .ok _ => replay call rest

/-- How carrying out a plan ended on both sides. -/
structure Construction (σ : Type) where
  constructed : Except Failure Unit
  served : Except Failure Unit
  server : Server σ

namespace Construction

variable {σ : Type}

/-- Carries out a plan with a fresh server. -/
def ofPlan (methods : Methods σ) (plan : ConstructionPlan) (state : σ) : Construction σ :=
  let (constructed, connection) :=
    (ConstructionPlan.replay (Client.call (Session.peer methods)) plan.steps).run (Session.connect state)
  ⟨constructed, connection.peer.result, connection.peer.server⟩

/-- The first failure on the client's side, or else that of the server. -/
def result (construction : Construction σ) : Except Failure Unit :=
  match construction.constructed with
  | .error failure => .error failure
  | .ok _ => construction.served

end Construction

end ContainerConstruction
