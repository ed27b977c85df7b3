import ContainerConstruction.Supervisor

/-!
# Phases with a server

The phases of the construction are carried out by a server in the same process, at the other end of a
connection.  `Machine.serving` adds this server to a machine that answers all other phases.
-/

namespace ContainerConstruction

/-- A machine's state, with the connection to the server that works on it. -/
inductive Serving (σ : Type) where
  | idle (state : σ)
  | connected (connection : Connection (Session σ))

namespace Serving

variable {σ : Type}

/-- The state itself. -/
def state : Serving σ → σ
  | .idle here => here
  | .connected connection => connection.peer.server.state

/-- The same connection to a server with another state. -/
def withState (next : σ) : Serving σ → Serving σ
  | .idle _ => .idle next
  | .connected ⟨⟨⟨_, poisoned⟩, failure⟩, isOpen⟩ => .connected ⟨⟨⟨next, poisoned⟩, failure⟩, isOpen⟩

def start (serving : Serving σ) : Except Failure Unit × Serving σ :=
  (.ok (), .connected (Session.connect serving.state))

def step (methods : Methods σ) (request : Request) (serving : Serving σ) :
    Except Failure Reply × Serving σ :=
  let connection := match serving with
    | .idle here => Session.connect here
    | .connected connection => connection
  let (result, connection) := (Client.call (Session.peer methods) request).run connection
  (result, .connected connection)

def stop (serving : Serving σ) : Except Failure Unit × Serving σ :=
  match serving with
  | .idle here => (.ok (), .idle here)
  | .connected connection => (connection.peer.result, .idle connection.peer.server.state)

end Serving

/-- Adds a server to a machine. -/
def Machine.serving {σ : Type} (methods : Methods σ) (machine : Machine Lifecycle σ) :
    Machine Lifecycle (Serving σ) where
  answer
    | .startServer, serving => serving.start
    | .step request, serving => serving.step methods request
    | .stopServer, serving => serving.stop
    | phase, serving =>
      let (answer, state) := machine.answer phase serving.state
      (answer, serving.withState state)

end ContainerConstruction
