import ContainerConstruction.Server.Basic

/-!
# Concurrent requests

A server may be asked by several callers at the same time.  All handlings share the state of the methods
and the flag that says whether the server is poisoned, and between two steps of one handling the others
may get on.

A handling looks at the flag, runs the method, sets the flag if the result asks for that, and builds the
response.  `Traffic.run` takes these steps in any order that a schedule gives.  A handling that nothing
comes between is one of `Server.handle`: that is `Handling.steps_alone`.
-/

namespace ContainerConstruction

/-- How far the handling of a request has got. -/
inductive Progress where
  | arrived
  /-- The server was poisoned when the flag was looked at. -/
  | refused
  /-- The server was not poisoned when the flag was looked at. -/
  | admitted
  /-- The method has ended. -/
  | performed (result : Except Failure Reply)
  /-- The flag has been set, if the result asks for that. -/
  | recorded (result : Except Failure Reply)
  | answered (response : Response)

/-- A request while it is handled. -/
structure Handling where
  request : Request
  progress : Progress

namespace Handling

variable {σ : Type}

def ofRequest (request : Request) : Handling := ⟨request, .arrived⟩

/-- Takes the next step.  A request that has been answered takes none. -/
def step (methods : Methods σ) (handling : Handling) (server : Server σ) : Handling × Server σ :=
  let reaching (progress : Progress) : Handling := { handling with progress := progress }
  match handling.progress with
  | .arrived => (reaching (if server.poisoned then .refused else .admitted), server)
  | .refused => (reaching (.answered (.ofFailure (Server.refusal handling.request))), server)
  | .admitted =>
    let (outcome, state) := methods.dispatch handling.request server.state
    (reaching (.performed (Server.resultOf handling.request outcome)), { server with state := state })
  | .performed result =>
    (reaching (.recorded result),
      { server with poisoned := server.poisoned || Server.poisons handling.request result })
  | .recorded result => (reaching (.answered (.ofResult result)), server)
  | .answered _ => (handling, server)

def steps (methods : Methods σ) : Nat → Handling → Server σ → Handling × Server σ
  | 0, handling, server => (handling, server)
  | count + 1, handling, server =>
    let (handling, server) := handling.step methods server
    steps methods count handling server

/-- The steps that answer a request when nothing comes between them. -/
def stepsToAnswer : Nat := 4

/-- Without anything between them, the steps of a handling do what `Server.handle` does. -/
theorem steps_alone (methods : Methods σ) (request : Request) (server : Server σ) :
    steps methods stepsToAnswer (ofRequest request) server =
      (⟨request, .answered (server.handle methods request).1⟩, (server.handle methods request).2) := by
  obtain ⟨state, poisoned⟩ := server
  cases poisoned <;> simp [stepsToAnswer, steps, step, ofRequest, Server.handle]

end Handling

/-- A server with the requests that it has been sent. -/
structure Traffic (σ : Type) where
  server : Server σ
  handlings : List Handling

namespace Traffic

variable {σ : Type}

def ofRequests (server : Server σ) (requests : List Request) : Traffic σ :=
  ⟨server, requests.map Handling.ofRequest⟩

/-- Lets one of the handlings take its next step. -/
def step (methods : Methods σ) (traffic : Traffic σ) (index : Nat) : Traffic σ :=
  match traffic.handlings[index]? with
  | none => traffic
  | some handling =>
    let (next, server) := handling.step methods traffic.server
    ⟨server, traffic.handlings.set index next⟩

/-- Lets handlings take their steps in the order of a schedule. -/
def run (methods : Methods σ) (traffic : Traffic σ) (schedule : List Nat) : Traffic σ :=
  schedule.foldl (step methods) traffic

end Traffic

end ContainerConstruction
