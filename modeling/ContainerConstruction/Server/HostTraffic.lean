import ContainerConstruction.Executor.Queue
import ContainerConstruction.Server.Basic
import ContainerConstruction.Server.HostMethods

/-!
# Concurrent requests on the host

Several callers ask a server with the operations on the host at the same time.  Every call to the kernel
is a step of its own here: the thread that serves a request hands its operation to the affinity worker and
waits for the reply, or does the operation itself, call by call, if an encrypted device is opened.

`HostTraffic.run` takes the steps of the serving threads and of the worker in any order.
-/

namespace ContainerConstruction

namespace Request

/-- An operation with its reply. -/
def replying {α : Type} (make : α → Reply) (operation : Operation α) : Operation Reply := do
  return make (← operation)

def operation : Request → Operation Reply
  | .mount args => replying (fun _ ↦ .unit) args.perform
  | .decrypt args => replying .crypt args.perform
  | .mkdir args => replying (fun _ ↦ .unit) args.perform
  | .chroot args => replying (fun _ ↦ .unit) args.perform
  | .loopDevice args => replying .loop args.perform
  | .setHostname args => replying (fun _ ↦ .unit) args.perform
  | .setFsId args => replying (fun _ ↦ .unit) args.perform
  | .chdir args => replying (fun _ ↦ .unit) args.perform

/-- Making the reply of an operation is no step of its own. -/
theorem run_replying {α σ : Type} (make : α → Reply) (operation : Operation α) (machine : Machine Kernel σ)
    (state : σ) :
    Program.run machine (replying make operation).run state =
      let (outcome, after) := Program.run machine operation.run state
      (outcome.map fun result ↦ result.map make, after) := by
  change Program.run machine (Program.bind operation.run _) state = _
  rw [Program.run_bind]
  rcases Program.run machine operation.run state with ⟨_ | _, after⟩
  · rename_i result
    cases result <;> rfl
  · rfl

/-- The methods of the host do the operation of a request: the one that opens an encrypted device on the
thread that serves the request, and every other one on the worker. -/
theorem dispatch_ofMachine {σ : Type} (worker caller : Machine Kernel σ) (request : Request) (state : σ) :
    (HostMethods.ofMachine worker caller).dispatch request state =
      if request.isDecrypt then Program.run caller request.operation.run state
      else
        let (outcome, after) := Program.run worker request.operation.run state
        (.returned (Executor.settle outcome), after) := by
  have settle_map {α : Type} (make : α → Reply) (outcome : Outcome (Except Failure α)) :
      Executor.settle (outcome.map fun result ↦ result.map make) =
        (Executor.settle outcome).map make := by
    cases outcome <;> rfl
  cases request <;>
    simp [Methods.dispatch, Methods.reply, HostMethods.ofMachine, HostMethods.onWorker,
      HostMethods.onCaller, Request.isDecrypt, Request.operation, run_replying, settle_map]

end Request

/-- How far the handling of a request on the host has got. -/
inductive HostProgress where
  | arrived
  /-- The server was poisoned when the flag was looked at. -/
  | refused
  /-- The server was not poisoned when the flag was looked at. -/
  | admitted
  /-- The worker has been handed the operation, under a number. -/
  | waiting (number : Nat)
  /-- The serving thread does the operation itself, and this is left of it. -/
  | performing (left : Program Kernel (Except Failure Reply))
  | performed (result : Except Failure Reply)
  /-- The flag has been set, if the result asks for that. -/
  | recorded (result : Except Failure Reply)
  | answered (response : Response)

/-- A request while it is handled on the host. -/
structure HostHandling where
  request : Request
  progress : HostProgress

/-- A server on the host with the requests that it has been sent.  The state of the kernel is that of the
worker. -/
structure HostTraffic (σ : Type) where
  poisoned : Bool
  handlings : List HostHandling
  worker : Worker Kernel σ (Except Failure Reply)

/-- A step of a serving thread or of the worker. -/
inductive HostMove where
  /-- The thread that serves the request with this number gets on. -/
  | serve (index : Nat)
  /-- The worker takes up an operation. -/
  | begin
  /-- The worker makes a call. -/
  | call
  /-- The worker sends a reply. -/
  | finish
  deriving DecidableEq, Repr

namespace HostTraffic

variable {σ : Type}

def ofRequests (poisoned : Bool) (requests : List Request) (state : σ) : HostTraffic σ :=
  ⟨poisoned, requests.map fun request ↦ ⟨request, .arrived⟩, .idle state⟩

/-- Notes how far a handling has got. -/
def reach (index : Nat) (request : Request) (progress : HostProgress) (traffic : HostTraffic σ) :
    HostTraffic σ :=
  { traffic with handlings := traffic.handlings.set index ⟨request, progress⟩ }

def withWorker (traffic : HostTraffic σ) (worker : Worker Kernel σ (Except Failure Reply)) :
    HostTraffic σ :=
  { traffic with worker := worker }

/-- Begins the operation of a request where it belongs. -/
def undertake (workerMachine : Machine Kernel σ) (index : Nat) (request : Request)
    (traffic : HostTraffic σ) : Option (HostTraffic σ) :=
  if request.isDecrypt then some (traffic.reach index request (.performing request.operation.run))
  else
    (traffic.worker.step workerMachine (.enqueue request.operation.run)).map fun worker ↦
      (traffic.withWorker worker).reach index request (.waiting traffic.worker.submitted.length)

/-- Receives the reply of the worker. -/
def receive (workerMachine : Machine Kernel σ) (index number : Nat) (request : Request)
    (traffic : HostTraffic σ) : Option (HostTraffic σ) :=
  match traffic.worker.replies.lookup number, traffic.worker.step workerMachine (.receive number) with
  | some reply, some worker =>
    some ((traffic.withWorker worker).reach index request (.performed (Executor.flattened reply)))
  | _, _ => none

/-- Makes the next call of an operation that the serving thread does itself. -/
def perform (caller : Machine Kernel σ) (index : Nat) (request : Request) (traffic : HostTraffic σ) :
    Program Kernel (Except Failure Reply) → HostTraffic σ
  | .done result => traffic.reach index request (.performed result)
  | .panics panic =>
    traffic.reach index request (.performed (.error (Server.taskFailure request.method panic)))
  | .call question next =>
    let (answer, state) := caller.answer question traffic.worker.state
    (traffic.withWorker { traffic.worker with state := state }).reach index request
      (.performing (next answer))

/-- Takes the next step of a handling, if it can get on. -/
def serve (workerMachine caller : Machine Kernel σ) (index : Nat) (traffic : HostTraffic σ) :
    Option (HostTraffic σ) :=
  match traffic.handlings[index]? with
  | none => none
  | some ⟨request, progress⟩ =>
    match progress with
    | .arrived =>
      some (traffic.reach index request (if traffic.poisoned then .refused else .admitted))
    | .refused =>
      some (traffic.reach index request (.answered (.ofFailure (Server.refusal request))))
    | .admitted => traffic.undertake workerMachine index request
    | .waiting number => traffic.receive workerMachine index number request
    | .performing left => some (traffic.perform caller index request left)
    | .performed result =>
      some ({ traffic with poisoned := traffic.poisoned || Server.poisons request result }.reach index
        request (.recorded result))
    | .recorded result => some (traffic.reach index request (.answered (.ofResult result)))
    | .answered _ => none

/-- Takes one step, if it can be taken. -/
def step (workerMachine caller : Machine Kernel σ) (traffic : HostTraffic σ) :
    HostMove → Option (HostTraffic σ)
  | .serve index => traffic.serve workerMachine caller index
  | .begin => (traffic.worker.step workerMachine .begin).map traffic.withWorker
  | .call => (traffic.worker.step workerMachine .call).map traffic.withWorker
  | .finish => (traffic.worker.step workerMachine .finish).map traffic.withWorker

/-- Takes steps one after the other, if all of them can be taken. -/
def run (workerMachine caller : Machine Kernel σ) (traffic : HostTraffic σ) (moves : List HostMove) :
    Option (HostTraffic σ) :=
  moves.foldlM (step workerMachine caller) traffic

end HostTraffic

end ContainerConstruction
