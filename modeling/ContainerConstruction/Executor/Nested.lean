import ContainerConstruction.Executor

/-!
# Submissions from inside

Work may itself submit work, to the same worker.  A thread that is not the worker puts what it submits at the
end of the queue and waits for the reply.  The worker cannot wait for itself: it does what is submitted to it
from inside at once and in place, and what submitted it is among its callers until it returns.

`Threads.step` is one move of one thread, and `Threads.run` the moves of any threads in any order.  A thread
that submits holds the executor meanwhile, so that the worker is there to reply.
-/

namespace ContainerConstruction

/-- Work that may ask where it runs and may submit other work.  All of it gives values of one type; where jobs
give values of several types, that is their sum. -/
inductive Work (α : Type) where
  | returns (value : α)
  | panics (panic : Panic)
  /-- Asks whether it runs on the worker. -/
  | asks (next : Bool → Work α)
  /-- Submits other work and goes on with what that submission gives. -/
  | submits (inner : Work α) (next : Except Failure α → Work α)

namespace Work

variable {α : Type}

/-- Submits fallible work and goes on with its result, in which the failure of the work and that of the
submission are one. -/
def runs (inner : Work (Except Failure α)) (next : Except Failure α → Work (Except Failure α)) :
    Work (Except Failure α) :=
  .submits inner fun result ↦ next (Executor.flattened result)

end Work

namespace Job

mutual

/-- A job as work, in which the jobs inside are submitted. -/
def work {α : Type} : Job α → Work (Except Failure α)
  | .value given => .returns (.ok given)
  | .failure cause => .returns (.error cause)
  | .panic reason => .panics reason
  | .thread describe => .asks fun onWorker ↦ .returns (.ok (describe onWorker))
  | .nested inner combine => workAll inner fun results ↦ .returns (.ok (combine results))

/-- Submits jobs one after the other and goes on with their results. -/
def workAll {α : Type} :
    List (Job α) → (List (Except Failure α) → Work (Except Failure α)) → Work (Except Failure α)
  | [], next => next []
  | job :: rest, next => job.work.runs fun result ↦ workAll rest fun results ↦ next (result :: results)

end

end Job

/-- Work that has submitted other work and has not heard of it yet. -/
structure Caller (α : Type) where
  /-- The work that was submitted. -/
  inner : Work α
  next : Except Failure α → Work α

/-- What a thread is at.  It does either a job from the queue, by its number, or what it was started for. -/
inductive Activity (α : Type) where
  /-- It waits for the next job of the queue. -/
  | free
  | busy (job : Option Nat) (work : Work α) (callers : List (Caller α))
  /-- It waits for the reply to what it has put in the queue. -/
  | awaits (job : Option Nat) (number : Nat) (caller : Caller α) (callers : List (Caller α))
  | ended (outcome : Outcome α)

/-- What happens in work. -/
inductive Happening (α : Type) where
  /-- It was told whether it runs on the worker. -/
  | told (onWorker : Bool)
  /-- It has submitted other work, which is done in place. -/
  | entered (inner : Work α)
  /-- It has submitted other work, which is in the queue. -/
  | enqueued (inner : Work α) (number : Nat)
  /-- The submission of other work has given a result. -/
  | gave (inner : Work α) (result : Except Failure α)

/-- What has happened, on which thread and in which job. -/
structure Entry (α : Type) where
  thread : Nat
  job : Option Nat
  happening : Happening α

/-- The threads around one executor. -/
structure Threads (α : Type) where
  doing : Nat → Activity α
  /-- All work that was put in the queue, in order; the number of a submission is its place. -/
  submitted : List (Work α)
  /-- What the worker has not taken up yet, with the numbers. -/
  queue : List (Work α × Nat)
  /-- The reply to each submission, once it was sent. -/
  replies : Nat → Option (Except Failure α)
  log : List (Entry α)

namespace Threads

variable {α : Type}

/-- Threads with work of their own, around a worker that waits for its first job. -/
def start (worker : Nat) (programs : Nat → Work α) : Threads α where
  doing thread := if thread = worker then .free else .busy none (programs thread) []
  submitted := []
  queue := []
  replies _ := none
  log := []

/-- Makes a thread be at something. -/
def turn (threads : Threads α) (thread : Nat) (activity : Activity α) : Threads α :=
  { threads with doing other := if other = thread then activity else threads.doing other }

/-- A thread goes on after something has happened. -/
def goOn (threads : Threads α) (thread : Nat) (job : Option Nat) (happening : Happening α)
    (activity : Activity α) : Threads α :=
  { threads.turn thread activity with log := threads.log ++ [⟨thread, job, happening⟩] }

/-- All that a thread has to do is at its end.  If that was a job, a panic was caught and the reply is sent. -/
def finish (threads : Threads α) (thread : Nat) (outcome : Outcome α) : Option Nat → Threads α
  | none => threads.turn thread (.ended outcome)
  | some number =>
    { threads.turn thread .free with
      replies other := if other = number then some (Executor.submitted outcome) else threads.replies other }

/-- A thread submits work.  The worker does it in place, and another thread puts it in the queue. -/
def submit (worker : Nat) (threads : Threads α) (thread : Nat) (job : Option Nat) (caller : Caller α)
    (callers : List (Caller α)) : Threads α :=
  if thread = worker then
    threads.goOn thread job (.entered caller.inner) (.busy job caller.inner (caller :: callers))
  else
    let number := threads.submitted.length
    let waiting := threads.goOn thread job (.enqueued caller.inner number) (.awaits job number caller callers)
    { waiting with
      submitted := threads.submitted ++ [caller.inner]
      queue := threads.queue ++ [(caller.inner, number)] }

/-- Makes one move of a thread, if it can make one. -/
def step (worker : Nat) (threads : Threads α) (thread : Nat) : Option (Threads α) :=
  match threads.doing thread with
  | .ended _ => none
  | .free =>
    match threads.queue with
    | [] => none
    | (work, number) :: rest => some { threads.turn thread (.busy (some number) work []) with queue := rest }
  | .awaits job number caller callers =>
    (threads.replies number).map fun result ↦
      threads.goOn thread job (.gave caller.inner result) (.busy job (caller.next result) callers)
  | .busy job (.returns value) [] => some (threads.finish thread (.returned value) job)
  | .busy job (.returns value) (caller :: callers) =>
    some (threads.goOn thread job (.gave caller.inner (.ok value)) (.busy job (caller.next (.ok value)) callers))
  | .busy job (.panics panic) _ => some (threads.finish thread (.panicked panic) job)
  | .busy job (.asks next) callers =>
    let onWorker := decide (thread = worker)
    some (threads.goOn thread job (.told onWorker) (.busy job (next onWorker) callers))
  | .busy job (.submits inner next) callers => some (threads.submit worker thread job ⟨inner, next⟩ callers)

/-- Makes moves of threads one after the other, if all of them can be made. -/
def run (worker : Nat) (threads : Threads α) (movers : List Nat) : Option (Threads α) :=
  movers.foldlM (step worker) threads

end Threads

end ContainerConstruction
