import ContainerConstruction.Executor

/-!
# The queue of the affinity worker

Any number of threads hand work to one worker.  A thread enqueues its work and waits for the reply that is
sent back to it alone; the worker takes the work from the front of the queue and does it call by call, so
that threads may enqueue more and receive replies in the meantime.

`Worker.step` is one move of the threads or of the worker, and `Worker.run` any sequence of moves.  Work is
a program over an interface, and a machine answers its calls.
-/

namespace ContainerConstruction

/-- Work that was handed to the worker, under the number of its submission. -/
structure Submission (I : Interface) (α : Type) where
  number : Nat
  work : Program I α

/-- A worker with the work it has been handed and the replies it has sent. -/
structure Worker (I : Interface) (σ α : Type) where
  /-- The state of the machine that answers the calls. -/
  state : σ
  /-- All work that was ever handed in, in order; the number of a submission is its place. -/
  submitted : List (Program I α)
  queue : List (Submission I α)
  /-- What is left of the work in progress. -/
  current : Option (Submission I α)
  /-- The numbers of the submissions that were taken up, in order. -/
  begun : List Nat
  /-- The replies that were sent and not yet received. -/
  replies : List (Nat × Except Failure α)
  /-- What the submitting threads have received. -/
  received : List (Nat × Except Failure α)

/-- A move of a thread or of the worker. -/
inductive WorkerMove (I : Interface) (α : Type) where
  /-- A thread hands work in. -/
  | enqueue (work : Program I α)
  /-- The worker takes up the first work of the queue. -/
  | begin
  /-- The worker makes the next call of the work in progress. -/
  | call
  /-- The worker sends the reply of work that has come to its end. -/
  | finish
  /-- A thread receives the reply to its submission. -/
  | receive (number : Nat)

namespace Worker

variable {I : Interface} {σ α : Type}

/-- A worker that nobody has asked for anything. -/
def idle (state : σ) : Worker I σ α := ⟨state, [], [], none, [], [], []⟩

/-- The outcome of a program that makes no further call. -/
def outcome? : Program I α → Option (Outcome α)
  | .done value => some (.returned value)
  | .panics panic => some (.panicked panic)
  | .call .. => none

/-- Makes one move, if it can be made. -/
def step (machine : Machine I σ) (worker : Worker I σ α) : WorkerMove I α → Option (Worker I σ α)
  | .enqueue work =>
    some { worker with
      submitted := worker.submitted ++ [work]
      queue := worker.queue ++ [⟨worker.submitted.length, work⟩] }
  | .begin =>
    match worker.current, worker.queue with
    | none, first :: rest =>
      some { worker with
        queue := rest
        current := some first
        begun := worker.begun ++ [first.number] }
    | _, _ => none
  | .call =>
    match worker.current with
    | some ⟨number, .call question next⟩ =>
      let (answer, state) := machine.answer question worker.state
      some { worker with state := state, current := some ⟨number, next answer⟩ }
    | _ => none
  | .finish =>
    match worker.current with
    | none => none
    | some ⟨number, work⟩ =>
      (outcome? work).map fun outcome ↦
        { worker with
          current := none
          replies := worker.replies ++ [(number, Executor.submitted outcome)] }
  | .receive number =>
    (worker.replies.lookup number).map fun reply ↦
      { worker with
        replies := worker.replies.filter (·.1 ≠ number)
        received := worker.received ++ [(number, reply)] }

/-- Makes moves one after the other, if all of them can be made. -/
def run (machine : Machine I σ) (worker : Worker I σ α) (moves : List (WorkerMove I α)) :
    Option (Worker I σ α) :=
  moves.foldlM (step machine) worker

/-- What becomes of work that is done piece after piece, with nothing between. -/
def serial (machine : Machine I σ) : List (Program I α) → σ → List (Except Failure α) × σ
  | [], state => ([], state)
  | work :: rest, state =>
    let (outcome, state) := work.run machine state
    let (replies, state) := serial machine rest state
    (Executor.submitted outcome :: replies, state)

end Worker

end ContainerConstruction
