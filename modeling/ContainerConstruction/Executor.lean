import ContainerConstruction.Failure
import ContainerConstruction.Program

/-!
# The affinity worker

Identity, namespaces and working directory belong to a thread, so all work on them is done by one
worker.  A panic of such work is caught where the work was submitted and becomes a failure.  Work that is
submitted from the worker itself is done at once and in place: there a panic goes on to the outermost
submission.

`Job` is the shape of work that submits further work, and `Job.submit` what a submission from outside
gives.
-/

namespace ContainerConstruction

namespace Executor

/-- What a submission from outside reports of a panic. -/
def panicFailure : Failure := .internal "work submitted to the affinity worker panicked"

/-- What a submission from outside gives. -/
def submitted {α : Type} : Outcome α → Except Failure α
  | .returned value => .ok value
  | .panicked _ => .error panicFailure

/-- What a submission of fallible work gives: the failure of the work and that of the submission are
one. -/
def flattened {α : Type} : Except Failure (Except Failure α) → Except Failure α
  | .ok result => result
  | .error failure => .error failure

/-- The result of fallible work that was submitted from outside. -/
def settle {α : Type} (outcome : Outcome (Except Failure α)) : Except Failure α :=
  flattened (submitted outcome)

end Executor

/-! ## Nested work -/

/-- Work for the worker.  A job gives a value, fails, panics, asks on which thread it runs, or submits
other jobs one after the other and puts their results together. -/
inductive Job (α : Type) where
  | value (value : α)
  | failure (failure : Failure)
  | panic (panic : Panic)
  | thread (describe : Bool → α)
  | nested (inner : List (Job α)) (combine : List (Except Failure α) → α)

namespace Job

mutual

/-- Does a job on the worker. -/
def run {α : Type} : Job α → Outcome (Except Failure α)
  | .value given => .returned (.ok given)
  | .failure cause => .returned (.error cause)
  | .panic reason => .panicked reason
  | .thread describe => .returned (.ok (describe true))
  | .nested inner combine => (runAll inner).map fun results ↦ .ok (combine results)

/-- Does jobs in place, one after the other, up to the first panic. -/
def runAll {α : Type} : List (Job α) → Outcome (List (Except Failure α))
  | [] => .returned []
  | job :: rest =>
    match run job with
    | .panicked reason => .panicked reason
    | .returned result => (runAll rest).map (result :: ·)

end

/-- What submitting a job from outside the worker gives. -/
def submit {α : Type} (job : Job α) : Except Failure α := Executor.settle job.run

end Job

end ContainerConstruction
