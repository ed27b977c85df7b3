/-!
# Programs over an interface

A `Program` is a computation whose only way to the outside is to make calls and to go on with the
answers.  Nothing is said here about who answers: a `Machine` does, and a statement about a program for
every answer is a statement for every machine.  A program may also panic; `attempt` is the only way to
go on after a panic.

`Program.trace` lists the calls that were made, with their answers.
-/

namespace ContainerConstruction

/-! ## Outcomes -/

/-- What a panic leaves: its message, if it is a text. -/
structure Panic where
  message : Option String
  deriving DecidableEq, Repr

inductive Outcome (α : Type) where
  | returned (value : α)
  | panicked (panic : Panic)
  deriving Repr

namespace Outcome

def map {α β : Type} (f : α → β) : Outcome α → Outcome β
  | .returned value => .returned (f value)
  | .panicked panic => .panicked panic

@[simp]
theorem map_returned {α β : Type} (f : α → β) (value : α) :
    (returned value).map f = returned (f value) := rfl

end Outcome

/-! ## Programs -/

/-- The calls that can be made, and the form of the answer to each. -/
structure Interface where
  Call : Type
  Answer : Call → Type

/-- A computation that makes calls of an interface. -/
inductive Program (I : Interface) (α : Type) where
  | done (value : α)
  | panics (panic : Panic)
  | call (call : I.Call) (next : I.Answer call → Program I α)

namespace Program

variable {I : Interface} {α β : Type}

/-- Goes on with the value of a program. -/
def bind (program : Program I α) (next : α → Program I β) : Program I β :=
  match program with
  | .done value => next value
  | .panics panic => .panics panic
  | .call question after => .call question fun answer ↦ (after answer).bind next

instance : Monad (Program I) where
  pure := .done
  bind := bind

def ask (call : I.Call) : Program I (I.Answer call) := .call call .done

/-- Goes on whether or not a program panics. -/
def attempt : Program I α → Program I (Outcome α)
  | .done value => .done (.returned value)
  | .panics panic => .done (.panicked panic)
  | .call question next => .call question fun answer ↦ (next answer).attempt

/-- Ends as an outcome says. -/
def ofOutcome : Outcome α → Program I α
  | .returned value => .done value
  | .panicked panic => .panics panic

end Program

/-! ## Machines -/

/-- Answers the calls of an interface, depending on a state. -/
structure Machine (I : Interface) (σ : Type) where
  answer : (call : I.Call) → σ → I.Answer call × σ

/-- A machine that works on a part of a larger state. -/
def Machine.onPart {I : Interface} {σ τ : Type} (part : τ → σ) (replace : σ → τ → τ)
    (machine : Machine I σ) : Machine I τ where
  answer call state :=
    let (answer, next) := machine.answer call (part state)
    (answer, replace next state)

/-- A call with its answer. -/
structure Event (I : Interface) where
  call : I.Call
  answer : I.Answer call

namespace Program

variable {I : Interface} {σ α : Type}

def run (machine : Machine I σ) : Program I α → σ → Outcome α × σ
  | .done value, state => (.returned value, state)
  | .panics panic, state => (.panicked panic, state)
  | .call question next, state =>
    let (answer, state) := machine.answer question state
    (next answer).run machine state

/-- A program that goes on with the value of another one is run after that one. -/
theorem run_bind {β : Type} (machine : Machine I σ) (program : Program I α) (next : α → Program I β)
    (state : σ) :
    (program.bind next).run machine state =
      match program.run machine state with
      | (.returned value, after) => (next value).run machine after
      | (.panicked panic, after) => (.panicked panic, after) := by
  induction program generalizing state with
  | done value => rfl
  | panics panic => rfl
  | call question after ih => exact ih _ _

/-- The calls that a run makes, in order. -/
def trace (machine : Machine I σ) : Program I α → σ → List (Event I)
  | .done _, _ => []
  | .panics _, _ => []
  | .call question next, state =>
    let (answer, state) := machine.answer question state
    ⟨question, answer⟩ :: (next answer).trace machine state

end Program

end ContainerConstruction
