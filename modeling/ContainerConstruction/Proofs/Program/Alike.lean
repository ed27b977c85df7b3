import ContainerConstruction.Proofs.Program.Run
import Mathlib.Data.List.Forall2

/-!
# Programs that are alike

What is said of two runs at once, such as that a secret makes no difference to what is seen of them, is proved by
going through two programs side by side.  `Program.Alike` says that they make calls that are like each other for as
long as they get answers that agree, and `Program.Alike.runs` takes that to their runs, on two machines that need have
nothing in common.  There is one rule for each way to put programs together.
-/

namespace ContainerConstruction

variable {I : Interface} {σ τ α β γ δ ε : Type}

/-- Results that are the same failure, or values that belong together. -/
inductive SameResult (same : α → β → Prop) : Except ε α → Except ε β → Prop where
  | error (error : ε) : SameResult same (.error error) (.error error)
  | ok {value : α} {other : β} (h : same value other) : SameResult same (.ok value) (.ok other)

namespace Program

/-- As long as the answers to two programs agree, each call of the one is like the call of the other, neither panics,
and the values that they return belong together. -/
inductive Alike (agree : Event I → Event I → Prop) (like : I.Call → I.Call → Prop) (same : α → β → Prop) :
    Program I α → Program I β → Prop where
  | done {value : α} {other : β} (h : same value other) : Alike agree like same (.done value) (.done other)
  | call {question otherQuestion : I.Call} {next : I.Answer question → Program I α}
    {otherNext : I.Answer otherQuestion → Program I β} (hlike : like question otherQuestion)
    (hnext : ∀ answer otherAnswer, agree ⟨question, answer⟩ ⟨otherQuestion, otherAnswer⟩ →
      Alike agree like same (next answer) (otherNext otherAnswer)) :
    Alike agree like same (.call question next) (.call otherQuestion otherNext)

namespace Alike

variable {agree : Event I → Event I → Prop} {like : I.Call → I.Call → Prop} {same : α → β → Prop}
  {following : γ → δ → Prop} {first : Program I α} {second : Program I β}

theorem bind {next : α → Program I γ} {otherNext : β → Program I δ} (h : Alike agree like same first second)
    (hnext : ∀ value other, same value other → Alike agree like following (next value) (otherNext other)) :
    Alike agree like following (first.bind next) (second.bind otherNext) := by
  induction h with
  | done hsame => exact hnext _ _ hsame
  | call hlike _ ih => exact .call hlike ih

/-- Neither panics, so there is nothing to catch. -/
theorem attempt (h : Alike agree like same first second) :
    Alike agree like
      (fun outcome other ↦ ∃ v w, outcome = .returned v ∧ other = .returned w ∧ same v w)
      first.attempt second.attempt := by
  induction h with
  | done hsame => exact .done ⟨_, _, rfl, rfl, hsame⟩
  | call hlike _ ih => exact .call hlike ih

/-- Two runs in which the answers agree make calls that are like each other, and return values that belong
together. -/
theorem runs (h : Alike agree like same first second) (machine : Machine I σ) (state : σ) (other : Machine I τ)
    (otherState : τ)
    (hagree : ∀ pair ∈ (first.trace machine state).zip (second.trace other otherState), agree pair.1 pair.2) :
    List.Forall₂ like (first.calls machine state) (second.calls other otherState) ∧
      ∃ v w, (first.run machine state).1 = .returned v ∧ (second.run other otherState).1 = .returned w ∧
        same v w := by
  induction h generalizing state otherState with
  | done hsame => exact ⟨.nil, _, _, rfl, rfl, hsame⟩
  | call hlike _ ih =>
    obtain ⟨hhead, hrest⟩ := List.forall_mem_cons.mp hagree
    obtain ⟨hcalls, hreturned⟩ := ih _ _ hhead _ _ hrest
    exact ⟨.cons hlike hcalls, hreturned⟩

/-! ## Programs that may fail -/

theorem lift (h : Alike agree like same first second) :
    Alike agree like (SameResult same) (ExceptT.lift first : ExceptT ε (Program I) α).run
      (ExceptT.lift second : ExceptT ε (Program I) β).run :=
  h.bind fun _ _ hsame ↦ .done (.ok hsame)

theorem bind_run {work : ExceptT ε (Program I) α} {other : ExceptT ε (Program I) β}
    {next : α → ExceptT ε (Program I) γ} {otherNext : β → ExceptT ε (Program I) δ}
    (h : Alike agree like (SameResult same) work.run other.run)
    (hnext : ∀ v w, same v w → Alike agree like (SameResult following) (next v).run (otherNext w).run) :
    Alike agree like (SameResult following) (work >>= next).run (other >>= otherNext).run := by
  refine h.bind fun result otherResult hresult ↦ ?_
  cases hresult with
  | error error => exact .done (.error error)
  | ok hsame => exact hnext _ _ hsame

end Alike

end Program

end ContainerConstruction
