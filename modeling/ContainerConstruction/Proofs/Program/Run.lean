import ContainerConstruction.Program

/-!
# Runs of programs

`Program.Runs` says all that can be seen of a run on a machine: the calls with their answers, the outcome and
the state in the end.  There is one rule for each way to put programs together, also for programs that may
fail.  `Program.interpret` runs a program where not every call is answered.
-/

namespace ContainerConstruction

variable {I : Interface} {σ α β ε : Type}

namespace Machine

variable (machine : Machine I σ)

/-- Makes calls one after the other, whatever the answers. -/
def perform : List I.Call → σ → List (Event I) × σ
  | [], state => ([], state)
  | call :: rest, state =>
    let (answer, state) := machine.answer call state
    let (events, state) := perform rest state
    (⟨call, answer⟩ :: events, state)

def after (calls : List I.Call) (state : σ) : σ := (machine.perform calls state).2

theorem after_append (first second : List I.Call) (state : σ) :
    machine.after (first ++ second) state = machine.after second (machine.after first state) := by
  induction first generalizing state with
  | nil => rfl
  | cons call rest ih => exact ih (machine.answer call state).2

theorem map_call_perform (calls : List I.Call) (state : σ) :
    (machine.perform calls state).1.map (·.call) = calls := by
  induction calls generalizing state with
  | nil => rfl
  | cons call rest ih => exact congrArg (call :: ·) (ih (machine.answer call state).2)

end Machine

namespace Program

def calls (machine : Machine I σ) (program : Program I α) (state : σ) : List I.Call :=
  (program.trace machine state).map (·.call)

/-- A program that is run from a state makes the calls of the events, with their answers, and ends with an
outcome and a state. -/
structure Runs (machine : Machine I σ) (program : Program I α) (state : σ) (events : List (Event I))
    (outcome : Outcome α) (after : σ) : Prop where
  run_eq : program.run machine state = (outcome, after)
  trace_eq : program.trace machine state = events

/-- Runs a program in any monad that answers its calls, also one in which a call may give no answer. -/
def interpret {m : Type → Type} [Monad m] (answer : (call : I.Call) → m (I.Answer call)) :
    Program I α → m (Outcome α)
  | .done value => pure (.returned value)
  | .panics panic => pure (.panicked panic)
  | .call question next => answer question >>= fun reply ↦ (next reply).interpret answer

variable {machine : Machine I σ} {program : Program I α} {state between after : σ}
  {events later : List (Event I)}

theorem runs_self (machine : Machine I σ) (program : Program I α) (state : σ) :
    Runs machine program state (program.trace machine state) (program.run machine state).1
      (program.run machine state).2 := ⟨rfl, rfl⟩

theorem Runs.calls_eq {outcome : Outcome α} (h : Runs machine program state events outcome after) :
    program.calls machine state = events.map (·.call) := by
  rw [calls, h.trace_eq]

theorem Runs.call {question : I.Call} {next : I.Answer question → Program I α} {outcome : Outcome α}
    (h : Runs machine (next (machine.answer question state).1) (machine.answer question state).2 events outcome
      after) :
    Runs machine (.call question next) state (⟨question, (machine.answer question state).1⟩ :: events) outcome
      after where
  run_eq := h.run_eq
  trace_eq := congrArg (List.cons _) h.trace_eq

/-- Every answer in a trace is one that the machine gives. -/
theorem answer_of_mem_trace {event : Event I} (h : event ∈ program.trace machine state) :
    ∃ now, event.answer = (machine.answer event.call now).1 := by
  induction program generalizing state with
  | done value => cases h
  | panics panic => cases h
  | call question next ih =>
    obtain rfl | hlater := List.mem_cons.mp h
    · exact ⟨state, rfl⟩
    · exact ih _ hlater

/-- A program that is run on a part of a state leaves the rest of it as it is. -/
theorem run_onPart {τ : Type} (part : τ → σ) (replace : σ → τ → τ) (machine : Machine I σ)
    (hpart : ∀ inner outer, part (replace inner outer) = inner)
    (hself : ∀ outer, replace (part outer) outer = outer)
    (hreplace : ∀ first second outer, replace second (replace first outer) = replace second outer)
    (program : Program I α) (outer : τ) :
    program.run (machine.onPart part replace) outer =
      ((program.run machine (part outer)).1, replace (program.run machine (part outer)).2 outer) := by
  induction program generalizing outer with
  | done value => exact congrArg (Prod.mk _) (hself outer).symm
  | panics panic => exact congrArg (Prod.mk _) (hself outer).symm
  | call question next ih =>
    have hrest := ih (machine.answer question (part outer)).1
      (replace (machine.answer question (part outer)).2 outer)
    rw [hpart, hreplace] at hrest
    exact hrest

/-! ## Programs after programs -/

theorem bind_done (program : Program I α) : program.bind done = program := by
  induction program with
  | done value => rfl
  | panics panic => rfl
  | call question next ih => exact congrArg (call question) (funext ih)

theorem bind_assoc {γ : Type} (program : Program I α) (first : α → Program I β) (second : β → Program I γ) :
    (program.bind first).bind second = program.bind fun value ↦ (first value).bind second := by
  induction program with
  | done value => rfl
  | panics panic => rfl
  | call question next ih => exact congrArg (call question) (funext ih)

instance : LawfulMonad (Program I) := LawfulMonad.mk' (Program I) bind_done (fun _ _ ↦ rfl) bind_assoc

theorem interpret_ask_bind {m : Type → Type} [Monad m] (answer : (call : I.Call) → m (I.Answer call))
    (call : I.Call) (next : I.Answer call → Program I α) :
    (ask call >>= next).interpret answer = answer call >>= fun reply ↦ (next reply).interpret answer := rfl

/-- What is done after a value comes after what gave it, and nothing comes after a panic. -/
theorem trace_bind (machine : Machine I σ) (program : Program I α) (next : α → Program I β) (state : σ) :
    (program.bind next).trace machine state = program.trace machine state ++
      match program.run machine state with
      | (.returned value, after) => (next value).trace machine after
      | (.panicked _, _) => [] := by
  induction program generalizing state with
  | done value => rfl
  | panics panic => rfl
  | call question following ih => exact congrArg (List.cons _) (ih _ _)

/-- A run goes on with the value of the program before. -/
theorem Runs.bind {value : α} {outcome : Outcome β}
    (h : Runs machine program state events (.returned value) between) (next : α → Program I β)
    (hnext : Runs machine (next value) between later outcome after) :
    Runs machine (program.bind next) state (events ++ later) outcome after where
  run_eq := by
    rw [run_bind, h.run_eq]
    exact hnext.run_eq
  trace_eq := by
    rw [trace_bind, h.run_eq, h.trace_eq]
    exact congrArg (events ++ ·) hnext.trace_eq

/-- A panic ends the whole. -/
theorem Runs.bind_panicked {panic : Panic} (h : Runs machine program state events (.panicked panic) after)
    (next : α → Program I β) : Runs machine (program.bind next) state events (.panicked panic) after where
  run_eq := by rw [run_bind, h.run_eq]
  trace_eq := by rw [trace_bind, h.run_eq, h.trace_eq, List.append_nil]

/-- A run whose outcome is caught. -/
theorem Runs.attempt {outcome : Outcome α} (h : Runs machine program state events outcome after) :
    Runs machine program.attempt state events (.returned outcome) after := by
  obtain ⟨hrun, htrace⟩ := h
  induction program generalizing state events with
  | done value =>
    cases hrun
    exact ⟨rfl, htrace⟩
  | panics panic =>
    cases hrun
    exact ⟨rfl, htrace⟩
  | call question next ih =>
    obtain ⟨hrest, htraceRest⟩ := ih _ hrun rfl
    exact ⟨hrest, (congrArg (List.cons _) htraceRest).trans htrace⟩

/-! ## Programs that return -/

/-- Whatever is answered, a program returns, and its calls and its value are as described. -/
def Yields (program : Program I α) (post : List (Event I) → α → Prop) : Prop :=
  ∀ ⦃σ : Type⦄ (machine : Machine I σ) (state : σ), ∃ events value after,
    Runs machine program state events (.returned value) after ∧ post events value

theorem yields_done {value : α} {post : List (Event I) → α → Prop} (h : post [] value) :
    (done value : Program I α).Yields post :=
  fun _ _ state ↦ ⟨[], value, state, ⟨rfl, rfl⟩, h⟩

theorem yields_call {question : I.Call} {next : I.Answer question → Program I α}
    {post : List (Event I) → α → Prop}
    (h : ∀ answer, (next answer).Yields fun events value ↦ post (⟨question, answer⟩ :: events) value) :
    (call question next).Yields post := by
  intro σ machine state
  obtain ⟨events, value, after, ⟨hrun, htrace⟩, hpost⟩ :=
    h (machine.answer question state).1 machine (machine.answer question state).2
  exact ⟨_, value, after, ⟨hrun, congrArg (List.cons _) htrace⟩, hpost⟩

theorem Yields.mono {program : Program I α} {post weaker : List (Event I) → α → Prop}
    (h : program.Yields post) (hweaker : ∀ events value, post events value → weaker events value) :
    program.Yields weaker := by
  intro σ machine state
  obtain ⟨events, value, after, hruns, hpost⟩ := h machine state
  exact ⟨events, value, after, hruns, hweaker events value hpost⟩

theorem Yields.attempt {program : Program I α} {post : List (Event I) → Outcome α → Prop}
    (h : program.Yields fun events value ↦ post events (.returned value)) :
    program.attempt.Yields post := by
  intro σ machine state
  obtain ⟨events, value, after, hruns, hpost⟩ := h machine state
  exact ⟨events, .returned value, after, hruns.attempt, hpost⟩

/-- What a program yields is followed by what comes of its value. -/
theorem Yields.andThen {program : Program I α} {next : α → Program I β} {post : List (Event I) → β → Prop}
    (h : program.Yields fun events value ↦
      (next value).Yields fun later result ↦ post (events ++ later) result) :
    (program.bind next).Yields post := by
  intro σ machine state
  obtain ⟨events, value, between, hruns, hnext⟩ := h machine state
  obtain ⟨later, result, after, hlater, hpost⟩ := hnext machine between
  exact ⟨events ++ later, result, after, hruns.bind next hlater, hpost⟩

/-! ## Programs that may fail -/

theorem runs_pure (machine : Machine I σ) (value : α) (state : σ) :
    Runs machine (pure value : ExceptT ε (Program I) α).run state [] (.returned (.ok value)) state :=
  ⟨rfl, rfl⟩

theorem runs_throw (machine : Machine I σ) (error : ε) (state : σ) :
    Runs machine (throw error : ExceptT ε (Program I) α).run state [] (.returned (.error error)) state :=
  ⟨rfl, rfl⟩

theorem Runs.lift {value : α} (h : Runs machine program state events (.returned value) after) :
    Runs machine (ExceptT.lift program : ExceptT ε (Program I) α).run state events
      (.returned (.ok value)) after := by
  have hvalue : Runs machine (.done (.ok value) : Program I (Except ε α)) after []
      (.returned (.ok value)) after := ⟨rfl, rfl⟩
  have hlift := h.bind (fun value ↦ .done (Except.ok value : Except ε α)) hvalue
  rw [List.append_nil] at hlift
  exact hlift

variable {first : ExceptT ε (Program I) α} {next : α → ExceptT ε (Program I) β}

theorem Runs.bind_ok {value : α} {outcome : Outcome (Except ε β)}
    (h : Runs machine first.run state events (.returned (.ok value)) between)
    (hnext : Runs machine (next value).run between later outcome after) :
    Runs machine (first >>= next).run state (events ++ later) outcome after :=
  h.bind _ hnext

/-- Going on without further calls. -/
theorem Runs.bind_ok_quiet {value : α} {outcome : Outcome (Except ε β)}
    (h : Runs machine first.run state events (.returned (.ok value)) between)
    (hnext : Runs machine (next value).run between [] outcome after) :
    Runs machine (first >>= next).run state events outcome after := by
  have hboth := h.bind_ok hnext
  rw [List.append_nil] at hboth
  exact hboth

theorem Runs.bind_error {error : ε}
    (h : Runs machine first.run state events (.returned (.error error)) after)
    (next : α → ExceptT ε (Program I) β) :
    Runs machine (first >>= next).run state events (.returned (.error error)) after := by
  have herror : Runs machine (.done (.error error) : Program I (Except ε β)) after []
      (.returned (.error error)) after := ⟨rfl, rfl⟩
  have hbind := Runs.bind h (ExceptT.bindCont next) herror
  rw [List.append_nil] at hbind
  exact hbind

/-- What comes of a run when its value is taken further. -/
theorem Runs.map_value {outcome : Outcome (Except ε α)} (h : Runs machine first.run state events outcome after)
    (f : α → β) :
    Runs machine (do return f (← first) : ExceptT ε (Program I) β).run state events
      (outcome.map (·.map f)) after := by
  rcases outcome with (error | value) | panic
  · exact h.bind_error _
  · exact h.bind_ok_quiet (runs_pure machine (f value) after)
  · exact h.bind_panicked _

theorem Runs.lift_bind_panicked {panic : Panic}
    (h : Runs machine program state events (.panicked panic) after) (next : α → ExceptT ε (Program I) β) :
    Runs machine (ExceptT.lift program >>= next).run state events (.panicked panic) after :=
  (h.bind_panicked _).bind_panicked _

theorem Yields.bind {post : List (Event I) → Except ε β → Prop}
    (h : first.run.Yields fun events result ↦
      match result with
      | .ok value => (next value).run.Yields fun later result ↦ post (events ++ later) result
      | .error error => post events (.error error)) :
    (first >>= next).run.Yields post := by
  intro σ machine state
  obtain ⟨events, result, between, hruns, hnext⟩ := h machine state
  cases result with
  | error error => exact ⟨events, .error error, between, hruns.bind_error next, hnext⟩
  | ok value =>
    obtain ⟨later, result, after, hlater, hpost⟩ := hnext machine between
    exact ⟨events ++ later, result, after, hruns.bind_ok hlater, hpost⟩

theorem yields_ite {c : Prop} [Decidable c] {second : ExceptT ε (Program I) α}
    {post : List (Event I) → Except ε α → Prop} (hfirst : c → first.run.Yields post)
    (hsecond : ¬c → second.run.Yields post) : (if c then first else second).run.Yields post := by
  by_cases h : c
  · simpa only [h, if_true] using hfirst h
  · simpa only [h, if_false] using hsecond h

end Program

end ContainerConstruction
