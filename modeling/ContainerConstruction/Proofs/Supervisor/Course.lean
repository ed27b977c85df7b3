import ContainerConstruction.Proofs.Program.Run
import ContainerConstruction.Supervisor

/-!
# The course of a run

A run unfolds along one course: its phases in their order, with the process id that the fork gives and the
status that monitoring gives.  The first phase that fails ends it, and what is left to do then depends on that
phase alone.  `Supervisor.follows_run` says so for every machine.
-/

namespace ContainerConstruction

open Program (Yields yields_call yields_done)

/-! ## Phases that fail -/

/-- The failure in the answer to a phase.  A panic is one of the launch. -/
def Phase.failure? : (phase : Phase) → phase.Answer → Option Failure
  | .lookUp _, .error failure | .configure _, .error failure | .createNamespaces _, .error failure
  | .startServer, .error failure | .step _, .error failure | .stopServer, .error failure
  | .installSignals, .error failure | .openControl, .error failure | .fork, .error failure
  | .afterFork _, .returned (.error failure) | .release, .error failure
  | .monitor _, .returned (.error failure) | .cleanUp .., .error failure => some failure
  | .afterFork _, .panicked panic | .monitor _, .panicked panic => some (Supervisor.launchFailure panic)
  | _, _ => none

/-- Whether the engine has panicked in a phase. -/
def Phase.panicked : (phase : Phase) → phase.Answer → Bool
  | .afterFork _, .panicked _ | .monitor _, .panicked _ => true
  | _, _ => false

/-- The failure of a phase that was entered. -/
def Event.failure? (event : Event Lifecycle) : Option Failure := event.call.failure? event.answer

/-- Whether the engine has panicked in a phase that was entered. -/
def Event.panicked (event : Event Lifecycle) : Bool := event.call.panicked event.answer

/-- The fork gives the process id, and monitoring gives the status. -/
def Event.Agrees (pid : Nat) (status : WaitStatus) : Event Lifecycle → Prop
  | ⟨.fork, .ok given⟩ => given = pid
  | ⟨.monitor _, .returned (.ok given)⟩ => given = status
  | _ => True

/-- What is left to do when a phase has failed. -/
def Phase.recovery (pid : Nat) (failure : Failure) : Phase → List Phase
  | .createNamespaces _ | .stopServer | .monitor _ => [.cleanUp (some failure) none]
  | .step _ => [.stopServer, .cleanUp (some failure) none]
  | .afterFork _ | .release => [.kill pid, .collect pid, .cleanUp (some failure) none]
  | _ => []

/-- What is done after a phase that has failed: nothing, if the engine has panicked. -/
def Event.recovery (pid : Nat) (failure : Failure) (event : Event Lifecycle) : List Phase :=
  if event.panicked then [] else event.call.recovery pid failure

/-- After a panic no more is done than after another failure. -/
theorem Event.recovery_subset (pid : Nat) (failure : Failure) (event : Event Lifecycle) :
    event.recovery pid failure ⊆ event.call.recovery pid failure := by
  unfold recovery
  split
  · exact List.nil_subset _
  · exact List.Subset.refl _

/-! ## Unfolding along a course -/

/-- How a supervision unfolds along a course of phases: it succeeds in each of them and comes to its value, or
it fails in one and recovers. -/
inductive Unfolds {α : Type} (pid : Nat) (status : WaitStatus) (value : α) :
    List Phase → List (Event Lifecycle) → Except Failure α → Prop where
  | ended : Unfolds pid status value [] [] (.ok value)
  | failed {course : List Phase} {phase : Phase} {answer : phase.Answer} {failure : Failure}
      {recovery : List (Event Lifecycle)} (hfailure : phase.failure? answer = some failure)
      (hrecovery : recovery.map (·.call) = Event.recovery pid failure ⟨phase, answer⟩) :
      Unfolds pid status value (phase :: course) (⟨phase, answer⟩ :: recovery) (.error failure)
  | succeeded {course : List Phase} {phase : Phase} {answer : phase.Answer}
      {events : List (Event Lifecycle)} {result : Except Failure α}
      (hfailure : phase.failure? answer = none) (hagrees : Event.Agrees pid status ⟨phase, answer⟩)
      (hrest : Unfolds pid status value course events result) :
      Unfolds pid status value (phase :: course) (⟨phase, answer⟩ :: events) result

namespace Unfolds

variable {α β : Type} {pid : Nat} {status : WaitStatus} {value : α} {other : β} {course later : List Phase}
  {events next : List (Event Lifecycle)}

theorem append {result : Except Failure β} (h : Unfolds pid status value course events (.ok value))
    (hnext : Unfolds pid status other later next result) :
    Unfolds pid status other (course ++ later) (events ++ next) result := by
  generalize hok : Except.ok value = first at h
  induction h with
  | ended => exact hnext
  | failed => cases hok
  | succeeded hfailure hagrees _ ih => exact .succeeded hfailure hagrees (ih hok)

theorem append_of_error {failure : Failure} (h : Unfolds pid status value course events (.error failure))
    (other : β) (later : List Phase) :
    Unfolds pid status other (course ++ later) events (.error failure) := by
  generalize herror : Except.error failure = first at h
  induction h with
  | ended => cases herror
  | failed hfailure hrecovery =>
    cases herror
    exact .failed hfailure hrecovery
  | succeeded hfailure hagrees _ ih => exact .succeeded hfailure hagrees (ih herror)

end Unfolds

namespace Supervisor

/-- The phases of a construction. -/
def courseOfConstruction (plan : ConstructionPlan) : List Phase :=
  .startServer :: (plan.steps.map .step ++ [.stopServer])

/-- The phases after a fork. -/
def courseOfProcess (pid : Nat) (status : WaitStatus) : List Phase :=
  [.afterFork pid, .release, .monitor pid, .cleanUp none (some status)]

/-- The phases of a launch. -/
def courseOfLaunch (pid : Nat) (status : WaitStatus) : List Phase :=
  .installSignals :: .openControl :: .fork :: courseOfProcess pid status

/-- All phases of a run. -/
def course (config : RunConfig) (pid : Nat) (status : WaitStatus) : List Phase :=
  .lookUp config.container.engineName :: .configure config.container ::
    .createNamespaces config.container.namespaces ::
      (courseOfConstruction config.plan ++ courseOfLaunch pid status)

/-! ## Construction -/

/-- The steps of a plan, by induction, and what comes after them. -/
theorem yields_replay (steps : List Request) {next : Except Failure Unit → Supervision Unit}
    {course : List Phase}
    (hok : (next (.ok ())).run.Yields fun events result ↦
      ∀ pid status, Unfolds pid status () course events result)
    (herror : ∀ failure, (next (.error failure)).run.Yields fun events result ↦
      events.map (·.call) = [.stopServer, .cleanUp (some failure) none] ∧ result = .error failure) :
    (ExceptT.lift (ConstructionPlan.replay
        (fun request ↦ Program.ask (I := Lifecycle) (.step request)) steps) >>= next).run.Yields
      fun events result ↦ ∀ pid status, Unfolds pid status () (steps.map .step ++ course) events result := by
  induction steps with
  | nil => exact hok
  | cons request rest ih =>
    refine yields_call fun answer ↦ ?_
    cases answer with
    | error failure =>
      refine (herror failure).mono fun events result hrecovery ↦ ?_
      obtain ⟨hcalls, rfl⟩ := hrecovery
      exact fun _ _ ↦ .failed rfl hcalls
    | ok reply => exact Yields.mono ih fun _ _ hrest _ _ ↦ .succeeded rfl trivial (hrest _ _)

/-- A construction unfolds along its steps. -/
theorem yields_construct (plan : ConstructionPlan) :
    (construct plan).run.Yields fun events result ↦
      ∀ pid status, Unfolds pid status () (courseOfConstruction plan) events result := by
  refine yields_call fun answer ↦ ?_
  cases answer with
  | error failure => exact yields_done fun _ _ ↦ .failed rfl rfl
  | ok _ =>
    refine Yields.mono (yields_replay plan.steps ?_ fun failure ↦ ?_) fun _ _ hrest _ _ ↦
      .succeeded rfl trivial (hrest _ _)
    · refine yields_call fun answer ↦ ?_
      cases answer with
      | error failure => exact yields_call fun _ ↦ yields_done fun _ _ ↦ .failed rfl rfl
      | ok _ => exact yields_done fun _ _ ↦ .succeeded rfl trivial .ended
    · exact yields_call fun _ ↦ yields_call fun _ ↦ yields_done ⟨rfl, rfl⟩

/-! ## Launch -/

/-- Whatever is answered, a program unfolds along a course for some process id and some status. -/
abbrev Follows (program : Program Lifecycle (Except Failure WaitStatus))
    (course : Nat → WaitStatus → List Phase) : Prop :=
  program.Yields fun events result ↦ ∃ pid status, Unfolds pid status status (course pid status) events result

variable {program : Program Lifecycle (Except Failure WaitStatus)} {course : Nat → WaitStatus → List Phase}

/-- Going on after a phase that has succeeded, and that gives neither the process id nor the status. -/
theorem Follows.after {phase : Phase} {answer : phase.Answer} (h : Follows program course)
    (hfailure : phase.failure? answer = none)
    (hagrees : ∀ pid status, Event.Agrees pid status ⟨phase, answer⟩) :
    program.Yields fun events result ↦ ∃ pid status,
      Unfolds pid status status (phase :: course pid status) (⟨phase, answer⟩ :: events) result := by
  refine h.mono fun events result hunfolds ↦ ?_
  obtain ⟨pid, status, hunfolds⟩ := hunfolds
  exact ⟨pid, status, .succeeded hfailure (hagrees pid status) hunfolds⟩

/-- A launch, the cases in the order of its phases. -/
theorem follows_launchApart : Follows launchApart.run courseOfLaunch := by
  refine yields_call fun answer ↦ ?_
  cases answer with
  | error failure => exact yields_done ⟨0, .stillAlive, .failed rfl rfl⟩
  | ok _ =>
  refine Follows.after ?_ rfl fun _ _ ↦ trivial
  refine yields_call fun answer ↦ ?_
  cases answer with
  | error failure => exact yields_done ⟨0, .stillAlive, .failed rfl rfl⟩
  | ok _ =>
  refine Follows.after ?_ rfl fun _ _ ↦ trivial
  refine yields_call fun answer ↦ ?_
  cases answer with
  | error failure => exact yields_done ⟨0, .stillAlive, .failed rfl rfl⟩
  | ok pid =>
  -- from here on the process id is known
  suffices hprocess : Yields _ fun events result ↦
      ∃ status, Unfolds pid status status (courseOfProcess pid status) events result from
    hprocess.mono fun _ _ ⟨status, hunfolds⟩ ↦ ⟨pid, status, .succeeded rfl rfl hunfolds⟩
  refine yields_call fun answer ↦ ?_
  obtain (failure | _) | panic := answer
  · exact yields_call fun _ ↦ yields_call fun _ ↦ yields_call fun _ ↦ yields_done
      ⟨.stillAlive, .failed rfl rfl⟩
  case panicked => exact yields_done ⟨.stillAlive, .failed rfl rfl⟩
  refine yields_call fun answer ↦ ?_
  cases answer with
  | error failure =>
    exact yields_call fun _ ↦ yields_call fun _ ↦ yields_call fun _ ↦ yields_done
      ⟨.stillAlive, .succeeded rfl trivial <| .failed rfl rfl⟩
  | ok _ =>
  refine yields_call fun answer ↦ ?_
  obtain (failure | status) | panic := answer
  · exact yields_call fun _ ↦ yields_done
      ⟨.stillAlive, .succeeded rfl trivial <| .succeeded rfl trivial <| .failed rfl rfl⟩
  case panicked =>
    exact yields_done ⟨.stillAlive, .succeeded rfl trivial <| .succeeded rfl trivial <| .failed rfl rfl⟩
  refine yields_call fun answer ↦ ?_
  cases answer with
  | error failure =>
    exact yields_done
      ⟨status, .succeeded rfl trivial <| .succeeded rfl trivial <| .succeeded rfl rfl <| .failed rfl rfl⟩
  | ok _ =>
    exact yields_done ⟨status, .succeeded rfl trivial <| .succeeded rfl trivial <| .succeeded rfl rfl <|
      .succeeded rfl trivial .ended⟩

/-! ## Run -/

theorem follows_run (config : RunConfig) : Follows (run config).run (Supervisor.course config) := by
  have hconstruct : Follows (do construct config.plan; launchApart : Supervision WaitStatus).run
      fun pid status ↦ courseOfConstruction config.plan ++ courseOfLaunch pid status := by
    refine Yields.bind ((yields_construct config.plan).mono fun events result hunfolds ↦ ?_)
    cases result with
    | error failure => exact ⟨0, .stillAlive, (hunfolds _ _).append_of_error _ _⟩
    | ok _ =>
      refine follows_launchApart.mono fun later result hlater ↦ ?_
      obtain ⟨pid, status, hlater⟩ := hlater
      exact ⟨pid, status, (hunfolds pid status).append hlater⟩
  refine yields_call fun answer ↦ ?_
  cases answer with
  | error failure => exact yields_done ⟨0, .stillAlive, .failed rfl rfl⟩
  | ok _ =>
  refine Follows.after ?_ rfl fun _ _ ↦ trivial
  refine yields_call fun answer ↦ ?_
  cases answer with
  | error failure => exact yields_done ⟨0, .stillAlive, .failed rfl rfl⟩
  | ok _ =>
  refine Follows.after ?_ rfl fun _ _ ↦ trivial
  refine yields_call fun answer ↦ ?_
  cases answer with
  | error failure => exact yields_call fun _ ↦ yields_done ⟨0, .stillAlive, .failed rfl rfl⟩
  | ok _ => exact Follows.after hconstruct rfl fun _ _ ↦ trivial

end Supervisor

end ContainerConstruction
