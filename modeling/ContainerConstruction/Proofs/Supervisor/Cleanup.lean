import ContainerConstruction.Proofs.Supervisor.Phases

/-!
# Cleaning up

An engine that was prepared is cleaned up once, as the last thing that a run does: after the failure that the
run gives, or with the status with which the container has ended.

Four phases are left out.  If the server cannot be started, the signals cannot be listened to, the control
channel cannot be opened or the process cannot be forked, then the run fails and the engine is never cleaned
up.  Nor is it after a panic of its own.
-/

namespace ContainerConstruction

namespace Phase

def isCleanUp : Phase → Bool
  | .cleanUp .. => true
  | _ => false

/-- Whether a phase is about an engine that is not prepared yet. -/
def isPreparation : Phase → Bool
  | .lookUp _ | .configure _ => true
  | _ => false

/-- Whether nothing is cleaned up if a phase fails, although the engine is prepared. -/
def leavesEngine : Phase → Bool
  | .startServer | .installSignals | .openControl | .fork => true
  | _ => false

/-- Whether a run ends at once if a phase fails. -/
def endsRun (phase : Phase) : Bool := phase.isPreparation || phase.leavesEngine

end Phase

namespace Event

/-- Whether a run ends at once with a phase, if that has failed: by its place, or because the engine has
panicked in it. -/
def endsRun (event : Event Lifecycle) : Bool := event.call.endsRun || event.panicked

variable {pid : Nat} {failure : Failure} {event : Event Lifecycle}

/-- A run that ends at once has nothing left to do. -/
theorem recovery_of_endsRun (h : event.endsRun = true) : event.recovery pid failure = [] := by
  unfold recovery
  split
  · rfl
  next hpanicked =>
    have hphase : event.call.endsRun = true := by simpa [endsRun, hpanicked] using h
    cases hcall : event.call <;> rw [hcall] at hphase <;> first | rfl | cases hphase

theorem endsRun_of_mem_recovery {failing : Event Lifecycle} (h : event.call ∈ failing.recovery pid failure) :
    event.endsRun = false := by
  have hphase := failing.recovery_subset pid failure h
  obtain ⟨phase, answer⟩ := event
  cases hcall : failing.call <;> rw [hcall] at hphase <;> simp [Phase.recovery] at hphase
  all_goals
    obtain rfl | rfl | rfl := hphase <;> rfl

/-- The recovery from every other phase that can fail is to clean up at last. -/
theorem recovery_eq (pid : Nat) (hfailure : event.failure? = some failure) (hends : event.endsRun = false)
    (hcleanUp : event.call.isCleanUp = false) :
    ∃ steps, event.recovery pid failure = steps ++ [.cleanUp (some failure) none] ∧
      ∀ other ∈ steps, other.isCleanUp = false := by
  obtain ⟨hphase, hpanicked⟩ := Bool.or_eq_false_iff.mp hends
  rw [recovery, hpanicked, if_neg Bool.false_ne_true]
  obtain ⟨phase, answer⟩ := event
  cases phase with
  | lookUp | configure | startServer | installSignals | openControl | fork => cases hphase
  | cleanUp => cases hcleanUp
  | kill | collect => cases hfailure
  | createNamespaces | stopServer | monitor => exact ⟨[], rfl, List.forall_mem_nil _⟩
  | step => exact ⟨[.stopServer], rfl, by simp [Phase.isCleanUp]⟩
  | afterFork | release => exact ⟨[.kill pid, .collect pid], rfl, by simp [Phase.isCleanUp]⟩

end Event

/-- Either all phases of the course were taken and have succeeded, or a first one has failed and its recovery
was the rest. -/
theorem Unfolds.ended_or_failed {α : Type} {pid : Nat} {status : WaitStatus} {value : α} {course : List Phase}
    {events : List (Event Lifecycle)} {result : Except Failure α}
    (h : Unfolds pid status value course events result) :
    ((∀ event ∈ events, event.failure? = none) ∧ events.map (·.call) = course ∧ result = .ok value) ∨
      ∃ before event after failure later, events = before ++ event :: after ∧
        (∀ other ∈ before, other.failure? = none) ∧ event.failure? = some failure ∧
        after.map (·.call) = event.recovery pid failure ∧
        course = before.map (·.call) ++ event.call :: later ∧ result = .error failure := by
  induction h with
  | ended => exact .inl ⟨List.forall_mem_nil _, rfl, rfl⟩
  | @failed course phase answer failure recovery hfailure hrecovery =>
    exact .inr ⟨[], ⟨phase, answer⟩, recovery, failure, course, rfl, List.forall_mem_nil _, hfailure, hrecovery,
      rfl, rfl⟩
  | @succeeded course phase answer events result hfailure _ _ ih =>
    obtain ⟨hall, hcourse, hresult⟩ |
      ⟨before, event, after, failure, later, hevents, hbefore, hevent, hafter, hcourse, hresult⟩ := ih
    · exact .inl ⟨List.forall_mem_cons.mpr ⟨hfailure, hall⟩, congrArg (List.cons phase) hcourse, hresult⟩
    · exact .inr ⟨⟨phase, answer⟩ :: before, event, after, failure, later, congrArg (List.cons _) hevents,
        List.forall_mem_cons.mpr ⟨hfailure, hbefore⟩, hevent, hafter, congrArg (List.cons phase) hcourse, hresult⟩

namespace Supervisor

/-- All phases of a run but the last one. -/
def courseToCleanUp (config : RunConfig) (pid : Nat) : List Phase :=
  courseToFork config ++ [.fork, .afterFork pid, .release, .monitor pid]

variable {config : RunConfig} {pid : Nat} {status : WaitStatus} {events : List (Event Lifecycle)}
  {result : Except Failure WaitStatus}

theorem course_eq_concat (config : RunConfig) (pid : Nat) (status : WaitStatus) :
    course config pid status = courseToCleanUp config pid ++ [.cleanUp none (some status)] := by
  rw [course_eq, courseToCleanUp, List.append_assoc]
  rfl

theorem isCleanUp_courseToCleanUp (config : RunConfig) (pid : Nat) :
    ∀ phase ∈ courseToCleanUp config pid, phase.isCleanUp = false := by
  simp only [courseToCleanUp, courseToFork, courseOfConstruction, List.cons_append, List.append_assoc,
    List.forall_mem_cons, List.forall_mem_append, List.forall_mem_map]
  exact ⟨rfl, rfl, rfl, rfl, fun _ _ ↦ rfl, rfl, by simp [Phase.isCleanUp]⟩

/-- What is known of the events of a run and of its result, as far as the cleanup is concerned. -/
structure CleanupLaws (events : List (Event Lifecycle)) (result : Except Failure WaitStatus) : Prop where
  /-- An engine that was prepared is cleaned up once and at last, unless one of four phases has failed or the
  engine has panicked.  The cleanup is told of the failure that the run gives, or else of the status that
  monitoring has given. -/
  once : (∀ event ∈ events, event.endsRun = true → event.failure? = none) →
    ∃ others fatal given answer, events = others ++ [⟨.cleanUp fatal given, answer⟩] ∧
      (∀ other ∈ others, other.call.isCleanUp = false) ∧
      ((∃ failing ∈ others, ∃ failure, failing.failure? = some failure ∧ fatal = some failure ∧ given = none ∧
          result = .error failure) ∨
        ∃ pid status, ⟨.monitor pid, .returned (.ok status)⟩ ∈ others ∧ (∀ other ∈ others, other.failure? = none) ∧
          fatal = none ∧ given = some status ∧ result = answer.map fun _ ↦ status)
  /-- If one of the four has failed, or the preparation, or if the engine has panicked, then nothing is cleaned
  up. -/
  never : ∀ event ∈ events, event.endsRun = true → ∀ failure, event.failure? = some failure →
    (∀ other ∈ events, other.call.isCleanUp = false) ∧ result = .error failure

/-- The events before the last cleanup of a container that has come to its end. -/
theorem monitored {others : List (Event Lifecycle)} (hcourse : others.map (·.call) = courseToCleanUp config pid)
    (hall : ∀ other ∈ others, other.failure? = none) (hagrees : ∀ event ∈ others, event.Agrees pid status) :
    ⟨.monitor pid, .returned (.ok status)⟩ ∈ others := by
  have hmonitor : Phase.monitor pid ∈ others.map (·.call) := by
    rw [hcourse]
    simp [courseToCleanUp]
  obtain ⟨⟨phase, answer⟩, hmem, hcall⟩ := List.mem_map.mp hmonitor
  subst hcall
  obtain (failure | given) | panic := answer
  · cases hall _ hmem
  · cases hagrees _ hmem
    exact hmem
  · cases hall _ hmem

theorem isCleanUp_of_courseToCleanUp {others : List (Event Lifecycle)} {later : List Phase}
    (hcourse : courseToCleanUp config pid = others.map (·.call) ++ later) :
    ∀ other ∈ others, other.call.isCleanUp = false := by
  intro other hother
  apply isCleanUp_courseToCleanUp config pid
  rw [hcourse]
  exact List.mem_append_left _ (List.mem_map_of_mem hother)

/-- The last phase of the course is the only one that cleans up. -/
theorem cleanUp_last {others : List Phase} {phase : Phase} {later : List Phase}
    (h : course config pid status = others ++ phase :: later) :
    (others = courseToCleanUp config pid ∧ phase = .cleanUp none (some status) ∧ later = []) ∨
      ∃ rest, courseToCleanUp config pid = others ++ phase :: rest := by
  rw [course_eq_concat] at h
  obtain rfl | ⟨rest, last, rfl⟩ := later.eq_nil_or_concat
  · obtain ⟨hothers, hphase⟩ := List.append_inj' h rfl
    exact .inl ⟨hothers.symm, (List.cons.inj hphase).1.symm, rfl⟩
  · rw [List.concat_eq_append, ← List.cons_append, ← List.append_assoc] at h
    exact .inr ⟨rest, (List.append_inj' h rfl).1⟩

/-- A container that has come to its end, whether or not the cleanup fails. -/
theorem cleanupLaws_of_monitored {others : List (Event Lifecycle)} (status : WaitStatus)
    (answer : Except Failure Unit)
    (hcourse : others.map (·.call) = courseToCleanUp config pid)
    (hall : ∀ other ∈ others, other.failure? = none) (hagrees : ∀ event ∈ others, event.Agrees pid status) :
    CleanupLaws (others ++ [⟨.cleanUp none (some status), answer⟩]) (answer.map fun _ ↦ status) where
  once _ := ⟨others, none, some status, answer, rfl,
    isCleanUp_of_courseToCleanUp (by rw [hcourse, List.append_nil]),
    .inr ⟨pid, status, monitored hcourse hall hagrees, hall, rfl, rfl, rfl⟩⟩
  never event hevent hends failure hfailure := by
    obtain hother | hlast := List.mem_append.mp hevent
    · cases (hall event hother).symm.trans hfailure
    · cases List.mem_singleton.mp hlast
      cases hends

/-- A run in which a phase before the last cleanup has failed. -/
theorem cleanupLaws_of_failed {before after : List (Event Lifecycle)} {event : Event Lifecycle}
    {failure : Failure} {later : List Phase} (hbefore : ∀ other ∈ before, other.failure? = none)
    (hevent : event.failure? = some failure) (hafter : after.map (·.call) = event.recovery pid failure)
    (hcourse : courseToCleanUp config pid = before.map (·.call) ++ event.call :: later) :
    CleanupLaws (before ++ event :: after) (.error failure) := by
  have hnone : ∀ other ∈ before ++ [event], other.call.isCleanUp = false :=
    isCleanUp_of_courseToCleanUp (hcourse.trans (by rw [List.map_append, List.append_assoc]; rfl))
  have hmem : event ∈ before ++ event :: after := List.mem_append_right _ List.mem_cons_self
  constructor
  · intro hothers
    cases hends : event.endsRun with
    | true => cases (hothers event hmem hends).symm.trans hevent
    | false =>
    obtain ⟨steps, hrecovery, hsteps⟩ := Event.recovery_eq pid hevent hends
      (hnone event (List.mem_append_right _ (List.mem_singleton_self event)))
    rw [hrecovery] at hafter
    obtain ⟨recovered, last, rfl, hrecovered, hlast⟩ := List.map_eq_append_iff.mp hafter
    obtain ⟨⟨phase, answer⟩, rfl, hcall⟩ := List.map_eq_singleton_iff.mp hlast
    subst hcall
    refine ⟨before ++ event :: recovered, some failure, none, answer, ?_, ?_, ?_⟩
    · rw [List.append_assoc]
      rfl
    · intro other hother
      obtain hearlier | hlater := List.mem_append.mp hother
      · exact hnone other (List.mem_append_left _ hearlier)
      · obtain rfl | hrecovering := List.mem_cons.mp hlater
        · exact hnone other (List.mem_append_right _ (List.mem_singleton_self other))
        · exact hsteps _ (hrecovered ▸ List.mem_map_of_mem hrecovering)
    · exact .inl ⟨event, List.mem_append_right _ List.mem_cons_self, failure, hevent, rfl, rfl, rfl⟩
  · intro failing hfailing hends given hgiven
    obtain hearlier | hlater := List.mem_append.mp hfailing
    · cases (hbefore failing hearlier).symm.trans hgiven
    obtain rfl | hrecovering := List.mem_cons.mp hlater
    · cases hevent.symm.trans hgiven
      rw [Event.recovery_of_endsRun hends, List.map_eq_nil_iff] at hafter
      subst hafter
      exact ⟨hnone, rfl⟩
    · have hrecovery := Event.endsRun_of_mem_recovery (hafter ▸ List.mem_map_of_mem hrecovering)
      cases hrecovery.symm.trans hends

theorem cleanupLaws (h : Unfolds pid status status (course config pid status) events result) :
    CleanupLaws events result := by
  have hagrees := h.agrees
  obtain ⟨hall, hcourse, rfl⟩ |
    ⟨before, event, after, failure, later, rfl, hbefore, hevent, hafter, hcourse, rfl⟩ := h.ended_or_failed
  · rw [course_eq_concat] at hcourse
    obtain ⟨others, last, rfl, hothers, hlast⟩ := List.map_eq_append_iff.mp hcourse
    obtain ⟨⟨phase, answer⟩, rfl, hcall⟩ := List.map_eq_singleton_iff.mp hlast
    subst hcall
    have hlaws := cleanupLaws_of_monitored status answer hothers
      (fun other hother ↦ hall other (List.mem_append_left _ hother))
      (fun other hother ↦ hagrees other (List.mem_append_left _ hother))
    cases answer with
    | ok _ => exact hlaws
    | error failure => cases hall _ (List.mem_append_right _ (List.mem_singleton_self _))
  · -- What has failed is the last cleanup itself, or a phase before it.
    obtain ⟨hothers, hcall, rfl⟩ | ⟨rest, hrest⟩ := cleanUp_last hcourse
    · obtain ⟨phase, answer⟩ := event
      subst hcall
      have hnothing : after = [] := List.map_eq_nil_iff.mp hafter
      subst hnothing
      have hlaws := cleanupLaws_of_monitored status answer hothers hbefore
        (fun other hother ↦ hagrees other (List.mem_append_left _ hother))
      cases answer with
      | ok _ => cases hevent
      | error _ =>
        cases hevent
        exact hlaws
    · exact cleanupLaws_of_failed hbefore hevent hafter hrest

/-- The cleanup of every run, for every configuration and whatever comes of each phase. -/
theorem run_cleans_up {σ : Type} (machine : Machine Lifecycle σ) (config : RunConfig) (state : σ) :
    ∃ result, ((run config).run.run machine state).1 = .returned result ∧
      CleanupLaws ((run config).run.trace machine state) result := by
  obtain ⟨events, result, after, hruns, pid, status, h⟩ := follows_run config machine state
  refine ⟨result, by rw [hruns.run_eq], ?_⟩
  rw [hruns.trace_eq]
  exact cleanupLaws h

/-- A machine with no descriptor left for a control channel. -/
def exhausted : Machine Lifecycle Unit where
  answer
    | .lookUp _, _ | .configure _, _ | .createNamespaces _, _ | .startServer, _ | .stopServer, _
    | .installSignals, _ | .release, _ | .cleanUp .., _ => (.ok (), ())
    | .step _, _ => (.ok .unit, ())
    | .afterFork _, _ => (.returned (.ok ()), ())
    | .openControl, _ =>
      (.error (.transport "control socketpair failed: Too many open files (os error 24)"), ())
    | .fork, _ => (.ok 3, ())
    | .monitor _, _ => (.returned (.ok (.exited 0)), ())
    | .kill _, _ | .collect _, _ => ((), ())

/-- The engine was prepared, the run fails, and the engine is not cleaned up. -/
theorem run_leaves_engine :
    let container := ContainerConfig.ofEngine "0" "standard"
    let failure := Failure.transport "control socketpair failed: Too many open files (os error 24)"
    (run ⟨container, ⟨[]⟩⟩).run.run exhausted () = (.returned (.error failure), ()) ∧
      (run ⟨container, ⟨[]⟩⟩).run.trace exhausted () =
        [⟨.lookUp "standard", .ok ()⟩, ⟨.configure container, .ok ()⟩, ⟨.createNamespaces .shared, .ok ()⟩,
          ⟨.startServer, .ok ()⟩, ⟨.stopServer, .ok ()⟩, ⟨.installSignals, .ok ()⟩,
          ⟨.openControl, .error failure⟩] :=
  ⟨rfl, rfl⟩

end Supervisor

end ContainerConstruction
