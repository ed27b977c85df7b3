import ContainerConstruction.Proofs.Supervisor.Course
import ContainerConstruction.Proofs.Supervisor.Handshake
import Mathlib.Data.List.Infix

/-!
# The order of the phases

What is known of the phases of a run, whatever their outcome, is read off the way in which the run unfolds
along its course.  A phase is entered only if all phases before it have succeeded, and a run gives the failure
of the first phase that fails.  A contained process starts only after the engine has seen it and it was
released.
-/

namespace ContainerConstruction

/-- Whether a phase brings a container further.  The others set up or take down what the supervisor itself
needs, or clean up after a failure. -/
def Phase.isMilestone : Phase → Bool
  | .lookUp _ | .configure _ | .createNamespaces _ | .step _ | .fork | .afterFork _ | .release | .monitor _
  | .cleanUp none _ => true
  | _ => false

/-- The move of a handshake that a phase makes. -/
def HandshakeMove.ofPhase : Phase → Option HandshakeMove
  | .afterFork _ => some .afterFork
  | .release => some .release
  | _ => none

/-- The move of a handshake that was made if a phase has succeeded. -/
def HandshakeMove.ofEvent (event : Event Lifecycle) : Option HandshakeMove :=
  match event.failure? with
  | none => ofPhase event.call
  | some _ => none

/-- Whether a move is made by a phase. -/
def HandshakeMove.isOfPhase : HandshakeMove → Bool
  | .afterFork | .release => true
  | _ => false

namespace HandshakeMove

theorem ofEvent_of_succeeded (event : Event Lifecycle) (h : event.failure? = none) :
    ofEvent event = ofPhase event.call := by
  rw [ofEvent, h]

theorem ofEvent_cases (event : Event Lifecycle) :
    ofEvent event = ofPhase event.call ∨ ofEvent event = none := by
  cases hfailure : event.failure? with
  | none => exact .inl (ofEvent_of_succeeded event hfailure)
  | some failure => exact .inr (by rw [ofEvent, hfailure])

/-- A move is made by a phase that has succeeded. -/
theorem eq_of_ofEvent {event : Event Lifecycle} {move : HandshakeMove} (h : ofEvent event = some move) :
    (∃ pid, event = ⟨.afterFork pid, .returned (.ok ())⟩ ∧ move = .afterFork) ∨
      event = ⟨.release, .ok ()⟩ ∧ move = .release := by
  have hphase : ofPhase event.call = some move := by
    obtain hsame | hnone := ofEvent_cases event
    · exact hsame.symm.trans h
    · cases hnone.symm.trans h
  obtain ⟨phase, answer⟩ := event
  cases phase with
  | afterFork pid =>
    obtain (_ | _) | _ := answer
    · cases h
    · exact .inl ⟨pid, rfl, (Option.some.inj hphase).symm⟩
    · cases h
  | release =>
    cases answer with
    | ok _ => exact .inr ⟨rfl, (Option.some.inj hphase).symm⟩
    | error _ => cases h
  | _ => cases hphase

end HandshakeMove

/-! ## Recovery -/

namespace Phase

variable (pid : Nat) (failure : Failure) (phase : Phase)

theorem isMilestone_recovery : ∀ other ∈ phase.recovery pid failure, other.isMilestone = false := by
  cases phase <;> simp [recovery, isMilestone]

/-- What is done after a failure is not handed to the worker. -/
theorem isOnWorker_recovery : ∀ other ∈ phase.recovery pid failure, other.isOnWorker = false := by
  cases phase <;> simp [recovery, isOnWorker]

theorem ofPhase_recovery : ∀ other ∈ phase.recovery pid failure, HandshakeMove.ofPhase other = none := by
  cases phase <;> simp [recovery, HandshakeMove.ofPhase]

/-- A cleanup in a recovery is told of the failure. -/
theorem cleanUp_recovery : ∀ fatal status, .cleanUp fatal status ∈ phase.recovery pid failure →
    fatal = some failure ∧ status = none := by
  intro fatal status
  cases phase <;> simp [recovery]

end Phase

namespace Event

variable {pid : Nat} {status : WaitStatus} {event : Event Lifecycle}

theorem agrees_of_failure {failure : Failure} (h : event.failure? = some failure) :
    event.Agrees pid status := by
  obtain ⟨phase, answer⟩ := event
  cases phase with
  | fork =>
    cases answer with
    | error _ => trivial
    | ok _ => cases h
  | monitor _ =>
    obtain (_ | _) | _ := answer
    · trivial
    · cases h
    · trivial
  | _ => trivial

theorem agrees_of_mem_recovery {failure : Failure} {failing : Event Lifecycle}
    (h : event.call ∈ failing.recovery pid failure) : event.Agrees pid status := by
  have hmilestone := failing.call.isMilestone_recovery pid failure _ (failing.recovery_subset pid failure h)
  obtain ⟨other, answer⟩ := event
  cases other with
  | fork => cases hmilestone
  | monitor _ => cases hmilestone
  | _ => trivial

end Event

/-! ## What an unfolding says -/

namespace Unfolds

variable {α : Type} {pid : Nat} {status : WaitStatus} {value : α} {course : List Phase}
  {events before after : List (Event Lifecycle)} {event : Event Lifecycle} {result : Except Failure α}

theorem call_mem {recovery : List (Event Lifecycle)} {calls : List Phase}
    (hcalls : recovery.map (·.call) = calls) (h : event ∈ recovery) : event.call ∈ calls := by
  rw [← hcalls]
  exact List.mem_map_of_mem h

/-- The process id and the status are those that the run was given. -/
theorem agrees (h : Unfolds pid status value course events result) :
    ∀ event ∈ events, event.Agrees pid status := by
  intro event hevent
  induction h with
  | ended => cases hevent
  | failed hfailure hcalls =>
    obtain _ | ⟨_, hrecovery⟩ := hevent
    · exact Event.agrees_of_failure hfailure
    · exact Event.agrees_of_mem_recovery (call_mem hcalls hrecovery)
  | succeeded _ hagrees _ ih =>
    obtain _ | ⟨_, hrest⟩ := hevent
    · exact hagrees
    · exact ih hrest

/-- Either a phase is the next one of the course and all before it have succeeded, or it belongs to the
recovery from the first one that has failed. -/
theorem position (h : Unfolds pid status value course events result)
    (hevents : events = before ++ event :: after) :
    ((∀ earlier ∈ before, earlier.failure? = none) ∧
        ∃ later, course = before.map (·.call) ++ event.call :: later) ∨
      ∃ main failing failure recovered, before = main ++ failing :: recovered ∧
        (∀ earlier ∈ main, earlier.failure? = none) ∧ failing.failure? = some failure ∧
          event.call ∈ failing.recovery pid failure := by
  induction h generalizing before with
  | ended => exact absurd hevents (by simp)
  | @failed course phase answer failure recovery hfailure hcalls =>
    cases before with
    | nil =>
      cases hevents
      exact .inl ⟨List.forall_mem_nil _, course, rfl⟩
    | cons first rest =>
      obtain ⟨rfl, rfl⟩ := List.cons.inj hevents
      refine .inr ⟨[], ⟨phase, answer⟩, failure, rest, rfl, List.forall_mem_nil _, hfailure, ?_⟩
      exact call_mem hcalls (List.mem_append_right _ List.mem_cons_self)
  | @succeeded course phase answer events result hfailure _ _ ih =>
    cases before with
    | nil =>
      cases hevents
      exact .inl ⟨List.forall_mem_nil _, course, rfl⟩
    | cons first rest =>
      obtain ⟨rfl, hrest⟩ := List.cons.inj hevents
      obtain ⟨hsucceeded, later, rfl⟩ | ⟨main, failing, failure, recovered, rfl, hmain, hfailing⟩ := ih hrest
      · exact .inl ⟨List.forall_mem_cons.mpr ⟨hfailure, hsucceeded⟩, later, rfl⟩
      · exact .inr ⟨⟨phase, answer⟩ :: main, failing, failure, recovered, rfl,
          List.forall_mem_cons.mpr ⟨hfailure, hmain⟩, hfailing⟩

/-- What comes after the first phase that has failed. -/
theorem recovers {failure : Failure} (h : Unfolds pid status value course events result)
    (hevents : events = before ++ event :: after) (hbefore : ∀ earlier ∈ before, earlier.failure? = none)
    (hfailure : event.failure? = some failure) :
    after.map (·.call) = event.recovery pid failure := by
  induction h generalizing before with
  | ended => exact absurd hevents (by simp)
  | failed hfailed hcalls =>
    cases before with
    | nil =>
      cases hevents
      cases hfailed.symm.trans hfailure
      exact hcalls
    | cons first rest =>
      obtain ⟨rfl, -⟩ := List.cons.inj hevents
      cases hfailed.symm.trans (hbefore _ List.mem_cons_self)
  | succeeded hsucceeded _ _ ih =>
    cases before with
    | nil =>
      cases hevents
      cases hsucceeded.symm.trans hfailure
    | cons first rest =>
      obtain ⟨-, hrest⟩ := List.cons.inj hevents
      exact ih hrest (List.forall_mem_cons.mp hbefore).2

/-- The failure of the first phase that has failed is the result. -/
theorem result_eq (h : Unfolds pid status value course events result) :
    result = match events.findSome? Event.failure? with
      | some failure => .error failure
      | none => .ok value := by
  induction h with
  | ended => rfl
  | @failed _ phase answer failure _ hfailure _ =>
    have hfirst : Event.failure? ⟨phase, answer⟩ = some failure := hfailure
    rw [List.findSome?_cons, hfirst]
  | @succeeded _ phase answer _ _ hfailure _ _ ih =>
    have hfirst : Event.failure? ⟨phase, answer⟩ = none := hfailure
    rw [List.findSome?_cons, hfirst]
    exact ih

/-- If no phase has failed, the whole course was taken. -/
theorem calls_eq (h : Unfolds pid status value course events result)
    (hnone : events.findSome? Event.failure? = none) : events.map (·.call) = course := by
  induction h with
  | ended => rfl
  | failed hfailure => cases hfailure.symm.trans (List.findSome?_eq_none_iff.mp hnone _ List.mem_cons_self)
  | succeeded _ _ _ ih =>
    refine congrArg (List.cons _) (ih (List.findSome?_eq_none_iff.mpr fun event hevent ↦ ?_))
    exact List.findSome?_eq_none_iff.mp hnone event (List.mem_cons_of_mem _ hevent)

/-- What is seen of the events, if nothing is seen of a recovery, is a beginning of what is expected of the
course. -/
theorem filterMap_prefix {β : Type} {seen : Event Lifecycle → Option β} {expected : Phase → Option β}
    (hsucceeded : ∀ event, event.failure? = none → seen event = expected event.call)
    (hfailed : ∀ event, seen event = expected event.call ∨ seen event = none)
    (hrecovery : ∀ pid failure (phase : Phase), ∀ other ∈ phase.recovery pid failure, expected other = none)
    (h : Unfolds pid status value course events result) :
    events.filterMap seen <+: course.filterMap expected := by
  induction h with
  | ended => exact List.prefix_rfl
  | @failed course phase answer failure recovery _ hcalls =>
    have hnone : recovery.filterMap seen = [] := by
      refine List.filterMap_eq_nil_iff.mpr fun event hevent ↦ ?_
      have hexpected := hrecovery pid failure phase event.call
        (Event.recovery_subset pid failure _ (call_mem hcalls hevent))
      exact (hfailed event).elim (·.trans hexpected) id
    rw [List.filterMap_cons, List.filterMap_cons, hnone]
    obtain hseen | hseen := hfailed ⟨phase, answer⟩ <;> rw [hseen]
    · cases hexpected : expected phase with
      | none => exact List.nil_prefix
      | some seen => exact List.cons_prefix_cons.mpr ⟨rfl, List.nil_prefix⟩
    · exact List.nil_prefix
  | @succeeded course phase answer events result hfailure _ _ ih =>
    rw [List.filterMap_cons, List.filterMap_cons, hsucceeded ⟨phase, answer⟩ hfailure]
    cases hexpected : expected phase with
    | none => exact ih
    | some seen => exact List.cons_prefix_cons.mpr ⟨rfl, ih⟩

end Unfolds

namespace Supervisor

variable (config : RunConfig) (pid : Nat) (status : WaitStatus)

/-- The phases of a run that bring the container further. -/
def milestones : List Phase :=
  .lookUp config.container.engineName :: .configure config.container ::
    .createNamespaces config.container.namespaces ::
      (config.plan.steps.map .step ++ .fork :: courseOfProcess pid status)

/-- The phases of a run before the fork. -/
def courseToFork : List Phase :=
  .lookUp config.container.engineName :: .configure config.container ::
    .createNamespaces config.container.namespaces ::
      (courseOfConstruction config.plan ++ [.installSignals, .openControl])

/-- The phases of a run that the supervisor hands to the worker. -/
def workOfRun : List Phase := [.createNamespaces config.container.namespaces, .fork]

theorem course_eq : course config pid status = courseToFork config ++ .fork :: courseOfProcess pid status := by
  simp [course, courseToFork, courseOfLaunch]

theorem filter_steps (keep : Phase → Bool) (hstep : ∀ request, keep (.step request) = true)
    (steps : List Request) : (steps.map Phase.step).filter keep = steps.map Phase.step := by
  simp [List.filter_eq_self, hstep]

theorem filter_isMilestone_course :
    (course config pid status).filter Phase.isMilestone = milestones config pid status := by
  simp [course, courseOfConstruction, courseOfLaunch, courseOfProcess, milestones, Phase.isMilestone,
    List.filter_cons, List.filter_append, filter_steps Phase.isMilestone (fun _ ↦ rfl)]

theorem filter_isOnWorker_course :
    (course config pid status).filter Phase.isOnWorker = workOfRun config := by
  have hsteps : (config.plan.steps.map Phase.step).filter Phase.isOnWorker = [] := by
    simp [List.filter_eq_nil_iff, Phase.isOnWorker]
  simp [course, courseOfConstruction, courseOfLaunch, courseOfProcess, workOfRun, Phase.isOnWorker,
    List.filter_cons, List.filter_append, hsteps]

theorem filterMap_ofPhase_course :
    (course config pid status).filterMap HandshakeMove.ofPhase = [.afterFork, .release] := by
  have hsteps : (config.plan.steps.map Phase.step).filterMap HandshakeMove.ofPhase = [] := by
    simp [List.filterMap_eq_nil_iff, HandshakeMove.ofPhase]
  simp [course, courseOfConstruction, courseOfLaunch, courseOfProcess, HandshakeMove.ofPhase,
    List.filterMap_cons, List.filterMap_append, hsteps]

theorem fork_notMem_courseToFork : Phase.fork ∉ courseToFork config := by
  simp [courseToFork, courseOfConstruction]

theorem fork_notMem_courseOfProcess : Phase.fork ∉ courseOfProcess pid status := by
  simp [courseOfProcess]

theorem cleanUp_notMem_course (failure : Failure) (given : Option WaitStatus) :
    Phase.cleanUp (some failure) given ∉ course config pid status := by
  simp [course, courseOfConstruction, courseOfLaunch, courseOfProcess]

end Supervisor

namespace Supervisor

variable {config : RunConfig} {pid : Nat} {status : WaitStatus} {events : List (Event Lifecycle)}
  {result : Except Failure WaitStatus}

/-- What is known of the events of a run and of its result, if the fork gives the process id and monitoring
gives the status. -/
structure PhaseLaws (config : RunConfig) (pid : Nat) (status : WaitStatus) (events : List (Event Lifecycle))
    (result : Except Failure WaitStatus) : Prop where
  agrees : ∀ event ∈ events, event.Agrees pid status
  /-- The phases that bring the container further come in their order, each once. -/
  ordered : (events.map (·.call)).filter Phase.isMilestone <+: milestones config pid status
  /-- The worker is made to create the namespaces and then to fork, each once. -/
  onWorker : (events.map (·.call)).filter Phase.isOnWorker <+: workOfRun config
  /-- A phase is entered only if all phases of the course before it have succeeded. -/
  earlier : ∀ before event after, events = before ++ event :: after → event.call.isMilestone = true →
    (∀ other ∈ before, other.failure? = none) ∧
      ∃ later, course config pid status = before.map (·.call) ++ event.call :: later
  /-- Before the fork every step of the plan was carried out. -/
  forked : ∀ before answer after, events = before ++ ⟨.fork, answer⟩ :: after →
    before.map (·.call) = courseToFork config ∧ ∀ other ∈ before, other.failure? = none
  /-- A run gives the failure of the first phase that has failed, whatever comes after it. -/
  settles : result = match events.findSome? Event.failure? with
    | some failure => .error failure
    | none => .ok status
  completes : events.findSome? Event.failure? = none → events.map (·.call) = course config pid status
  /-- What comes after the first phase that has failed depends on that phase alone, and nothing comes after a
  panic. -/
  recovers : ∀ before event after failure, events = before ++ event :: after →
    (∀ other ∈ before, other.failure? = none) → event.failure? = some failure →
      after.map (·.call) = if event.panicked then [] else event.call.recovery pid failure
  /-- A cleanup that is told of a failure follows the phase that has failed so. -/
  abandoned : ∀ before event after failure given, events = before ++ event :: after →
    event.call = .cleanUp (some failure) given →
      given = none ∧ ∃ main failing recovered, before = main ++ failing :: recovered ∧
        (∀ other ∈ main, other.failure? = none) ∧ failing.failure? = some failure
  /-- A process that the engine refuses, or that cannot be released, is killed and collected before the
  cleanup.  If the engine panics instead, nothing is done. -/
  killed : ∀ before event after failure, events = before ++ event :: after →
    event.call = .afterFork pid ∨ event.call = .release → event.failure? = some failure →
      after.map (·.call) =
        if event.panicked then [] else [.kill pid, .collect pid, .cleanUp (some failure) none]
  /-- However the moves of a contained process and those of the supervisor alternate, and also if the supervisor
  dies: a process that starts has read after both phases had succeeded. -/
  contained : ∀ engine moves handshake start,
    Handshake.run engine Handshake.afterFork moves = some handshake →
    moves.filter HandshakeMove.isOfPhase <+: events.filterMap HandshakeMove.ofEvent →
    handshake.start = some (.ok start) →
      (∃ before after, moves = before ++ .read :: after ∧
        before.filter HandshakeMove.isOfPhase = [.afterFork, .release]) ∧
      ⟨.afterFork pid, .returned (.ok ())⟩ ∈ events ∧ ⟨.release, .ok ()⟩ ∈ events

/-- The start of a beginning of a pair is the whole pair if it has the second one. -/
theorem eq_pair_of_prefix {α : Type} {first second : α} {list : List α} (hne : first ≠ second)
    (hbegins : list <+: [first, second]) (hmem : second ∈ list) : list = [first, second] := by
  obtain ⟨rest, hrest⟩ := hbegins
  match list, rest, hrest with
  | [], _, _ => cases hmem
  | [_], [_], rfl => exact absurd (List.mem_singleton.mp hmem).symm hne
  | [_, _], [], rfl => rfl

/-- What a run does of some kind is a beginning of what its course does, if no recovery does
anything of it. -/
theorem filter_prefix {keep : Phase → Bool}
    (hrecovery : ∀ pid failure (phase : Phase), ∀ other ∈ phase.recovery pid failure, keep other = false)
    (h : Unfolds pid status status (course config pid status) events result) :
    (events.map (·.call)).filter keep <+: (course config pid status).filter keep := by
  have hbegins : events.filterMap (fun event ↦ Option.guard keep event.call) <+:
      (course config pid status).filterMap (Option.guard keep) :=
    h.filterMap_prefix (fun _ _ ↦ rfl) (fun _ ↦ .inl rfl) fun pid failure phase other hother ↦ by
      simp [hrecovery pid failure phase other hother]
  rw [← List.filterMap_eq_filter, List.filterMap_map]
  exact hbegins

variable (h : Unfolds pid status status (course config pid status) events result)
include h

theorem ordered_of_unfolds :
    (events.map (·.call)).filter Phase.isMilestone <+: milestones config pid status := by
  rw [← filter_isMilestone_course]
  exact filter_prefix Phase.isMilestone_recovery h

theorem onWorker_of_unfolds : (events.map (·.call)).filter Phase.isOnWorker <+: workOfRun config := by
  rw [← filter_isOnWorker_course]
  exact filter_prefix Phase.isOnWorker_recovery h

theorem earlier_of_unfolds {before after : List (Event Lifecycle)} {event : Event Lifecycle}
    (hevents : events = before ++ event :: after) (hmilestone : event.call.isMilestone = true) :
    (∀ other ∈ before, other.failure? = none) ∧
      ∃ later, course config pid status = before.map (·.call) ++ event.call :: later := by
  obtain hearlier | ⟨_, failing, failure, _, -, -, -, hrecovery⟩ := h.position hevents
  · exact hearlier
  · have hpassed := failing.recovery_subset pid failure hrecovery
    cases hmilestone.symm.trans (failing.call.isMilestone_recovery pid failure _ hpassed)

/-- All that comes before the fork is done when it comes to that. -/
theorem forked_of_unfolds {before after : List (Event Lifecycle)} {answer : Except Failure Nat}
    (hevents : events = before ++ ⟨.fork, answer⟩ :: after) :
    before.map (·.call) = courseToFork config ∧ ∀ other ∈ before, other.failure? = none := by
  obtain ⟨hsucceeded, later, hcourse⟩ := earlier_of_unfolds h hevents rfl
  rw [course_eq] at hcourse
  have hsame := (List.append_cons_inj_of_notMem (fork_notMem_courseToFork config)
    (fork_notMem_courseOfProcess pid status)).mp hcourse
  exact ⟨hsame.1.symm, hsucceeded⟩

/-- A cleanup after a failure comes after the phase that has failed. -/
theorem abandoned_of_unfolds {before after : List (Event Lifecycle)} {event : Event Lifecycle}
    {failure : Failure} {given : Option WaitStatus} (hevents : events = before ++ event :: after)
    (hcall : event.call = .cleanUp (some failure) given) :
    given = none ∧ ∃ main failing recovered, before = main ++ failing :: recovered ∧
      (∀ other ∈ main, other.failure? = none) ∧ failing.failure? = some failure := by
  obtain ⟨-, later, hcourse⟩ | ⟨main, failing, failure', recovered, hbefore, hmain, hfailing, hrecovery⟩ :=
    h.position hevents
  · refine absurd ?_ (cleanUp_notMem_course config pid status failure given)
    rw [hcourse, ← hcall]
    exact List.mem_append_right _ List.mem_cons_self
  · rw [hcall] at hrecovery
    have hpassed := failing.recovery_subset pid failure' hrecovery
    obtain ⟨hfatal, hgiven⟩ := failing.call.cleanUp_recovery pid failure' _ _ hpassed
    cases hfatal
    exact ⟨hgiven, main, failing, recovered, hbefore, hmain, hfailing⟩

/-- A process whose launch fails after the fork is killed and waited for, unless the engine has panicked. -/
theorem killed_of_unfolds {before after : List (Event Lifecycle)} {event : Event Lifecycle}
    {failure : Failure} (hevents : events = before ++ event :: after)
    (hcall : event.call = .afterFork pid ∨ event.call = .release) (hfailure : event.failure? = some failure) :
    after.map (·.call) =
      if event.panicked then [] else [.kill pid, .collect pid, .cleanUp (some failure) none] := by
  have hmilestone : event.call.isMilestone = true := by
    obtain hcall | hcall := hcall <;> rw [hcall] <;> rfl
  have hrecovers := h.recovers hevents (earlier_of_unfolds h hevents hmilestone).1 hfailure
  rw [hrecovers, Event.recovery]
  obtain hcall | hcall := hcall <;> rw [hcall] <;> rfl

/-- The contained process starts only if it was released. -/
theorem contained_of_unfolds {engine : Engine} {moves : List HandshakeMove} {handshake : Handshake}
    {start : Start} (hrun : Handshake.run engine Handshake.afterFork moves = some handshake)
    (hmoves : moves.filter HandshakeMove.isOfPhase <+: events.filterMap HandshakeMove.ofEvent)
    (hstart : handshake.start = some (.ok start)) :
    (∃ before after, moves = before ++ .read :: after ∧
      before.filter HandshakeMove.isOfPhase = [.afterFork, .release]) ∧
    ⟨.afterFork pid, .returned (.ok ())⟩ ∈ events ∧ ⟨.release, .ok ()⟩ ∈ events := by
  obtain ⟨before, after, hsplit, hrelease⟩ := (Handshake.waits_run moves hrun).started start hstart
  have hcourse : events.filterMap HandshakeMove.ofEvent <+: [.afterFork, .release] := by
    rw [← filterMap_ofPhase_course config pid status]
    exact h.filterMap_prefix HandshakeMove.ofEvent_of_succeeded HandshakeMove.ofEvent_cases
      Phase.ofPhase_recovery
  have hseen : before.filter HandshakeMove.isOfPhase <+: events.filterMap HandshakeMove.ofEvent := by
    refine List.IsPrefix.trans ?_ hmoves
    rw [hsplit, List.filter_append]
    exact List.prefix_append _ _
  have hboth : before.filter HandshakeMove.isOfPhase = [.afterFork, .release] :=
    eq_pair_of_prefix nofun (hseen.trans hcourse) (List.mem_filter.mpr ⟨hrelease, rfl⟩)
  have hmade : ∀ move ∈ [HandshakeMove.afterFork, .release], ∃ event ∈ events,
      HandshakeMove.ofEvent event = some move := by
    intro move hmove
    exact List.mem_filterMap.mp ((hboth ▸ hseen).subset hmove)
  obtain ⟨seen, hseen, hafterFork⟩ := hmade .afterFork (by simp)
  obtain ⟨released, hreleased, hrelease⟩ := hmade .release (by simp)
  refine ⟨⟨before, after, hsplit, hboth⟩, ?_, ?_⟩
  · obtain ⟨given, rfl, -⟩ | ⟨-, hmove⟩ := HandshakeMove.eq_of_ofEvent hafterFork
    · have hmilestone := (ordered_of_unfolds h).subset
        (List.mem_filter.mpr ⟨List.mem_map_of_mem hseen, rfl⟩)
      have hgiven : given = pid := by simpa [milestones, courseOfProcess] using hmilestone
      exact hgiven ▸ hseen
    · cases hmove
  · obtain ⟨given, -, hmove⟩ | ⟨rfl, -⟩ := HandshakeMove.eq_of_ofEvent hrelease
    · cases hmove
    · exact hreleased

omit h in
/-- The order of the phases of a run and all that hangs on it, for every configuration and whatever comes of
each phase. -/
theorem phases_ordered {σ : Type} (machine : Machine Lifecycle σ) (config : RunConfig) (state : σ) :
    ∃ pid status result, ((run config).run.run machine state).1 = .returned result ∧
      PhaseLaws config pid status ((run config).run.trace machine state) result := by
  obtain ⟨events, result, after, hruns, pid, status, h⟩ := follows_run config machine state
  refine ⟨pid, status, result, by rw [hruns.run_eq], ?_⟩
  rw [hruns.trace_eq]
  exact {
    agrees := h.agrees
    ordered := ordered_of_unfolds h
    onWorker := onWorker_of_unfolds h
    earlier := fun _ _ _ ↦ earlier_of_unfolds h
    forked := fun _ _ _ ↦ forked_of_unfolds h
    settles := h.result_eq
    completes := h.calls_eq
    recovers := fun _ _ _ _ ↦ h.recovers
    abandoned := fun _ _ _ _ _ ↦ abandoned_of_unfolds h
    killed := fun _ _ _ _ ↦ killed_of_unfolds h
    contained := fun _ _ _ _ ↦ contained_of_unfolds h }

end Supervisor

end ContainerConstruction
