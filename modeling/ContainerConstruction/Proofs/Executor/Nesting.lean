import ContainerConstruction.Executor.Nested
import Mathlib.Data.List.Induction

/-!
# Nested submissions are calls

Work that is submitted from inside a job is done like a call: `Work.outcome` evaluates the job with each
submission in it replaced by the submitted work itself, and `Work.happenings` lists what happens meanwhile.
The worker never puts anything in the queue and never waits for a reply, so that it gets through every job,
however the moves of the other threads are mixed with its own.  A panic leaves all work that encloses it and is
caught where the outermost of it was submitted.
-/

namespace ContainerConstruction

variable {α : Type}

/-! ## Work as a call -/

namespace Work

/-- What comes of work on the worker when a submission is nothing but a call. -/
def outcome : Work α → Outcome α
  | .returns value => .returned value
  | .panics panic => .panicked panic
  | .asks next => (next true).outcome
  | .submits inner next =>
    match inner.outcome with
    | .returned value => (next (.ok value)).outcome
    | .panicked panic => .panicked panic

/-- What happens in work on the worker when a submission is nothing but a call.  After a panic nothing does. -/
def happenings : Work α → List (Happening α)
  | .returns _ => []
  | .panics _ => []
  | .asks next => .told true :: (next true).happenings
  | .submits inner next =>
    .entered inner :: inner.happenings ++
      match inner.outcome with
      | .returned value => .gave inner (.ok value) :: (next (.ok value)).happenings
      | .panicked _ => []

end Work

namespace Caller

/-- What comes of the outermost of the callers of work with an outcome.  A panic goes through all of them. -/
def outcome : List (Caller α) → Outcome α → Outcome α
  | [], ending => ending
  | _ :: _, .panicked panic => .panicked panic
  | caller :: callers, .returned value => outcome callers (caller.next (.ok value)).outcome

/-- What happens in the callers of work with an outcome. -/
def happenings : List (Caller α) → Outcome α → List (Happening α)
  | caller :: callers, .returned value =>
    .gave caller.inner (.ok value) ::
      ((caller.next (.ok value)).happenings ++ happenings callers (caller.next (.ok value)).outcome)
  | _, _ => []

theorem outcome_panicked (callers : List (Caller α)) (panic : Panic) :
    outcome callers (.panicked panic) = .panicked panic := by
  cases callers <;> rfl

theorem happenings_panicked (callers : List (Caller α)) (panic : Panic) :
    happenings callers (.panicked panic) = [] := by
  cases callers <;> rfl

/-- Work that submits is the first caller of what it submits. -/
theorem outcome_submits (inner : Work α) (next : Except Failure α → Work α) (callers : List (Caller α)) :
    outcome callers (Work.submits inner next).outcome = outcome (⟨inner, next⟩ :: callers) inner.outcome := by
  cases hinner : inner.outcome with
  | returned value => simp only [Work.outcome, hinner, outcome]
  | panicked panic => simp only [Work.outcome, hinner, outcome_panicked]

theorem happenings_submits (inner : Work α) (next : Except Failure α → Work α) (callers : List (Caller α)) :
    (Work.submits inner next).happenings ++ happenings callers (Work.submits inner next).outcome =
      .entered inner :: (inner.happenings ++ happenings (⟨inner, next⟩ :: callers) inner.outcome) := by
  cases hinner : inner.outcome with
  | returned value => simp [Work.happenings, Work.outcome, hinner, happenings]
  | panicked panic => simp [Work.happenings, Work.outcome, hinner, happenings_panicked]

end Caller

/-- What is left of a job under its callers comes to the same as the job, after what has happened already. -/
structure Work.Continues (work left : Work α) (callers : List (Caller α)) (past : List (Happening α)) :
    Prop where
  outcome_eq : Caller.outcome callers left.outcome = work.outcome
  happenings_eq : past ++ (left.happenings ++ Caller.happenings callers left.outcome) = work.happenings

/-- Happenings of one job that leave these of its submissions, the outermost first, without a result. -/
inductive Leaves : List (Work α) → List (Happening α) → Prop where
  | nil : Leaves [] []
  | told {left : List (Work α)} {rest : List (Happening α)} (onWorker : Bool) (hrest : Leaves left rest) :
      Leaves left (.told onWorker :: rest)
  | gave {left : List (Work α)} {within rest : List (Happening α)} (inner : Work α) (result : Except Failure α)
      (hwithin : Leaves [] within) (hrest : Leaves left rest) :
      Leaves left (.entered inner :: (within ++ .gave inner result :: rest))
  | broken {left : List (Work α)} {within : List (Happening α)} (inner : Work α) (hwithin : Leaves left within) :
      Leaves (inner :: left) (.entered inner :: within)

/-- What can happen in a job: it is told that it is on the worker, and its submissions are done in place and
give what their work returns. -/
def Happening.InPlace : Happening α → Prop
  | .told onWorker => onWorker = true
  | .entered _ => True
  | .enqueued .. => False
  | .gave inner result => ∃ value, inner.outcome = .returned value ∧ result = .ok value

namespace Work

/-- Work that returns has the result of each of its submissions. -/
theorem leaves_of_returned {work : Work α} {value : α} (h : work.outcome = .returned value) :
    Leaves [] work.happenings := by
  induction work generalizing value with
  | returns given => exact .nil
  | panics panic => cases h
  | asks next ih => exact .told true (ih true h)
  | submits inner next ihInner ih =>
    cases hinner : inner.outcome with
    | panicked panic => simp [outcome, hinner] at h
    | returned result =>
      simp only [outcome, hinner] at h
      simp only [happenings, hinner, List.cons_append]
      exact .gave inner (.ok result) (ihInner hinner) (ih (.ok result) h)

/-- A panic leaves those submissions without a result whose work it came from. -/
theorem leaves_of_panicked {work : Work α} {panic : Panic} (h : work.outcome = .panicked panic) :
    ∃ left, Leaves left work.happenings ∧ ∀ inner ∈ left, inner.outcome = .panicked panic := by
  induction work with
  | returns given => cases h
  | panics cause => exact ⟨[], .nil, nofun⟩
  | asks next ih =>
    obtain ⟨left, hleft, hall⟩ := ih true h
    exact ⟨left, .told true hleft, hall⟩
  | submits inner next ihInner ih =>
    cases hinner : inner.outcome with
    | returned result =>
      simp only [outcome, hinner] at h
      obtain ⟨left, hleft, hall⟩ := ih (.ok result) h
      simp only [happenings, hinner, List.cons_append]
      exact ⟨left, .gave inner (.ok result) (leaves_of_returned hinner) hleft, hall⟩
    | panicked cause =>
      simp only [outcome, hinner] at h
      obtain ⟨left, hleft, hall⟩ := ihInner (hinner.trans h)
      simp only [happenings, hinner, List.append_nil]
      exact ⟨inner :: left, .broken inner hleft, List.forall_mem_cons.mpr ⟨hinner.trans h, hall⟩⟩

/-- On the worker a submission is carried out where it is made. -/
theorem inPlace_of_mem {work : Work α} {happening : Happening α} (h : happening ∈ work.happenings) :
    happening.InPlace := by
  induction work with
  | returns given => cases h
  | panics panic => cases h
  | asks next ih =>
    cases h with
    | head => exact rfl
    | tail _ hrest => exact ih true hrest
  | submits inner next ihInner ih =>
    rw [happenings, List.cons_append, List.mem_cons, List.mem_append] at h
    obtain rfl | hwithin | hrest := h
    · trivial
    · exact ihInner hwithin
    · cases hinner : inner.outcome with
      | panicked panic => simp [hinner] at hrest
      | returned value =>
        rw [hinner] at hrest
        cases hrest with
        | head => exact ⟨value, hinner, rfl⟩
        | tail _ hnext => exact ih (.ok value) hnext

/-- A panic of work that was submitted inside is the panic of the whole. -/
theorem outcome_of_entered {work inner : Work α} {panic : Panic} (h : .entered inner ∈ work.happenings)
    (hinner : inner.outcome = .panicked panic) : work.outcome = .panicked panic := by
  induction work with
  | returns given => cases h
  | panics cause => cases h
  | asks next ih =>
    cases h with
    | tail _ hrest => exact ih true hrest
  | submits first next ihFirst ih =>
    rw [happenings, List.cons_append, List.mem_cons, List.mem_append] at h
    obtain hhead | hwithin | hrest := h
    · cases hhead
      simp only [outcome, hinner]
    · simp only [outcome, ihFirst hwithin]
    · cases hfirst : first.outcome with
      | panicked cause => simp [hfirst] at hrest
      | returned value =>
        rw [hfirst] at hrest
        simp only [outcome, hfirst]
        cases hrest with
        | tail _ hnext => exact ih (.ok value) hnext

/-- Fallible work that is submitted hands on its own result, also a failure. -/
theorem outcome_runs (inner : Work (Except Failure α))
    (next : Except Failure α → Work (Except Failure α)) :
    (inner.runs next).outcome =
      match inner.outcome with
      | .returned result => (next result).outcome
      | .panicked panic => .panicked panic := by
  cases hinner : inner.outcome <;> simp only [runs, outcome, hinner, Executor.flattened]

end Work

namespace Job

mutual

/-- A job that submits others comes to what it comes to in place. -/
theorem outcome_work (job : Job α) : job.work.outcome = job.run := by
  match job with
  | .value given => rfl
  | .failure cause => rfl
  | .panic reason => rfl
  | .thread describe => rfl
  | .nested inner combine =>
    rw [work, outcome_workAll, run]
    cases runAll inner <;> rfl

theorem outcome_workAll (jobs : List (Job α))
    (next : List (Except Failure α) → Work (Except Failure α)) :
    (workAll jobs next).outcome =
      match runAll jobs with
      | .returned results => (next results).outcome
      | .panicked cause => .panicked cause := by
  match jobs with
  | [] => rfl
  | job :: rest =>
    rw [workAll, Work.outcome_runs, outcome_work job, runAll]
    cases job.run with
    | panicked cause => rfl
    | returned result =>
      simp only [outcome_workAll rest]
      cases runAll rest <;> rfl

end

end Job

/-! ## What the worker keeps to -/

namespace Threads

/-- What has happened in a job so far. -/
def during (threads : Threads α) (number : Nat) : List (Happening α) :=
  threads.log.filterMap fun entry ↦ if entry.job = some number then some entry.happening else none

/-- The moves that the worker needs for jobs: to take them up, for what happens in them, and to reply. -/
def cost : List (Work α) → Nat
  | [] => 0
  | work :: rest => work.happenings.length + 2 + cost rest

/-- What the worker is at, between two jobs or within one, when it has made `count` moves. -/
inductive Serves (works : List (Work α)) (finished : Nat) (activity : Activity α) (queue : List (Work α × Nat))
    (past : List (Happening α)) (count : Nat) : Prop where
  | between (hactivity : activity = .free) (hqueue : queue = works.zipIdx.drop finished) (hpast : past = [])
      (hcount : count = cost (works.take finished))
  | within {work left : Work α} {callers : List (Caller α)}
      (hactivity : activity = .busy (some finished) left callers) (hwork : works[finished]? = some work)
      (hqueue : queue = works.zipIdx.drop (finished + 1)) (hleft : work.Continues left callers past)
      (hcount : count = cost (works.take finished) + 1 + past.length)

/-- What a thread other than the worker is at.  It has no callers, and what it awaits is the reply to its own
submission. -/
inductive Outside (works : List (Work α)) : Activity α → Prop where
  | busy (work : Work α) : Outside works (.busy none work [])
  | awaits {number : Nat} {caller : Caller α} (hnumber : works[number]? = some caller.inner) :
      Outside works (.awaits none number caller [])
  | ended (outcome : Outcome α) : Outside works (.ended outcome)

/-- What is known of threads after `count` moves of the worker, which has replied to the first jobs. -/
structure Orderly (worker count finished : Nat) (threads : Threads α) : Prop where
  finished_le : finished ≤ threads.submitted.length
  serves : Serves threads.submitted finished (threads.doing worker) threads.queue (threads.during finished) count
  replied : ∀ number work, number < finished → threads.submitted[number]? = some work →
    threads.replies number = some (Executor.submitted work.outcome) ∧ threads.during number = work.happenings
  unreplied : ∀ number, finished ≤ number → threads.replies number = none
  unbegun : ∀ number, finished < number → threads.during number = []
  outside : ∀ thread, thread ≠ worker → Outside threads.submitted (threads.doing thread)
  thread_eq : ∀ entry ∈ threads.log, entry.job ≠ none → entry.thread = worker
  result_eq : ∀ entry ∈ threads.log, entry.job = none → ∀ inner result,
    entry.happening = .gave inner result → result = Executor.submitted inner.outcome

variable {worker count finished thread : Nat} {threads next : Threads α}

theorem during_goOn (job : Option Nat) (happening : Happening α) (activity : Activity α) (number : Nat) :
    (threads.goOn thread job happening activity).during number =
      threads.during number ++ if job = some number then [happening] else [] := by
  by_cases hjob : job = some number <;> simp [during, goOn, hjob]

theorem cost_append (works more : List (Work α)) : cost (works ++ more) = cost works + cost more := by
  induction works with
  | nil => exact (Nat.zero_add _).symm
  | cons first rest ih => simp only [List.cons_append, cost, ih, Nat.add_assoc]

theorem cost_take_succ {works : List (Work α)} {number : Nat} {work : Work α}
    (h : works[number]? = some work) :
    cost (works.take (number + 1)) = cost (works.take number) + (work.happenings.length + 2) := by
  rw [List.take_add_one, h]
  exact cost_append _ _

theorem cost_take_mono (works : List (Work α)) {fewer more : Nat} (h : fewer ≤ more) :
    cost (works.take fewer) ≤ cost (works.take more) := by
  obtain ⟨rest, hrest⟩ : works.take fewer <+: works.take more := List.take_prefix_take_left h
  rw [← hrest, cost_append]
  exact Nat.le_add_right _ _

theorem Outside.concat {works : List (Work α)} {activity : Activity α} (h : Outside works activity)
    (work : Work α) : Outside (works ++ [work]) activity := by
  cases h with
  | busy work => exact .busy work
  | awaits hnumber =>
    exact .awaits (List.getElem?_append_left (List.getElem?_eq_some_iff.mp hnumber).1 ▸ hnumber)
  | ended outcome => exact .ended outcome

@[simp]
theorem turn_doing_self (activity : Activity α) : (threads.turn thread activity).doing thread = activity :=
  if_pos rfl

theorem turn_doing_of_ne {other : Nat} (h : other ≠ thread) (activity : Activity α) :
    (threads.turn thread activity).doing other = threads.doing other :=
  if_neg h

/-- Turning one of the other threads, or the worker, keeps the others where they belong. -/
theorem outside_turn {works : List (Work α)} {activity : Activity α}
    (h : ∀ other, other ≠ worker → Outside works (threads.doing other))
    (hactivity : thread ≠ worker → Outside works activity) (other : Nat) (hother : other ≠ worker) :
    Outside works ((threads.turn thread activity).doing other) := by
  by_cases hsame : other = thread
  · subst hsame
    rw [turn_doing_self]
    exact hactivity hother
  · rw [turn_doing_of_ne hsame]
    exact h other hother

/-- What is first in a queue from some number on is the work of that number. -/
theorem eq_of_drop_zipIdx {works : List (Work α)} {count : Nat} {first : Work α × Nat}
    {rest : List (Work α × Nat)} (h : works.zipIdx.drop count = first :: rest) :
    works[count]? = some first.1 ∧ first.2 = count ∧ rest = works.zipIdx.drop (count + 1) := by
  have hfirst : works.zipIdx[count]? = some first := by
    rw [← List.head?_drop, h]
    rfl
  rw [List.getElem?_zipIdx, Option.map_eq_some_iff] at hfirst
  obtain ⟨work, hwork, rfl⟩ := hfirst
  refine ⟨hwork, Nat.zero_add _, ?_⟩
  rw [← List.tail_drop, h]
  rfl

/-- A thread that has something to do can do it. -/
theorem exists_step_of_busy {job : Option Nat} {left : Work α} {callers : List (Caller α)}
    (hdoing : threads.doing thread = .busy job left callers) : ∃ next, threads.step worker thread = some next := by
  unfold step
  rw [hdoing]
  cases left with
  | returns value => cases callers <;> exact ⟨_, rfl⟩
  | panics panic => exact ⟨_, rfl⟩
  | asks after => exact ⟨_, rfl⟩
  | submits inner after => exact ⟨_, rfl⟩

namespace Orderly

theorem start (worker : Nat) (programs : Nat → Work α) : Orderly worker 0 0 (Threads.start worker programs) where
  finished_le := Nat.le_refl _
  serves := .between (if_pos rfl) rfl rfl rfl
  replied _ _ hlt _ := absurd hlt (Nat.not_lt_zero _)
  unreplied _ _ := rfl
  unbegun _ _ := rfl
  outside thread hthread := by
    simp only [Threads.start, if_neg hthread]
    exact .busy _
  thread_eq := nofun
  result_eq := nofun

/-! ### Moves of the worker -/

/-- Between two jobs nothing is left over of the one before. -/
theorem between (h : Orderly worker count finished threads) (hdoing : threads.doing worker = .free) :
    threads.queue = threads.submitted.zipIdx.drop finished ∧ threads.during finished = [] ∧
      count = cost (threads.submitted.take finished) := by
  obtain ⟨-, hqueue, hpast, hcount⟩ | ⟨hbusy, -, -, -, -⟩ := h.serves
  · exact ⟨hqueue, hpast, hcount⟩
  · cases hdoing.symm.trans hbusy

/-- Within a job, what is left continues it. -/
theorem within (h : Orderly worker count finished threads) {job : Option Nat} {left : Work α}
    {callers : List (Caller α)} (hdoing : threads.doing worker = .busy job left callers) :
    job = some finished ∧ ∃ work, threads.submitted[finished]? = some work ∧
      threads.queue = threads.submitted.zipIdx.drop (finished + 1) ∧
      work.Continues left callers (threads.during finished) ∧
      count = cost (threads.submitted.take finished) + 1 + (threads.during finished).length := by
  obtain ⟨hfree, -, -, -⟩ | ⟨hbusy, hwork, hqueue, hleft, hcount⟩ := h.serves
  · cases hdoing.symm.trans hfree
  · cases hdoing.symm.trans hbusy
    exact ⟨rfl, _, hwork, hqueue, hleft, hcount⟩

/-- The worker takes up the job after those it has replied to. -/
theorem begin (h : Orderly worker count finished threads) (hdoing : threads.doing worker = .free)
    {work : Work α} {number : Nat} {rest : List (Work α × Nat)} (hqueue : threads.queue = (work, number) :: rest) :
    Orderly worker (count + 1) finished
      { threads.turn worker (.busy (some number) work []) with queue := rest } := by
  obtain ⟨hdrop, hpast, hcount⟩ := h.between hdoing
  rw [hqueue] at hdrop
  obtain ⟨hwork, rfl, hrest⟩ := eq_of_drop_zipIdx hdrop.symm
  refine { h with serves := .within (turn_doing_self _) hwork hrest ⟨rfl, ?_⟩ ?_, outside := ?_ }
  · change threads.during _ ++ _ = _
    rw [hpast]
    exact List.append_nil _
  · change count + 1 = _ + (threads.during _).length
    rw [hpast, hcount]
    rfl
  · exact outside_turn h.outside (absurd rfl)

/-- Something happens in the job of the worker that belongs to it. -/
theorem goOn (h : Orderly worker count finished threads) {job : Option Nat} {left after : Work α}
    {callers callersAfter : List (Caller α)} {happening : Happening α}
    (hdoing : threads.doing worker = .busy job left callers)
    (houtcome : Caller.outcome callersAfter after.outcome = Caller.outcome callers left.outcome)
    (hhappenings : left.happenings ++ Caller.happenings callers left.outcome =
      happening :: (after.happenings ++ Caller.happenings callersAfter after.outcome)) :
    Orderly worker (count + 1) finished
      (threads.goOn worker job happening (.busy job after callersAfter)) := by
  obtain ⟨rfl, work, hwork, hqueue, hleft, hcount⟩ := h.within hdoing
  -- It is added to what has happened in the job in hand, and to nothing else.
  have hother : ∀ number, number ≠ finished →
      (threads.goOn worker (some finished) happening (.busy (some finished) after callersAfter)).during number =
        threads.during number := by
    intro number hnumber
    rw [during_goOn, if_neg (by simpa using Ne.symm hnumber), List.append_nil]
  constructor
  · exact h.finished_le
  · refine .within (turn_doing_self _) hwork hqueue ⟨houtcome.trans hleft.outcome_eq, ?_⟩ ?_
    · rw [during_goOn, if_pos rfl, List.append_assoc, List.singleton_append, ← hhappenings]
      exact hleft.happenings_eq
    · rw [during_goOn, if_pos rfl, List.length_append, hcount]
      rfl
  · intro number work hlt hnumber
    rw [hother number (Nat.ne_of_lt hlt)]
    exact h.replied number work hlt hnumber
  · exact h.unreplied
  · intro number hlt
    rw [hother number (Nat.ne_of_gt hlt)]
    exact h.unbegun number hlt
  · exact outside_turn h.outside (absurd rfl)
  · exact List.forall_mem_append.mpr ⟨h.thread_eq, List.forall_mem_singleton.mpr fun _ ↦ rfl⟩
  · exact List.forall_mem_append.mpr ⟨h.result_eq, List.forall_mem_singleton.mpr nofun⟩

/-- The worker replies to its job. -/
theorem finish (h : Orderly worker count finished threads) {job : Option Nat} {left : Work α}
    {callers : List (Caller α)} (hdoing : threads.doing worker = .busy job left callers)
    (hquiet : left.happenings ++ Caller.happenings callers left.outcome = []) :
    Orderly worker (count + 1) (finished + 1)
      (threads.finish worker (Caller.outcome callers left.outcome) job) := by
  obtain ⟨rfl, work, hwork, hqueue, ⟨houtcome, hhappenings⟩, hcount⟩ := h.within hdoing
  rw [hquiet, List.append_nil] at hhappenings
  constructor
  · exact (List.getElem?_eq_some_iff.mp hwork).1
  · refine .between (turn_doing_self _) hqueue (h.unbegun _ (Nat.lt_succ_self _)) ?_
    change count + 1 = cost (threads.submitted.take (finished + 1))
    rw [cost_take_succ hwork, hcount, hhappenings]
    omega
  · intro number other hlt hnumber
    obtain hbefore | rfl := Nat.lt_succ_iff_lt_or_eq.mp hlt
    · obtain ⟨hreply, hduring⟩ := h.replied number other hbefore hnumber
      exact ⟨(if_neg (Nat.ne_of_lt hbefore)).trans hreply, hduring⟩
    · cases hwork.symm.trans hnumber
      rw [houtcome]
      exact ⟨if_pos rfl, hhappenings⟩
  · intro number hle
    exact (if_neg (Nat.ne_of_gt hle)).trans (h.unreplied number (Nat.le_of_succ_le hle))
  · intro number hlt
    exact h.unbegun number (Nat.lt_of_succ_lt hlt)
  · exact outside_turn h.outside (absurd rfl)
  · exact h.thread_eq
  · exact h.result_eq

/-- What is left of a job begins with something that happens or is at its end, which a panic is at once. -/
theorem stepWorker (h : Orderly worker count finished threads)
    (hstep : threads.step worker worker = some next) : ∃ finished, Orderly worker (count + 1) finished next := by
  obtain ⟨hfree, -, -, -⟩ | @⟨work, left, callers, hbusy, -, -, -, -⟩ := h.serves
  · cases hqueue : threads.queue with
    | nil => simp [step, hfree, hqueue] at hstep
    | cons first rest =>
      simp only [step, hfree, hqueue, Option.some.injEq] at hstep
      exact ⟨finished, hstep ▸ h.begin hfree hqueue⟩
  · cases left with
    | returns value =>
      cases callers with
      | nil =>
        simp only [step, hbusy, Option.some.injEq] at hstep
        exact ⟨finished + 1, hstep ▸ h.finish hbusy rfl⟩
      | cons caller callers =>
        simp only [step, hbusy, Option.some.injEq] at hstep
        exact ⟨finished, hstep ▸ h.goOn hbusy rfl rfl⟩
    | panics panic =>
      simp only [step, hbusy, Option.some.injEq] at hstep
      have hcaught := h.finish hbusy (Caller.happenings_panicked callers panic)
      rw [Work.outcome, Caller.outcome_panicked] at hcaught
      exact ⟨finished + 1, hstep ▸ hcaught⟩
    | asks after =>
      simp only [step, hbusy, decide_true, Option.some.injEq] at hstep
      exact ⟨finished, hstep ▸ h.goOn hbusy rfl rfl⟩
    | submits inner after =>
      simp only [step, hbusy, submit, if_true, Option.some.injEq] at hstep
      exact ⟨finished, hstep ▸ h.goOn hbusy (Caller.outcome_submits inner after callers).symm
        (Caller.happenings_submits inner after callers)⟩

/-! ### Moves of other threads -/

/-- Work is put in the queue. -/
theorem enqueue (h : Orderly worker count finished threads) (work : Work α) :
    Orderly worker count finished
      { threads with
        submitted := threads.submitted ++ [work]
        queue := threads.queue ++ [(work, threads.submitted.length)] } := by
  have htake : (threads.submitted ++ [work]).take finished = threads.submitted.take finished :=
    List.take_append_of_le_length h.finished_le
  have hzip : (threads.submitted ++ [work]).zipIdx =
      threads.submitted.zipIdx ++ [(work, threads.submitted.length)] := by
    simp [List.zipIdx_append]
  refine { h with finished_le := ?_, serves := ?_, replied := ?_, outside := ?_ }
  · exact Nat.le_trans h.finished_le (by simp)
  · obtain ⟨hfree, hqueue, hpast, hcount⟩ | ⟨hbusy, hwork, hqueue, hleft, hcount⟩ := h.serves
    · refine .between hfree ?_ hpast (htake.symm ▸ hcount)
      rw [hzip, List.drop_append_of_le_length (by simpa using h.finished_le), ← hqueue]
    · have hlt := (List.getElem?_eq_some_iff.mp hwork).1
      refine .within hbusy (List.getElem?_append_left hlt ▸ hwork) ?_ hleft (htake.symm ▸ hcount)
      rw [hzip, List.drop_append_of_le_length (by simpa using Nat.succ_le_of_lt hlt), ← hqueue]
  · intro number other hlt hnumber
    rw [List.getElem?_append_left (Nat.lt_of_lt_of_le hlt h.finished_le)] at hnumber
    exact h.replied number other hlt hnumber
  · intro thread hthread
    exact (h.outside thread hthread).concat work

/-- Something happens to a thread, which is not in a job. -/
theorem goOnOutside (h : Orderly worker count finished threads) (hthread : thread ≠ worker)
    {happening : Happening α} {activity : Activity α} (hactivity : Outside threads.submitted activity)
    (hgave : ∀ inner result, happening = .gave inner result → result = Executor.submitted inner.outcome) :
    Orderly worker count finished (threads.goOn thread none happening activity) := by
  have hduring : ∀ number, (threads.goOn thread none happening activity).during number =
      threads.during number := by
    intro number
    rw [during_goOn, if_neg nofun, List.append_nil]
  constructor
  · exact h.finished_le
  · rw [hduring]
    change Serves _ _ ((threads.turn thread activity).doing worker) _ _ _
    rw [turn_doing_of_ne hthread.symm]
    exact h.serves
  · simp only [hduring]
    exact h.replied
  · exact h.unreplied
  · simp only [hduring]
    exact h.unbegun
  · exact outside_turn h.outside fun _ ↦ hactivity
  · exact List.forall_mem_append.mpr ⟨h.thread_eq, List.forall_mem_singleton.mpr fun hjob ↦ absurd rfl hjob⟩
  · exact List.forall_mem_append.mpr ⟨h.result_eq, List.forall_mem_singleton.mpr fun _ ↦ hgave⟩

/-- A thread comes to its end. -/
theorem finishOutside (h : Orderly worker count finished threads) (hthread : thread ≠ worker)
    (outcome : Outcome α) : Orderly worker count finished (threads.finish thread outcome none) := by
  refine { h with serves := ?_, outside := ?_ }
  · change Serves _ _ ((threads.turn thread (.ended outcome)).doing worker) _ _ _
    rw [turn_doing_of_ne hthread.symm]
    exact h.serves
  · exact outside_turn h.outside fun _ ↦ .ended outcome

/-- Whatever was replied to a submission is what its own work came to. -/
theorem reply_eq (h : Orderly worker count finished threads) {number : Nat} {reply : Except Failure α}
    (hreply : threads.replies number = some reply) :
    ∃ work, threads.submitted[number]? = some work ∧ reply = Executor.submitted work.outcome ∧
      threads.during number = work.happenings := by
  have hlt : number < finished := by
    by_contra hle
    rw [h.unreplied number (Nat.le_of_not_lt hle)] at hreply
    cases hreply
  have hwork := List.getElem?_eq_getElem (Nat.lt_of_lt_of_le hlt h.finished_le)
  obtain ⟨hown, hduring⟩ := h.replied number _ hlt hwork
  exact ⟨_, hwork, Option.some.inj (hreply.symm.trans hown), hduring⟩

/-- What other threads do leaves the worker's jobs alone. -/
theorem stepOutside (h : Orderly worker count finished threads) (hthread : thread ≠ worker)
    (hstep : threads.step worker thread = some next) : Orderly worker count finished next := by
  have houtside := h.outside thread hthread
  generalize hdoing : threads.doing thread = activity at houtside
  cases houtside with
  | ended outcome => simp [step, hdoing] at hstep
  | @awaits number caller hnumber =>
    simp only [step, hdoing, Option.map_eq_some_iff] at hstep
    obtain ⟨reply, hreply, rfl⟩ := hstep
    refine h.goOnOutside hthread (.busy _) ?_
    rintro _ _ ⟨⟩
    obtain ⟨work, hwork, hown, -⟩ := h.reply_eq hreply
    rw [Option.some.inj (hnumber.symm.trans hwork)]
    exact hown
  | busy work =>
    cases work with
    | returns value =>
      simp only [step, hdoing, Option.some.injEq] at hstep
      exact hstep ▸ h.finishOutside hthread _
    | panics panic =>
      simp only [step, hdoing, Option.some.injEq] at hstep
      exact hstep ▸ h.finishOutside hthread _
    | asks after =>
      simp only [step, hdoing, Option.some.injEq] at hstep
      exact hstep ▸ h.goOnOutside hthread (.busy _) nofun
    | submits inner after =>
      simp only [step, hdoing, submit, if_neg hthread, Option.some.injEq] at hstep
      exact hstep ▸ (h.enqueue inner).goOnOutside hthread (.awaits List.getElem?_concat_length) nofun

/-- Every move keeps to the order of the jobs. -/
theorem step (h : Orderly worker count finished threads) (hstep : threads.step worker thread = some next) :
    ∃ finished, Orderly worker (count + [thread].count worker) finished next := by
  by_cases hthread : thread = worker
  · subst hthread
    rw [List.count_singleton_self]
    exact h.stepWorker hstep
  · rw [List.count_singleton, if_neg (by simpa using hthread)]
    exact ⟨finished, h.stepOutside hthread hstep⟩

end Orderly

theorem run_concat (movers : List Nat) (mover : Nat) :
    threads.run worker (movers ++ [mover]) =
      (threads.run worker movers).bind fun before ↦ before.step worker mover := by
  unfold run
  rw [List.foldlM_append]
  refine congrArg _ (funext fun before ↦ ?_)
  exact bind_pure _

/-- By induction on the moves, the last one split off. -/
theorem orderly_run (worker : Nat) (programs : Nat → Work α) (movers : List Nat)
    (h : (start worker programs).run worker movers = some threads) :
    ∃ finished, Orderly worker (movers.count worker) finished threads := by
  induction movers using List.reverseRecOn generalizing threads with
  | nil =>
    cases h
    exact ⟨0, .start worker programs⟩
  | append_singleton movers mover ih =>
    rw [run_concat] at h
    obtain ⟨before, hbefore, hstep⟩ := Option.bind_eq_some_iff.mp h
    obtain ⟨finished, horderly⟩ := ih hbefore
    rw [List.count_append]
    exact horderly.step hstep

/-! ## What nested submissions come to -/

namespace Orderly

/-- What has happened in a job is the beginning of what happens in its work. -/
theorem during_isPrefix (h : Orderly worker count finished threads) (number : Nat) :
    threads.during number = [] ∨
      ∃ work, threads.submitted[number]? = some work ∧ threads.during number <+: work.happenings := by
  obtain hlt | rfl | hgt := Nat.lt_trichotomy number finished
  · have hwork := List.getElem?_eq_getElem (Nat.lt_of_lt_of_le hlt h.finished_le)
    exact .inr ⟨_, hwork, (h.replied number _ hlt hwork).2 ▸ List.prefix_rfl⟩
  · obtain ⟨-, -, hpast, -⟩ | ⟨-, hwork, -, ⟨-, hhappenings⟩, -⟩ := h.serves
    · exact .inl hpast
    · exact .inr ⟨_, hwork, _, hhappenings⟩
  · exact .inl (h.unbegun number hgt)

theorem begun (h : Orderly worker count finished threads) {number : Nat} {work : Work α}
    (hwork : threads.submitted[number]? = some work) : threads.during number <+: work.happenings := by
  obtain hnothing | ⟨other, hother, hpart⟩ := h.during_isPrefix number
  · rw [hnothing]
    exact List.nil_prefix
  · rwa [Option.some.inj (hwork.symm.trans hother)]

theorem inPlace (h : Orderly worker count finished threads) {entry : Entry α} (hentry : entry ∈ threads.log)
    (hjob : entry.job ≠ none) : entry.happening.InPlace := by
  obtain ⟨number, hnumber⟩ := Option.ne_none_iff_exists'.mp hjob
  have hmem : entry.happening ∈ threads.during number :=
    List.mem_filterMap.mpr ⟨entry, hentry, if_pos hnumber⟩
  obtain hnothing | ⟨work, -, hpart⟩ := h.during_isPrefix number
  · rw [hnothing] at hmem
    cases hmem
  · exact Work.inPlace_of_mem (hpart.subset hmem)

/-- A thread that cannot move is done, or waits for a reply that has not come. -/
theorem held (h : Orderly worker count finished threads) (hthread : thread ≠ worker)
    (hstuck : threads.step worker thread = none) :
    (∃ outcome, threads.doing thread = .ended outcome) ∨
      ∃ number caller, threads.doing thread = .awaits none number caller [] ∧
        threads.submitted[number]? = some caller.inner ∧ threads.replies number = none := by
  have houtside := h.outside thread hthread
  generalize hdoing : threads.doing thread = activity at houtside
  cases houtside with
  | ended outcome => exact .inl ⟨outcome, rfl⟩
  | @awaits number caller hnumber =>
    simp only [Threads.step, hdoing, Option.map_eq_none_iff] at hstuck
    exact .inr ⟨number, caller, rfl, hnumber, hstuck⟩
  | busy work =>
    obtain ⟨next, hnext⟩ : ∃ next, threads.step worker thread = some next := exists_step_of_busy hdoing
    cases hstuck.symm.trans hnext

/-- While a job is unanswered, the worker has not yet made all the moves for it. -/
theorem count_lt (h : Orderly worker count finished threads) (hlt : finished < threads.submitted.length) :
    count < cost (threads.submitted.take (finished + 1)) := by
  have hwork := List.getElem?_eq_getElem hlt
  rw [cost_take_succ hwork]
  obtain ⟨-, -, -, hcount⟩ | ⟨-, hjob, -, ⟨-, hhappenings⟩, hcount⟩ := h.serves
  · omega
  · cases hwork.symm.trans hjob
    have hlength := congrArg List.length hhappenings
    rw [List.length_append] at hlength
    omega

/-- The worker can make a move while anything is unanswered. -/
theorem unstuck (h : Orderly worker count finished threads) (hlt : finished < threads.submitted.length) :
    ∃ next, threads.step worker worker = some next := by
  obtain ⟨hfree, hqueue, -, -⟩ | ⟨hbusy, -, -, -, -⟩ := h.serves
  · cases hrest : threads.queue with
    | nil =>
      rw [hrest, eq_comm, List.drop_eq_nil_iff, List.length_zipIdx] at hqueue
      exact absurd hlt (Nat.not_lt.mpr hqueue)
    | cons first rest =>
      unfold Threads.step
      rw [hfree, hrest]
      exact ⟨_, rfl⟩
  · exact exists_step_of_busy hbusy

end Orderly

/-- What is known of threads around a worker after any of their moves. -/
structure NestingLaws (worker : Nat) (movers : List Nat) (threads : Threads α) : Prop where
  /-- All of a job is done on the worker and is told so.  What it submits is done in place and gives what that
  work returns, never a failure of the submission. -/
  inPlace : ∀ entry ∈ threads.log, entry.job ≠ none → entry.thread = worker ∧ entry.happening.InPlace
  /-- The worker waits for no reply. -/
  waitless : ∀ job number caller callers, threads.doing worker ≠ .awaits job number caller callers
  /-- The worker can go on while anything is unanswered. -/
  unstuck : ∀ number < threads.submitted.length, threads.replies number = none →
    ∃ next, threads.step worker worker = some next
  /-- A submission is answered as soon as the worker has made the moves for it and for those before it. -/
  prompt : ∀ number < threads.submitted.length,
    cost (threads.submitted.take (number + 1)) ≤ movers.count worker →
      ∃ reply, threads.replies number = some reply
  /-- Another thread that cannot go on is at its end or waits for the reply to its own submission. -/
  held : ∀ thread, thread ≠ worker → threads.step worker thread = none →
    (∃ outcome, threads.doing thread = .ended outcome) ∨
      ∃ number caller, threads.doing thread = .awaits none number caller [] ∧
        threads.submitted[number]? = some caller.inner ∧ threads.replies number = none
  /-- A job goes as its work does when each submission in it is a call. -/
  begun : ∀ number work, threads.submitted[number]? = some work → threads.during number <+: work.happenings
  /-- A reply is what the job comes to as a call.  After a panic, which alone makes it a failure, no submission
  has given a result whose work the panic came from. -/
  evaluated : ∀ number reply, threads.replies number = some reply →
    ∃ work, threads.submitted[number]? = some work ∧ threads.during number = work.happenings ∧
      match work.outcome with
      | .returned value => reply = .ok value ∧ Leaves [] (threads.during number)
      | .panicked panic => reply = .error Executor.panicFailure ∧
          ∃ left, Leaves left (threads.during number) ∧ ∀ inner ∈ left, inner.outcome = .panicked panic
  /-- A panic at any depth is the panic of the whole job. -/
  spreads : ∀ number work inner panic, threads.submitted[number]? = some work →
    .entered inner ∈ threads.during number → inner.outcome = .panicked panic → work.outcome = .panicked panic
  /-- A submission from outside gives what its work comes to, and a failure just if that is a panic. -/
  reported : ∀ entry ∈ threads.log, entry.job = none → ∀ inner result, entry.happening = .gave inner result →
    result = match inner.outcome with
      | .returned value => .ok value
      | .panicked _ => .error Executor.panicFailure
  /-- Fallible work hands on its own result, also a failure. -/
  flattened : ∀ {β : Type} (inner : Work (Except Failure β))
    (next : Except Failure β → Work (Except Failure β)), (inner.runs next).outcome =
      match inner.outcome with
      | .returned result => (next result).outcome
      | .panicked panic => .panicked panic
  /-- A job of which the jobs inside are submitted comes to what it does when they are run. -/
  ofJob : ∀ {β : Type} (job : Job β), job.work.outcome = job.run

/-- A job in which a panic comes from two submissions deep, and then one that multiplies what a submission gives
where it is on the worker. -/
def panickingThenNested : Work Nat :=
  .submits (.submits (.submits (.panics ⟨none⟩) fun _ ↦ .returns 1) fun _ ↦ .returns 2) fun _ ↦
    .submits
      (.asks fun onWorker ↦ .submits (.returns 7) fun result ↦
        .returns (if onWorker then 6 * result.toOption.getD 0 else 0))
      fun result ↦ .returns (result.toOption.getD 0)

end Threads

end ContainerConstruction
