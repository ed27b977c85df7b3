import ContainerConstruction.Executor.Queue
import Mathlib.Data.List.Induction

/-!
# Work in the order of its submission

However the moves of the threads and of the worker are mixed, the worker does what `Worker.serial` does: it
takes up all work in the order in which it was handed in, one after the other, and what it replies to a
submission is what comes of that very work.  Panicking work is answered like any other, and the work behind it
is done as if it had returned.

The worker never gets stuck while anything is unanswered.  `Worker.cost` is how many moves it needs.
-/

namespace ContainerConstruction

variable {I : Interface} {σ α : Type}

def WorkerMove.isOfWorker : WorkerMove I α → Bool
  | .begin | .call | .finish => true
  | _ => false

namespace Worker

variable (machine : Machine I σ)

/-! ## Work done in a row -/

/-- The replies to work that is done in a row. -/
def serialReplies (works : List (Program I α)) (state : σ) : List (Except Failure α) :=
  (serial machine works state).1

/-- The state that work leaves which is done in a row. -/
def serialState (works : List (Program I α)) (state : σ) : σ := (serial machine works state).2

/-- The moves that the worker needs for work: to take it up, to make its calls and to send the reply. -/
def cost : List (Program I α) → σ → Nat
  | [], _ => 0
  | work :: rest, state => (work.trace machine state).length + 2 + cost rest (work.run machine state).2

/-- The next work finds the state that the others have left. -/
theorem serialState_concat (works : List (Program I α)) (work : Program I α) (state : σ) :
    serialState machine (works ++ [work]) state =
      (work.run machine (serialState machine works state)).2 := by
  induction works generalizing state with
  | nil => rfl
  | cons first rest ih => exact ih (first.run machine state).2

theorem serialReplies_concat (works : List (Program I α)) (work : Program I α) (state : σ) :
    serialReplies machine (works ++ [work]) state = serialReplies machine works state ++
      [Executor.submitted (work.run machine (serialState machine works state)).1] := by
  induction works generalizing state with
  | nil => rfl
  | cons first rest ih => exact congrArg (List.cons _) (ih (first.run machine state).2)

theorem length_serialReplies (works : List (Program I α)) (state : σ) :
    (serialReplies machine works state).length = works.length := by
  induction works generalizing state with
  | nil => rfl
  | cons first rest ih => exact congrArg Nat.succ (ih (first.run machine state).2)

theorem cost_concat (works : List (Program I α)) (work : Program I α) (state : σ) :
    cost machine (works ++ [work]) state =
      cost machine works state + ((work.trace machine (serialState machine works state)).length + 2) := by
  induction works generalizing state with
  | nil => exact Nat.add_comm _ _
  | cons first rest ih =>
    have hrest := ih (first.run machine state).2
    simp only [List.cons_append, cost, hrest]
    exact (Nat.add_assoc _ _ _).symm

theorem cost_le_append (works more : List (Program I α)) (state : σ) :
    cost machine works state ≤ cost machine (works ++ more) state := by
  induction works generalizing state with
  | nil => exact Nat.zero_le _
  | cons first rest ih => exact Nat.add_le_add_left (ih (first.run machine state).2) _

/-! ## What the worker keeps to -/

/-- Work under the numbers of its submission. -/
def numbered (works : List (Program I α)) : List (Submission I α) :=
  works.zipIdx.map fun (work, number) ↦ ⟨number, work⟩

def answers (worker : Worker I σ α) : List (Nat × Except Failure α) := worker.replies ++ worker.received

/-- What is left of work after some of its calls comes to the same as the work itself. -/
structure Continues (work : Program I α) (before : σ) (left : Program I α) (now : σ) (made : Nat) : Prop where
  run_eq : left.run machine now = work.run machine before
  trace_eq : made + (left.trace machine now).length = (work.trace machine before).length

/-- What is known of a worker that has made `count` moves and finished the first works. -/
structure Orderly (start : σ) (count finished : Nat) (worker : Worker I σ α) : Prop where
  queue_eq : worker.queue = (numbered worker.submitted).drop worker.begun.length
  begun_eq : worker.begun = List.range (finished + worker.current.toList.length)
  begun_le : worker.begun.length ≤ worker.submitted.length
  answers_perm : worker.answers.Perm
    ((List.range finished).zip (serialReplies machine (worker.submitted.take finished) start))
  idle : worker.current = none →
    worker.state = serialState machine (worker.submitted.take finished) start ∧
      count = cost machine (worker.submitted.take finished) start
  busy : ∀ submission, worker.current = some submission → submission.number = finished ∧
    ∃ work made, worker.submitted[finished]? = some work ∧
      Continues machine work (serialState machine (worker.submitted.take finished) start) submission.work
        worker.state made ∧
      count = cost machine (worker.submitted.take finished) start + 1 + made

variable {machine} {start : σ} {count finished : Nat} {worker next : Worker I σ α}

theorem numbered_concat (works : List (Program I α)) (work : Program I α) :
    numbered (works ++ [work]) = numbered works ++ [⟨works.length, work⟩] := by
  simp [numbered, List.zipIdx_append]

theorem length_numbered (works : List (Program I α)) : (numbered works).length = works.length := by
  simp [numbered]

theorem getElem?_numbered (works : List (Program I α)) (number : Nat) :
    (numbered works)[number]? = works[number]?.map fun work ↦ ⟨number, work⟩ := by
  simp [numbered, Function.comp_def]

/-- What is first in a queue from some number on is the work of that number. -/
theorem eq_of_drop_numbered {works : List (Program I α)} {count : Nat} {first : Submission I α}
    {rest : List (Submission I α)} (h : (numbered works).drop count = first :: rest) :
    works[count]? = some first.work ∧ first.number = count ∧ (numbered works).drop (count + 1) = rest := by
  have hfirst : works[count]?.map (fun work ↦ ⟨count, work⟩) = some first := by
    rw [← getElem?_numbered, ← List.head?_drop, h]
    rfl
  obtain ⟨work, hwork, rfl⟩ := Option.map_eq_some_iff.mp hfirst
  refine ⟨hwork, rfl, ?_⟩
  rw [← List.tail_drop, h]
  rfl

theorem orderly_idle (start : σ) : Orderly machine start 0 0 (idle start : Worker I σ α) where
  queue_eq := rfl
  begun_eq := rfl
  begun_le := Nat.le_refl _
  answers_perm := .refl _
  idle _ := ⟨rfl, rfl⟩
  busy := nofun

theorem run_of_outcome? {left : Program I α} {outcome : Outcome α} (h : outcome? left = some outcome)
    (state : σ) : left.run machine state = (outcome, state) ∧ left.trace machine state = [] := by
  cases left with
  | done value =>
    cases h
    exact ⟨rfl, rfl⟩
  | panics panic =>
    cases h
    exact ⟨rfl, rfl⟩
  | call question after => cases h

/-- One of several replies with different numbers is found under its number, and it is the only one that is
taken away with it. -/
theorem lookup_of_mem {replies : List (Nat × Except Failure α)} {number : Nat} {reply : Except Failure α}
    (hkeys : (replies.map (·.1)).Nodup) (h : (number, reply) ∈ replies) :
    replies.lookup number = some reply ∧
      replies.Perm ((number, reply) :: replies.filter (·.1 ≠ number)) := by
  obtain ⟨before, after, rfl⟩ := List.append_of_mem h
  rw [List.map_append, List.map_cons] at hkeys
  have hothers : ∀ other ∈ before ++ after, other.1 ≠ number := by
    intro other hother hsame
    have hnodup := (List.perm_middle.nodup_iff.mp hkeys)
    rw [List.nodup_cons, ← List.map_append] at hnodup
    exact hnodup.1 (hsame ▸ List.mem_map_of_mem (f := (·.1)) hother)
  constructor
  · refine List.lookup_eq_some_iff.mpr ⟨before, after, rfl, fun other hother ↦ ?_⟩
    exact bne_iff_ne.mpr (hothers other (List.mem_append_left _ hother)).symm
  · have hfilter : (before ++ (number, reply) :: after).filter (·.1 ≠ number) = before ++ after := by
      rw [List.filter_append, List.filter_cons_of_neg (by simp), ← List.filter_append]
      exact List.filter_eq_self.mpr fun other hother ↦ decide_eq_true (hothers other hother)
    rw [hfilter]
    exact List.perm_middle

namespace Orderly

theorem length_begun (h : Orderly machine start count finished worker) :
    worker.begun.length = finished + worker.current.toList.length := by
  rw [h.begun_eq, List.length_range]

theorem finished_le (h : Orderly machine start count finished worker) :
    finished ≤ worker.submitted.length := by
  have hlength := h.length_begun
  have hle := h.begun_le
  omega

/-- The keys of the replies are the numbers of the finished work. -/
theorem keys_perm (h : Orderly machine start count finished worker) :
    (worker.answers.map (·.1)).Perm (List.range finished) := by
  have hkeys := h.answers_perm.map (·.1)
  rwa [List.map_fst_zip] at hkeys
  rw [length_serialReplies, List.length_range, List.length_take]
  exact Nat.le_min.mpr ⟨Nat.le_refl _, h.finished_le⟩

/-- No submission is answered twice. -/
theorem nodup_replies (h : Orderly machine start count finished worker) :
    (worker.replies.map (·.1)).Nodup := by
  have hall := h.keys_perm.nodup_iff.mpr List.nodup_range
  rw [answers, List.map_append] at hall
  exact (List.nodup_append.mp hall).1

/-- A submission changes nothing of what has been finished. -/
theorem enqueue (h : Orderly machine start count finished worker) {work : Program I α}
    (hstep : worker.step machine (.enqueue work) = some next) :
    Orderly machine start count finished next := by
  cases hstep
  have htake : (worker.submitted ++ [work]).take finished = worker.submitted.take finished :=
    List.take_append_of_le_length h.finished_le
  constructor
  · simp only [h.queue_eq, numbered_concat]
    rw [List.drop_append_of_le_length]
    rw [length_numbered]
    exact h.begun_le
  · exact h.begun_eq
  · exact Nat.le_trans h.begun_le (by simp)
  · simp only [htake]
    exact h.answers_perm
  · simp only [htake]
    exact h.idle
  · simp only [htake]
    intro submission hcurrent
    obtain ⟨hnumber, begun, made, hbegun, hrest⟩ := h.busy submission hcurrent
    exact ⟨hnumber, begun, made, List.getElem?_append_left
      (List.getElem?_eq_some_iff.mp hbegun).1 ▸ hbegun, hrest⟩

/-- The worker takes up the work that is first in the queue, which is the first that was not begun. -/
theorem begin (h : Orderly machine start count finished worker)
    (hstep : worker.step machine .begin = some next) :
    Orderly machine start (count + 1) finished next := by
  cases hcurrent : worker.current with
  | some submission => simp [step, hcurrent] at hstep
  | none =>
  cases hqueue : worker.queue with
  | nil => simp [step, hcurrent, hqueue] at hstep
  | cons first rest =>
  have hbegun : worker.begun.length = finished := by
    rw [h.length_begun, hcurrent]
    rfl
  have hdrop : (numbered worker.submitted).drop finished = first :: rest := by
    rw [← hqueue, h.queue_eq, hbegun]
  obtain ⟨hwork, rfl, hrest⟩ := eq_of_drop_numbered hdrop
  have hlt : first.number < worker.submitted.length := (List.getElem?_eq_some_iff.mp hwork).1
  obtain ⟨hstate, hcount⟩ := h.idle hcurrent
  simp only [step, hcurrent, hqueue, Option.some.injEq] at hstep
  subst hstep
  constructor
  · simp only [List.length_append, hbegun, List.length_singleton, hrest]
  · simp only [h.begun_eq, hcurrent]
    exact (List.range_succ).symm
  · simpa [hbegun] using Nat.succ_le_of_lt hlt
  · exact h.answers_perm
  · nofun
  · rintro _ ⟨⟩
    exact ⟨rfl, first.work, 0, hwork, ⟨congrArg (first.work.run machine) hstate,
      by rw [Nat.zero_add]; exact congrArg (fun state ↦ (first.work.trace machine state).length) hstate⟩,
      congrArg (· + 1) hcount⟩

/-- A call of the work in progress is one of its own calls. -/
theorem call (h : Orderly machine start count finished worker)
    (hstep : worker.step machine .call = some next) :
    Orderly machine start (count + 1) finished next := by
  cases hcurrent : worker.current with
  | none => simp [step, hcurrent] at hstep
  | some submission =>
  obtain ⟨number, left⟩ := submission
  obtain ⟨hnumber, work, made, hwork, ⟨hrun, htrace⟩, hcount⟩ := h.busy _ hcurrent
  cases left with
  | done value => simp [step, hcurrent] at hstep
  | panics panic => simp [step, hcurrent] at hstep
  | call question after =>
  simp only [step, hcurrent, Option.some.injEq] at hstep
  subst hstep
  constructor
  · exact h.queue_eq
  · simpa [hcurrent] using h.begun_eq
  · exact h.begun_le
  · exact h.answers_perm
  · nofun
  · rintro _ ⟨⟩
    refine ⟨hnumber, work, made + 1, hwork, ⟨hrun, ?_⟩, congrArg (· + 1) hcount⟩
    rw [← htrace]
    exact Nat.add_right_comm made 1 _

/-- The reply that is sent is what comes of the work from the state that the work before it has left. -/
theorem finish (h : Orderly machine start count finished worker)
    (hstep : worker.step machine .finish = some next) :
    Orderly machine start (count + 1) (finished + 1) next := by
  cases hcurrent : worker.current with
  | none => simp [step, hcurrent] at hstep
  | some submission =>
  obtain ⟨number, left⟩ := submission
  obtain ⟨hnumber, work, made, hwork, ⟨hrun, htrace⟩, hcount⟩ := h.busy _ hcurrent
  simp only [step, hcurrent, Option.map_eq_some_iff] at hstep
  obtain ⟨outcome, houtcome, rfl⟩ := hstep
  obtain ⟨hleft, hquiet⟩ := run_of_outcome? houtcome worker.state
  have hended : work.run machine (serialState machine (worker.submitted.take finished) start) =
      (outcome, worker.state) := by rw [← hrun, hleft]
  have htake : worker.submitted.take (finished + 1) = worker.submitted.take finished ++ [work] := by
    rw [List.take_add_one, hwork]
    rfl
  constructor
  · exact h.queue_eq
  · simpa [hcurrent] using h.begun_eq
  · exact h.begun_le
  · simp only [htake, serialReplies_concat, hended, List.range_succ]
    rw [List.zip_append]
    · subst hnumber
      have hsent : (worker.replies ++ [(number, Executor.submitted outcome)] ++ worker.received).Perm
          (worker.answers ++ [(number, Executor.submitted outcome)]) := by
        rw [answers, List.append_assoc, List.append_assoc]
        exact List.perm_append_comm.append_left worker.replies
      exact hsent.trans (h.answers_perm.append_right _)
    · rw [length_serialReplies, List.length_range, List.length_take, Nat.min_eq_left h.finished_le]
  · intro _
    rw [hquiet, List.length_nil, Nat.add_zero] at htrace
    simp only [htake, serialState_concat, cost_concat, hended, ← htrace, true_and]
    omega
  · nofun

/-- A reply that is received is one that was sent. -/
theorem receive (h : Orderly machine start count finished worker) {number : Nat}
    (hstep : worker.step machine (.receive number) = some next) :
    Orderly machine start count finished next := by
  simp only [step, Option.map_eq_some_iff] at hstep
  obtain ⟨reply, hreply, rfl⟩ := hstep
  obtain ⟨before, after, hreplies, -⟩ := List.lookup_eq_some_iff.mp hreply
  have hmem : (number, reply) ∈ worker.replies := hreplies ▸ List.mem_append_right _ (.head _)
  have hsame : (worker.replies.filter (·.1 ≠ number) ++ (worker.received ++ [(number, reply)])).Perm
      worker.answers := by
    rw [← List.append_assoc]
    exact (List.perm_append_singleton _ _).trans ((lookup_of_mem h.nodup_replies hmem).2.append_right _).symm
  exact ⟨h.queue_eq, h.begun_eq, h.begun_le, hsame.trans h.answers_perm, h.idle, h.busy⟩

/-- A move of the worker counts, and a move of a thread does not. -/
theorem step (h : Orderly machine start count finished worker) {move : WorkerMove I α}
    (hstep : worker.step machine move = some next) :
    ∃ finished, Orderly machine start (count + [move].countP (·.isOfWorker)) finished next := by
  cases move with
  | enqueue work => exact ⟨finished, h.enqueue hstep⟩
  | begin => exact ⟨finished, h.begin hstep⟩
  | call => exact ⟨finished, h.call hstep⟩
  | finish => exact ⟨finished + 1, h.finish hstep⟩
  | receive number => exact ⟨finished, h.receive hstep⟩

end Orderly

theorem run_concat (moves : List (WorkerMove I α)) (move : WorkerMove I α) :
    worker.run machine (moves ++ [move]) =
      (worker.run machine moves).bind fun before ↦ before.step machine move := by
  unfold run
  rw [List.foldlM_append]
  refine congrArg _ (funext fun before ↦ ?_)
  exact bind_pure _

/-- By induction on the moves, the last one split off. -/
theorem orderly_run (moves : List (WorkerMove I α)) (h : run machine (idle start) moves = some worker) :
    ∃ finished, Orderly machine start (moves.countP (·.isOfWorker)) finished worker := by
  induction moves using List.reverseRecOn generalizing worker with
  | nil =>
    cases h
    exact ⟨0, orderly_idle start⟩
  | append_singleton moves move ih =>
    rw [run_concat] at h
    obtain ⟨before, hbefore, hstep⟩ := Option.bind_eq_some_iff.mp h
    obtain ⟨finished, horderly⟩ := ih hbefore
    rw [List.countP_append]
    exact horderly.step hstep

/-! ## Replies -/

variable (machine)

/-- The reply to a submission when all work is done in a row: what comes of its own work, from the state that
the work before it has left. -/
theorem getElem?_serialReplies (works : List (Program I α)) (state : σ) (number : Nat) :
    (serialReplies machine works state)[number]? = works[number]?.map fun work ↦
      Executor.submitted (work.run machine (serialState machine (works.take number) state)).1 := by
  induction works generalizing state number with
  | nil => rfl
  | cons first rest ih =>
    cases number with
    | zero => rfl
    | succ number => exact ih (first.run machine state).2 number

theorem cost_take_le (works : List (Program I α)) (state : σ) {fewer more : Nat} (h : fewer ≤ more) :
    cost machine (works.take fewer) state ≤ cost machine (works.take more) state := by
  have hsplit : works.take more = works.take fewer ++ (works.take more).drop fewer := by
    calc
      works.take more = (works.take more).take fewer ++ (works.take more).drop fewer :=
        (List.take_append_drop _ _).symm
      _ = _ := by rw [List.take_take, Nat.min_eq_left h]
  rw [hsplit]
  exact cost_le_append machine _ _ state

theorem cost_take_succ {works : List (Program I α)} {number : Nat} {work : Program I α}
    (h : works[number]? = some work) (state : σ) :
    cost machine (works.take (number + 1)) state = cost machine (works.take number) state +
      ((work.trace machine (serialState machine (works.take number) state)).length + 2) := by
  rw [List.take_add_one, h]
  exact cost_concat machine _ _ _

/-- What is known of a worker after moves of the threads and of its own, made in any order. -/
structure SerialLaws (start : σ) (moves : List (WorkerMove I α)) (worker : Worker I σ α) : Prop where
  /-- Work is taken up in the order in which it was handed in, each once. -/
  ordered : worker.begun = List.range worker.begun.length
  /-- What was not taken up is still in the queue. -/
  queued : worker.queue = (numbered worker.submitted).drop worker.begun.length ∧
    worker.begun.length ≤ worker.submitted.length
  /-- All work that was taken up is answered, or it is the only one in progress. -/
  single : worker.begun.length = worker.answers.length + worker.current.toList.length
  /-- No reply is lost and none is sent twice. -/
  numbers : (worker.answers.map (·.1)).Perm (List.range worker.answers.length)
  /-- A reply is what comes of the work of its own submission, done from the state that the work before it
  has left.  A panic of that work, and nothing else, makes it a failure. -/
  own : ∀ number reply, (number, reply) ∈ worker.answers → ∃ work, worker.submitted[number]? = some work ∧
    reply = match (work.run machine
        (serialState machine (worker.submitted.take number) start)).1 with
      | .returned value => .ok value
      | .panicked _ => .error Executor.panicFailure
  /-- Between two pieces of work the state is the one that all work before has left, done in a row. -/
  settled : worker.current = none →
    worker.state = serialState machine (worker.submitted.take worker.answers.length) start
  /-- Work in progress comes to what it would have come to with nothing between its calls. -/
  undisturbed : ∀ submission, worker.current = some submission →
    submission.number = worker.answers.length ∧
    ∃ work, worker.submitted[worker.answers.length]? = some work ∧
      submission.work.run machine worker.state =
        work.run machine (serialState machine (worker.submitted.take worker.answers.length) start)
  /-- A reply stays for the thread that waits for it. -/
  delivered : ∀ number reply, (number, reply) ∈ worker.replies → ∃ next,
    worker.step machine (.receive number) = some next ∧ next.received = worker.received ++ [(number, reply)]
  /-- The worker can go on while anything is unanswered. -/
  unstuck : worker.answers.length < worker.submitted.length → ∃ move next,
    move.isOfWorker = true ∧ worker.step machine move = some next
  /-- A submission is answered as soon as the worker has made the moves for it and for those before it. -/
  prompt : ∀ number < worker.submitted.length,
    cost machine (worker.submitted.take (number + 1)) start ≤ moves.countP (·.isOfWorker) →
      ∃ reply, (number, reply) ∈ worker.answers

variable {machine}

namespace Orderly

theorem length_answers (h : Orderly machine start count finished worker) :
    worker.answers.length = finished := by
  have hlength := h.keys_perm.length_eq
  rwa [List.length_map, List.length_range] at hlength

/-- Every reply is the one to its own submission. -/
theorem own (h : Orderly machine start count finished worker) {number : Nat} {reply : Except Failure α}
    (hreply : (number, reply) ∈ worker.answers) : ∃ work, worker.submitted[number]? = some work ∧
      reply = Executor.submitted (work.run machine
        (serialState machine (worker.submitted.take number) start)).1 := by
  obtain ⟨index, hindex⟩ := List.mem_iff_getElem?.mp (h.answers_perm.subset hreply)
  obtain ⟨hrange, hserial⟩ := List.getElem?_zip_eq_some.mp hindex
  obtain ⟨hlt, hnumber⟩ := List.getElem?_eq_some_iff.mp hrange
  rw [List.getElem_range] at hnumber
  subst hnumber
  rw [List.length_range] at hlt
  rw [getElem?_serialReplies, Option.map_eq_some_iff] at hserial
  obtain ⟨work, hwork, rfl⟩ := hserial
  rw [List.getElem?_take_of_lt hlt] at hwork
  rw [List.take_take, Nat.min_eq_left (Nat.le_of_lt hlt)]
  exact ⟨work, hwork, rfl⟩

/-- As long as work is left, the worker has a move to make. -/
theorem unstuck (h : Orderly machine start count finished worker) (hlt : finished < worker.submitted.length) :
    ∃ move next, move.isOfWorker = true ∧ worker.step machine move = some next := by
  cases hcurrent : worker.current with
  | none =>
    have hbegun : worker.begun.length = finished := by
      rw [h.length_begun, hcurrent]
      rfl
    cases hqueue : worker.queue with
    | nil =>
      rw [h.queue_eq, hbegun, List.drop_eq_nil_iff, length_numbered] at hqueue
      exact absurd hlt (Nat.not_lt.mpr hqueue)
    | cons first rest => exact ⟨.begin, _, rfl, by simp only [Worker.step, hcurrent, hqueue]; rfl⟩
  | some submission =>
    obtain ⟨number, left⟩ := submission
    cases left with
    | done value => exact ⟨.finish, _, rfl, by simp only [Worker.step, hcurrent]; rfl⟩
    | panics panic =>
      exact ⟨.finish, _, rfl, by simp only [Worker.step, hcurrent]; rfl⟩
    | call question after => exact ⟨.call, _, rfl, by simp only [Worker.step, hcurrent]; rfl⟩

/-- While work is unfinished, the worker has not yet made all the moves for it. -/
theorem count_lt (h : Orderly machine start count finished worker)
    (hlt : finished < worker.submitted.length) :
    count < cost machine (worker.submitted.take (finished + 1)) start := by
  cases hcurrent : worker.current with
  | none =>
    have hwork := List.getElem?_eq_getElem hlt
    rw [cost_take_succ machine hwork, (h.idle hcurrent).2]
    omega
  | some submission =>
    obtain ⟨-, work, made, hwork, ⟨-, htrace⟩, hcount⟩ := h.busy submission hcurrent
    rw [cost_take_succ machine hwork, hcount]
    omega

end Orderly

/-- A machine that gives the number of the calls before. -/
def tally : Machine ⟨Unit, fun _ ↦ Nat⟩ Nat where
  answer _ made := (made, made + 1)

/-- Work that makes one call and ends as it says. -/
def tallying (ending : Nat → Outcome Nat) : Program ⟨Unit, fun _ ↦ Nat⟩ Nat :=
  .call () fun made ↦ .ofOutcome (ending made)

end Worker

end ContainerConstruction
