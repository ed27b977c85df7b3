import ContainerConstruction.Process.Monitor
import ContainerConstruction.Proofs.Program.Run
import Mathlib.Data.List.Forall2

/-!
# What a monitor does

A monitor hands on every named signal but the one that tells of a child, once and in order, whatever comes of
it.  It asks for reports only when it is told of a child, and then until a report settles the matter for now.
It stops at the first end that is reported, and then neither sends nor takes another signal.

Reports that settle nothing are asked past as long as there is patience.  `Drains` says what is reported until
one does, and has no bound: with enough patience a run does not depend on how much there is.
-/

namespace ContainerConstruction.Monitor

open Program (Runs)

/-! ## Reports -/

/-- The end that a report tells of. -/
def ending? : Except Errno WaitStatus → Option WaitStatus
  | .ok (.exited code) => some (.exited code)
  | .ok (.signaled signal coreDumped) => some (.signaled signal coreDumped)
  | _ => none

/-- The reason for which no report can be had.  An interruption is none. -/
def fault? : Except Errno WaitStatus → Option Errno
  | .error errno => if errno = .interrupted then none else some errno
  | .ok _ => none

/-- Whether nothing more is asked for the time being. -/
def isSettling : Except Errno WaitStatus → Bool
  | .ok .stillAlive => true
  | report => (ending? report).isSome || (fault? report).isSome

/-- What is known once a report has settled the matter. -/
def finding (pid : String) (report : Except Errno WaitStatus) : Except Failure (Option WaitStatus) :=
  match fault? report with
  | some errno => .error (waitFailure pid errno)
  | none => .ok (ending? report)

/-- One question for a report, and what is made of it. -/
theorem reap_succ (pid : String) (patience : Nat) :
    reap pid (patience + 1) = .call ChildCall.poll fun report ↦
      if isSettling report then .done (finding pid report) else reap pid patience := by
  refine congrArg (Program.call (I := Child) ChildCall.poll) (funext fun report ↦ ?_)
  cases report with
  | ok status => cases status <;> rfl
  | error errno =>
    by_cases h : errno = .interrupted
    · simp [isSettling, ending?, fault?, h]
    · simp [isSettling, finding, fault?, h]
      rfl

/-! ## Draining -/

variable {σ : Type} {machine : Machine Child σ} {pid : String}

/-- A question for a report, with the report. -/
def polled (report : Except Errno WaitStatus) : Event Child := ⟨.poll, report⟩

/-- Asking from a state on gives reports that settle nothing, and then one that does. -/
inductive Drains (machine : Machine Child σ) :
    σ → List (Except Errno WaitStatus) → Except Errno WaitStatus → σ → Prop where
  | last {state : σ} (h : isSettling (machine.answer ChildCall.poll state).1 = true) :
      Drains machine state [] (machine.answer ChildCall.poll state).1
        (machine.answer ChildCall.poll state).2
  | later {state after : σ} {reports : List (Except Errno WaitStatus)} {final : Except Errno WaitStatus}
      (h : isSettling (machine.answer ChildCall.poll state).1 = false)
      (hrest : Drains machine (machine.answer ChildCall.poll state).2 reports final after) :
      Drains machine state ((machine.answer ChildCall.poll state).1 :: reports) final after

/-- Sooner or later a report settles the matter for now. -/
inductive Settles (machine : Machine Child σ) : σ → Prop where
  | now {state : σ} (h : isSettling (machine.answer ChildCall.poll state).1 = true) : Settles machine state
  | later {state : σ} (h : Settles machine (machine.answer ChildCall.poll state).2) : Settles machine state

/-- Asking comes to an end if some report settles the matter. -/
theorem Settles.drains {state : σ} (h : Settles machine state) :
    ∃ reports final after, Drains machine state reports final after := by
  induction h with
  | now h => exact ⟨[], _, _, .last h⟩
  | @later state _ ih =>
    obtain ⟨reports, final, after, hrest⟩ := ih
    cases hreport : isSettling (machine.answer ChildCall.poll state).1 with
    | true => exact ⟨[], _, _, .last hreport⟩
    | false => exact ⟨_, final, after, .later hreport hrest⟩

section

variable {state after : σ} {reports : List (Except Errno WaitStatus)} {final : Except Errno WaitStatus}

theorem Drains.isSettling_final (h : Drains machine state reports final after) :
    isSettling final = true := by
  induction h with
  | last h => exact h
  | later _ _ ih => exact ih

theorem Drains.not_isSettling (h : Drains machine state reports final after) :
    ∀ report ∈ reports, isSettling report = false := by
  induction h with
  | last => exact List.forall_mem_nil _
  | later h _ ih => exact List.forall_mem_cons.mpr ⟨h, ih⟩

/-- With more patience than there are reports to be asked past, all of them are seen. -/
theorem Drains.runs (h : Drains machine state reports final after) {patience : Nat}
    (hpatience : reports.length < patience) :
    Runs machine (reap pid patience) state ((reports ++ [final]).map polled)
      (.returned (finding pid final)) after := by
  obtain ⟨patience, rfl⟩ : ∃ less, patience = less + 1 := ⟨patience - 1, by omega⟩
  induction h generalizing patience with
  | last h =>
    rw [reap_succ]
    refine Runs.call ?_
    rw [if_pos h]
    exact ⟨rfl, rfl⟩
  | @later state after reports final h _ ih =>
    obtain ⟨patience, rfl⟩ : ∃ less, patience = less + 1 :=
      ⟨patience - 1, by simp only [List.length_cons] at hpatience; omega⟩
    rw [reap_succ]
    refine Runs.call ?_
    rw [if_neg (by simp [h])]
    exact ih patience (by simpa using hpatience)

end

/-! ## Signals -/

/-- The number under which an arrival is handed on, if it is a signal that is. -/
def handedOn? : Arrival → Option Nat
  | .signal raw => if Signal.isNamed raw = true ∧ raw ≠ Signal.child then some raw.toNat else none
  | .pause _ => none

def sent? : Event Child → Option Nat
  | ⟨.send signal, _⟩ => some signal
  | _ => none

def report? : Event Child → Option (Except Errno WaitStatus)
  | ⟨.poll, report⟩ => some report
  | _ => none

/-- What is done about an arrival. -/
inductive Handles : Arrival → List (Event Child) → Prop where
  | pause (moment : Moment) (answer : Unit) : Handles (.pause moment) [⟨.await moment, answer⟩]
  | unnamed {raw : Int} (h : Signal.isNamed raw = false) : Handles (.signal raw) []
  | sent {raw : Int} (hnamed : Signal.isNamed raw = true) (hother : raw ≠ Signal.child)
      (answer : Except Errno Unit) : Handles (.signal raw) [⟨.send raw.toNat, answer⟩]
  | drained {reports : List (Except Errno WaitStatus)} {final : Except Errno WaitStatus}
      (hreports : ∀ report ∈ reports, isSettling report = false) (hfinal : isSettling final = true) :
      Handles (.signal Signal.child) ((reports ++ [final]).map polled)

/-- No report tells of an end or of a fault. -/
def IsQuiet (events : List (Event Child)) : Prop :=
  ∀ report ∈ events.filterMap report?, ending? report = none ∧ fault? report = none

/-- The course of a monitoring that leaves `rest` behind: the arrivals it takes, what it does about them, and
its result. -/
inductive Course (pid : String) (rest : List Arrival) :
    List Arrival → List (Event Child) → Except Failure WaitStatus → Prop where
  | exhausted (h : rest = []) : Course pid rest [] [] (.error (endFailure pid))
  | passes {arrival : Arrival} {consumed : List Arrival} {events later : List (Event Child)}
      {result : Except Failure WaitStatus} (h : Handles arrival events) (hquiet : IsQuiet events)
      (hrest : Course pid rest consumed later result) :
      Course pid rest (arrival :: consumed) (events ++ later) result
  | ended {events : List (Event Child)} {status : WaitStatus}
      (h : Handles (.signal Signal.child) (events ++ [polled (.ok status)])) (hquiet : IsQuiet events)
      (hstatus : ending? (.ok status) = some status) :
      Course pid rest [.signal Signal.child] (events ++ [polled (.ok status)]) (.ok status)
  | failed {events : List (Event Child)} {errno : Errno}
      (h : Handles (.signal Signal.child) (events ++ [polled (.error errno)])) (hquiet : IsQuiet events)
      (herrno : errno ≠ .interrupted) :
      Course pid rest [.signal Signal.child] (events ++ [polled (.error errno)])
        (.error (waitFailure pid errno))

/-! ### Reports of a course -/

@[simp]
theorem filterMap_report?_polled (reports : List (Except Errno WaitStatus)) :
    (reports.map polled).filterMap report? = reports := by
  rw [List.filterMap_map]
  exact List.filterMap_some

/-- Reports that settle nothing tell of no end and no fault. -/
theorem quiet_of_not_isSettling {reports : List (Except Errno WaitStatus)}
    (h : ∀ report ∈ reports, isSettling report = false) : IsQuiet (reports.map polled) := by
  intro report hreport
  rw [filterMap_report?_polled] at hreport
  have hfalse := h report hreport
  cases report with
  | ok status => cases status <;> simp_all [isSettling, ending?, fault?]
  | error errno => simpa [isSettling, ending?] using hfalse

theorem quiet_of_no_report {events : List (Event Child)} (h : events.filterMap report? = []) :
    IsQuiet events := by
  unfold IsQuiet
  rw [h]
  exact List.forall_mem_nil _

theorem IsQuiet.append {events later : List (Event Child)} (h : IsQuiet events) (hlater : IsQuiet later) :
    IsQuiet (events ++ later) := by
  intro report hreport
  rw [List.filterMap_append] at hreport
  exact (List.mem_append.mp hreport).elim (h report) (hlater report)

/-- A report that settles the matter tells of an end or of a fault, or of a child that goes on. -/
theorem eq_stillAlive {report : Except Errno WaitStatus} (h : isSettling report = true)
    (hending : ending? report = none) (hfault : fault? report = none) : report = .ok .stillAlive := by
  cases report with
  | ok status => cases status <;> simp_all [isSettling, ending?, fault?]
  | error errno => simp [isSettling, ending?, hfault] at h

theorem eq_ok_of_ending? {report : Except Errno WaitStatus} {status : WaitStatus}
    (h : ending? report = some status) : report = .ok status := by
  unfold ending? at h
  split at h <;> simp_all

theorem eq_error_of_fault? {report : Except Errno WaitStatus} {errno : Errno}
    (h : fault? report = some errno) : report = .error errno ∧ errno ≠ .interrupted := by
  cases report with
  | ok status => cases h
  | error other =>
    obtain ⟨hother, hsame⟩ := Option.ite_none_left_eq_some.mp h
    cases hsame
    exact ⟨rfl, hother⟩

/-! ### Every run takes a course -/

theorem monitor_unnamed {raw : Int} (h : Signal.isNamed raw = false) (patience : Nat) (pid : String)
    (rest : List Arrival) : monitor patience pid (.signal raw :: rest) = monitor patience pid rest := by
  rw [monitor, h]
  rfl

theorem monitor_sent {raw : Int} (hnamed : Signal.isNamed raw = true) (hother : raw ≠ Signal.child)
    (patience : Nat) (pid : String) (rest : List Arrival) :
    monitor patience pid (.signal raw :: rest) =
      .call (ChildCall.send raw.toNat) fun _ ↦ monitor patience pid rest := by
  rw [monitor, hnamed, if_neg (by simp), if_neg hother]

/-- A word from the child leads to asking what has become of it. -/
theorem monitor_child (patience : Nat) (pid : String) (rest : List Arrival) :
    monitor patience pid (.signal Signal.child :: rest) = (reap pid patience).bind fun found ↦
      match found with
      | .error failure => .done (.error failure, rest)
      | .ok (some status) => .done (.ok status, rest)
      | .ok none => monitor patience pid rest := by
  rw [monitor, if_neg (by decide), if_pos rfl]
  refine congrArg _ (funext fun found ↦ ?_)
  rcases found with failure | _ | status <;> rfl

section

variable {patience : Nat} {rest : List Arrival} {state between after : σ} {events later : List (Event Child)}

/-- An end or a failure is the result. -/
theorem runs_stopped {result : Except Failure WaitStatus}
    (h : Runs machine (reap pid patience) state events (.returned (result.map some)) between) :
    Runs machine (monitor patience pid (.signal Signal.child :: rest)) state events
      (.returned (result, rest)) between := by
  have hstop : Runs machine
      (match result.map some with
        | .error failure => .done (.error failure, rest)
        | .ok (some status) => .done (.ok status, rest)
        | .ok none => monitor patience pid rest) between [] (.returned (result, rest)) between := by
    cases result <;> exact ⟨rfl, rfl⟩
  rw [monitor_child, ← List.append_nil events]
  exact h.bind _ hstop

/-- A child that goes on is monitored further. -/
theorem runs_goesOn {outcome : Outcome (Except Failure WaitStatus × List Arrival)}
    (h : Runs machine (reap pid patience) state events (.returned (.ok none)) between)
    (hnext : Runs machine (monitor patience pid rest) between later outcome after) :
    Runs machine (monitor patience pid (.signal Signal.child :: rest)) state (events ++ later) outcome
      after := by
  rw [monitor_child]
  exact h.bind _ hnext

end

/-- Monitoring from a state on takes a course that does not depend on the patience, as long as there is as
much of it as there are events. -/
def TakesCourse (machine : Machine Child σ) (pid : String) (arrivals : List Arrival) (state : σ) : Prop :=
  ∃ consumed rest events result after, consumed ++ rest = arrivals ∧
    Course pid rest consumed events result ∧ ∀ patience, events.length ≤ patience →
      Runs machine (monitor patience pid arrivals) state events (.returned (result, rest)) after

section

variable {arrivals : List Arrival} {state : σ}

theorem takesCourse_pause (moment : Moment)
    (h : TakesCourse machine pid arrivals (machine.answer (.await moment) state).2) :
    TakesCourse machine pid (.pause moment :: arrivals) state := by
  obtain ⟨consumed, rest, events, result, after, rfl, hcourse, hruns⟩ := h
  have hpause := Handles.pause moment (machine.answer (.await moment) state).1
  refine ⟨_, rest, _, result, after, rfl, .passes hpause (quiet_of_no_report rfl) hcourse,
    fun patience hpatience ↦ ?_⟩
  exact Runs.call (hruns patience (Nat.le_of_succ_le hpatience))

theorem takesCourse_unnamed {raw : Int} (hnamed : Signal.isNamed raw = false)
    (h : TakesCourse machine pid arrivals state) :
    TakesCourse machine pid (.signal raw :: arrivals) state := by
  obtain ⟨consumed, rest, events, result, after, rfl, hcourse, hruns⟩ := h
  refine ⟨_, rest, _, result, after, rfl, .passes (.unnamed hnamed) (quiet_of_no_report rfl) hcourse,
    fun patience hpatience ↦ ?_⟩
  rw [monitor_unnamed hnamed]
  exact hruns patience hpatience

theorem takesCourse_sent {raw : Int} (hnamed : Signal.isNamed raw = true) (hother : raw ≠ Signal.child)
    (h : TakesCourse machine pid arrivals (machine.answer (.send raw.toNat) state).2) :
    TakesCourse machine pid (.signal raw :: arrivals) state := by
  obtain ⟨consumed, rest, events, result, after, rfl, hcourse, hruns⟩ := h
  have hsent := Handles.sent hnamed hother (machine.answer (.send raw.toNat) state).1
  refine ⟨_, rest, _, result, after, rfl, .passes hsent (quiet_of_no_report rfl) hcourse,
    fun patience hpatience ↦ ?_⟩
  rw [monitor_sent hnamed hother]
  exact Runs.call (hruns patience (Nat.le_of_succ_le hpatience))

/-- The report that settles the matter decides whether the course goes on. -/
theorem takesCourse_child {between : σ} {reports : List (Except Errno WaitStatus)}
    {final : Except Errno WaitStatus} (hdrains : Drains machine state reports final between)
    (h : TakesCourse machine pid arrivals between) :
    TakesCourse machine pid (.signal Signal.child :: arrivals) state := by
  have hquiet := quiet_of_not_isSettling hdrains.not_isSettling
  have hhandles := Handles.drained hdrains.not_isSettling hdrains.isSettling_final
  have hreap {patience : Nat} (hpatience : ((reports ++ [final]).map polled).length ≤ patience) :
      Runs machine (reap pid patience) state ((reports ++ [final]).map polled) (.returned (finding pid final))
        between := by
    apply hdrains.runs
    rw [List.length_map, List.length_append] at hpatience
    exact hpatience
  cases hfault : fault? final with
  | some errno =>
    obtain ⟨rfl, herrno⟩ := eq_error_of_fault? hfault
    rw [finding, hfault] at hreap
    rw [List.map_append] at hhandles hreap
    exact ⟨_, arrivals, _, _, between, rfl, .failed hhandles hquiet herrno,
      fun patience hpatience ↦ runs_stopped (hreap hpatience)⟩
  | none =>
    cases hending : ending? final with
    | some status =>
      cases eq_ok_of_ending? hending
      rw [finding, hfault, hending] at hreap
      rw [List.map_append] at hhandles hreap
      exact ⟨_, arrivals, _, _, between, rfl, .ended hhandles hquiet hending,
        fun patience hpatience ↦ runs_stopped (hreap hpatience)⟩
    | none =>
      cases eq_stillAlive hdrains.isSettling_final hending hfault
      obtain ⟨consumed, rest, events, result, after, rfl, hcourse, hruns⟩ := h
      have hall : IsQuiet ((reports ++ [Except.ok WaitStatus.stillAlive]).map polled) := by
        rw [List.map_append]
        exact hquiet.append (List.forall_mem_singleton.mpr ⟨hending, hfault⟩)
      refine ⟨_, rest, _, result, after, rfl, .passes hhandles hall hcourse, fun patience hpatience ↦ ?_⟩
      rw [List.length_append] at hpatience
      exact runs_goesOn (hreap (by omega)) (hruns patience (by omega))

end

/-- By induction on the arrivals. -/
theorem takesCourse (h : ∀ state, Settles machine state) (pid : String) (arrivals : List Arrival)
    (state : σ) : TakesCourse machine pid arrivals state := by
  induction arrivals generalizing state with
  | nil => exact ⟨[], [], [], _, state, rfl, .exhausted rfl, fun _ _ ↦ ⟨rfl, rfl⟩⟩
  | cons arrival arrivals ih =>
    cases arrival with
    | pause moment => exact takesCourse_pause moment (ih _)
    | signal raw =>
      by_cases hchild : raw = Signal.child
      · subst hchild
        obtain ⟨reports, final, between, hdrains⟩ := (h state).drains
        exact takesCourse_child hdrains (ih between)
      · cases hnamed : Signal.isNamed raw with
        | false => exact takesCourse_unnamed hnamed (ih state)
        | true => exact takesCourse_sent hnamed hchild (ih _)

/-! ## What a course shows -/

section

variable {rest consumed : List Arrival} {events : List (Event Child)} {result : Except Failure WaitStatus}

theorem Handles.sent_eq {arrival : Arrival} (h : Handles arrival events) :
    events.filterMap sent? = (handedOn? arrival).toList := by
  cases h with
  | pause moment answer => rfl
  | unnamed h => simp [handedOn?, h]
  | sent hnamed hother answer => simp [handedOn?, hnamed, hother, sent?]
  | drained hreports hfinal =>
    rw [List.filterMap_map]
    exact List.filterMap_eq_nil_iff.mpr fun _ _ ↦ rfl

/-- What was sent is what was to be handed on, in order. -/
theorem Course.sent_eq (h : Course pid rest consumed events result) :
    events.filterMap sent? = consumed.filterMap handedOn? := by
  induction h with
  | exhausted => rfl
  | @passes arrival _ _ _ _ h _ _ ih =>
    rw [List.filterMap_append, ih, h.sent_eq, List.filterMap_cons]
    cases handedOn? arrival <;> rfl
  | ended h => exact h.sent_eq
  | failed h => exact h.sent_eq

/-- What is done is what is done about each arrival, in turn. -/
theorem Course.segments (h : Course pid rest consumed events result) :
    ∃ segments, List.Forall₂ Handles consumed segments ∧ events = segments.flatten := by
  induction h with
  | exhausted => exact ⟨[], .nil, rfl⟩
  | passes h _ _ ih =>
    obtain ⟨segments, hsegments, rfl⟩ := ih
    exact ⟨_, .cons h hsegments, rfl⟩
  | ended h => exact ⟨[_], .cons h .nil, (List.append_nil _).symm⟩
  | failed h => exact ⟨[_], .cons h .nil, (List.append_nil _).symm⟩

/-- A monitoring ends with the first report of an end, with a report of a fault or for want of signals. -/
inductive Conclusion (pid : String) (rest consumed : List Arrival) (events : List (Event Child)) :
    Except Failure WaitStatus → Prop where
  | ended {earlier : List (Event Child)} {seen : List Arrival} {status : WaitStatus}
      (hevents : events = earlier ++ [polled (.ok status)]) (hconsumed : consumed = seen ++ [.signal Signal.child])
      (hquiet : IsQuiet earlier) (hstatus : ending? (.ok status) = some status) :
      Conclusion pid rest consumed events (.ok status)
  | failed {earlier : List (Event Child)} {seen : List Arrival} {errno : Errno}
      (hevents : events = earlier ++ [polled (.error errno)])
      (hconsumed : consumed = seen ++ [.signal Signal.child]) (hquiet : IsQuiet earlier)
      (herrno : errno ≠ .interrupted) : Conclusion pid rest consumed events (.error (waitFailure pid errno))
  | exhausted (hrest : rest = []) (hquiet : IsQuiet events) :
      Conclusion pid rest consumed events (.error (endFailure pid))

theorem Course.conclusion (h : Course pid rest consumed events result) :
    Conclusion pid rest consumed events result := by
  induction h with
  | exhausted h => exact .exhausted h (quiet_of_no_report rfl)
  | @passes arrival _ _ _ _ _ hquiet _ ih =>
    cases ih with
    | ended hevents hconsumed hearlier hstatus =>
      subst hevents hconsumed
      exact .ended (List.append_assoc _ _ _).symm List.cons_append.symm (hquiet.append hearlier) hstatus
    | failed hevents hconsumed hearlier herrno =>
      subst hevents hconsumed
      exact .failed (List.append_assoc _ _ _).symm List.cons_append.symm (hquiet.append hearlier) herrno
    | exhausted hrest hlater => exact .exhausted hrest (hquiet.append hlater)
  | ended _ hquiet hstatus => exact .ended rfl (List.nil_append _).symm hquiet hstatus
  | failed _ hquiet herrno => exact .failed rfl (List.nil_append _).symm hquiet herrno

def endings (events : List (Event Child)) : List WaitStatus := (events.filterMap report?).filterMap ending?

def faults (events : List (Event Child)) : List Errno := (events.filterMap report?).filterMap fault?

theorem IsQuiet.endings_eq (h : IsQuiet events) : endings events = [] :=
  List.filterMap_eq_nil_iff.mpr fun report hreport ↦ (h report hreport).1

theorem IsQuiet.faults_eq (h : IsQuiet events) : faults events = [] :=
  List.filterMap_eq_nil_iff.mpr fun report hreport ↦ (h report hreport).2

theorem endings_append (events later : List (Event Child)) :
    endings (events ++ later) = endings events ++ endings later := by
  unfold endings
  rw [List.filterMap_append, List.filterMap_append]

theorem faults_append (events later : List (Event Child)) :
    faults (events ++ later) = faults events ++ faults later := by
  unfold faults
  rw [List.filterMap_append, List.filterMap_append]

/-- The reports of a monitoring decide its result. -/
theorem Conclusion.reported (h : Conclusion pid rest consumed events result) :
    (∃ status, result = .ok status ∧ endings events = [status] ∧ faults events = []) ∨
      (∃ errno, result = .error (waitFailure pid errno) ∧ endings events = [] ∧ faults events = [errno]) ∨
      result = .error (endFailure pid) ∧ endings events = [] ∧ faults events = [] ∧ rest = [] := by
  cases h with
  | @ended earlier seen status hevents hconsumed hquiet hstatus =>
    refine .inl ⟨status, rfl, ?_, ?_⟩
    · rw [hevents, endings_append, hquiet.endings_eq]
      simp [endings, polled, report?, hstatus]
    · rw [hevents, faults_append, hquiet.faults_eq]
      rfl
  | @failed earlier seen errno hevents hconsumed hquiet herrno =>
    refine .inr (.inl ⟨errno, rfl, ?_, ?_⟩)
    · rw [hevents, endings_append, hquiet.endings_eq]
      rfl
    · rw [hevents, faults_append, hquiet.faults_eq]
      simp [faults, polled, report?, fault?, herrno]
  | exhausted hrest hquiet => exact .inr (.inr ⟨rfl, hquiet.endings_eq, hquiet.faults_eq, hrest⟩)

/-- What holds of a monitoring of `arrivals` that takes `consumed` of them and leaves `rest`. -/
structure MonitorLaws (pid : String) (arrivals consumed rest : List Arrival) (events : List (Event Child))
    (result : Except Failure WaitStatus) : Prop where
  consumed_append : consumed ++ rest = arrivals
  /-- What is sent are the signals that are handed on, in order and each once. -/
  sent_eq : events.filterMap sent? = consumed.filterMap handedOn?
  /-- Neither the signal that tells of a child is sent nor a number that is no signal. -/
  sent_named : ∀ signal ∈ events.filterMap sent?,
    Signal.isNamed (signal : Nat) = true ∧ signal ≠ Signal.child
  /-- Reports are asked for about the signal that tells of a child, until one settles the matter. -/
  segments : ∃ segments, List.Forall₂ Handles consumed segments ∧ events = segments.flatten
  /-- The result is the first end that is reported. -/
  ok_iff (status : WaitStatus) : result = .ok status ↔ (endings events).head? = some status
  /-- Once it is reported nothing is sent or asked, and no signal is taken. -/
  stops (status : WaitStatus) (h : result = .ok status) :
    ∃ earlier seen, events = earlier ++ [polled (.ok status)] ∧ endings earlier = [] ∧
      consumed = seen ++ [.signal Signal.child]
  /-- A monitoring fails if there is a fault, or if the signals end before the process does. -/
  failed_iff : (∃ failure, result = .error failure) ↔ faults events ≠ [] ∨ endings events = [] ∧ rest = []
  failure_eq (failure : Failure) (h : result = .error failure) :
    failure.kind = .process ∧
      (failure = endFailure pid ∨ ∃ errno ∈ faults events, failure = waitFailure pid errno)

theorem handedOn?_eq_some {arrival : Arrival} {signal : Nat} (h : handedOn? arrival = some signal) :
    Signal.isNamed (signal : Nat) = true ∧ signal ≠ Signal.child := by
  cases arrival with
  | pause moment => cases h
  | signal raw =>
    obtain ⟨⟨hnamed, hother⟩, hsignal⟩ := Option.ite_none_right_eq_some.mp h
    have hbounds : 1 ≤ raw ∧ raw ≤ 31 := by simpa [Signal.isNamed] using hnamed
    have hraw : (signal : Int) = raw := by
      cases hsignal
      omega
    rw [hraw]
    exact ⟨hnamed, fun hsame ↦ hother (hraw.symm.trans (congrArg _ hsame))⟩

theorem Course.laws {arrivals : List Arrival} (h : Course pid rest consumed events result)
    (hconsumed : consumed ++ rest = arrivals) : MonitorLaws pid arrivals consumed rest events result where
  consumed_append := hconsumed
  sent_eq := h.sent_eq
  sent_named signal hsignal := by
    rw [h.sent_eq] at hsignal
    obtain ⟨arrival, -, harrival⟩ := List.mem_filterMap.mp hsignal
    exact handedOn?_eq_some harrival
  segments := h.segments
  ok_iff status := by
    obtain ⟨end', rfl, hend, -⟩ | ⟨errno, rfl, hend, -⟩ | ⟨rfl, hend, -⟩ := h.conclusion.reported <;>
      simp [hend]
  stops status hresult := by
    obtain ⟨hevents, hchild, hquiet, -⟩ | _ | _ := h.conclusion
    · cases hresult
      exact ⟨_, _, hevents, hquiet.endings_eq, hchild⟩
    · cases hresult
    · cases hresult
  failed_iff := by
    obtain ⟨end', rfl, hend, hfault⟩ | ⟨errno, rfl, hend, hfault⟩ | ⟨rfl, hend, hfault, hrest⟩ :=
      h.conclusion.reported
    · simp [hend, hfault]
    · simp [hfault]
    · simp [hend, hrest]
  failure_eq failure hresult := by
    obtain ⟨end', rfl, -⟩ | ⟨errno, rfl, -, hfault⟩ | ⟨rfl, -⟩ := h.conclusion.reported
    · cases hresult
    · cases hresult
      exact ⟨rfl, .inr ⟨errno, by simp [hfault], rfl⟩⟩
    · cases hresult
      exact ⟨rfl, .inl rfl⟩

end

/-- Every monitoring keeps to the laws, whatever becomes of the signals that are sent and whatever is reported,
if sooner or later a report settles the matter.  The run that is shown is that with any patience which is not
less than its number of events. -/
theorem monitor_laws (machine : Machine Child σ) (h : ∀ state, Settles machine state) (pid : String)
    (arrivals : List Arrival) (state : σ) :
    ∃ consumed rest events result after, MonitorLaws pid arrivals consumed rest events result ∧
      ∀ patience, events.length ≤ patience →
        Runs machine (monitor patience pid arrivals) state events (.returned (result, rest)) after := by
  obtain ⟨consumed, rest, events, result, after, hconsumed, hcourse, hruns⟩ :=
    takesCourse h pid arrivals state
  exact ⟨consumed, rest, events, result, after, hcourse.laws hconsumed, hruns⟩

/-- A process that refuses all signals and whose reports are given in advance. -/
def reporting : Machine Child (List (Except Errno WaitStatus)) where
  answer
    | .poll, report :: later => (report, later)
    | .poll, [] => (.ok .stillAlive, [])
    | .send _, reports => (.error .notPermitted, reports)
    | .await _, reports => ((), reports)

theorem settles_reporting (reports : List (Except Errno WaitStatus)) : Settles reporting reports := by
  induction reports with
  | nil => exact .now rfl
  | cons report later ih => exact .later ih

/-- Two signals about a child with three and with two reports to be had, among signals of other kinds. -/
theorem monitor_laws_reporting :
    (∀ reports, Settles reporting reports) ∧
      ∃ consumed rest events result after, MonitorLaws "7"
          [.signal 15, .signal 17, .signal 64, .signal 17, .signal 2] consumed rest events result ∧
        ∀ patience, events.length ≤ patience →
          Runs reporting (monitor patience "7" [.signal 15, .signal 17, .signal 64, .signal 17, .signal 2])
            [.ok (.stopped 19), .error .interrupted, .ok .stillAlive, .ok .continued, .ok (.exited 3)] events
            (.returned (result, rest)) after :=
  ⟨settles_reporting, monitor_laws reporting settles_reporting "7" _ _⟩

/-- The exit is found behind the notice that the process goes on, and the last signal is not taken. -/
example : (monitor patience "7" [.signal 15, .signal 17, .signal 64, .signal 17, .signal 2]).run reporting
    [.ok (.stopped 19), .error .interrupted, .ok .stillAlive, .ok .continued, .ok (.exited 3)] =
      (.returned (.ok (.exited 3), [.signal 2]), []) := rfl

end ContainerConstruction.Monitor
