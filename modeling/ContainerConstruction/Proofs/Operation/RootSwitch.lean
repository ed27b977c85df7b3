import ContainerConstruction.Operation.RootSwitch
import ContainerConstruction.Proofs.Operation.Membership
import ContainerConstruction.Proofs.Operation.RootKernel

/-!
# What a root switch does

A root switch is a list of steps that are taken one after the other until one fails.  `RootSwitch.Course` says
how far it gets and what it tells, on every machine.  On a kernel as `RootKernel` has them the old root is let
go of from inside only, and the thread ends up at the top of the directory that it has entered.
-/

namespace ContainerConstruction

open Program (Runs)

variable {σ δ μ : Type}

/-- Whether a call lets mounts go: they no longer tell others, or are taken away. -/
def KernelCall.letsGo : KernelCall → Bool
  | .mount _ _ _ flags _ => flags = MountFlags.slave ||| MountFlags.recursive
  | .detachMount _ => true
  | _ => false

namespace RootSwitch

/-! ## Steps -/

/-- A call, the answer it goes on with, and how its failure is told. -/
structure Step where
  {ε α : Type}
  name : String
  call : KernelCall
  read : call.Answer → Except ε α
  granted : α
  describe : ε → String

/-- Makes the call and checks its answer. -/
def Step.take (step : Step) : Operation step.α := do
  Operation.check (fun error ↦ .rootSwitch step.name (step.describe error))
    (step.read (← Operation.ask step.call))

/-- Tells an error together with the path that it is about. -/
def about (root : String) (errno : Errno) : String := s!"{root}: {errno.namedText}"

def enterStep (root : String) : Step := ⟨"chdir to new root", .changeDirectory root, id, (), about root⟩

def openStep (held : Descriptor) : Step := ⟨"open host root", .openDirectory "/", id, held, IoCause.message⟩

def pivotStep (root : String) : Step := ⟨"pivot_root", .pivotRoot "." ".", id, (), about root⟩

def returnStep (held : Descriptor) : Step :=
  ⟨"fchdir to old root", .changeDirectoryTo held, id, (), Errno.namedText⟩

def slaveStep : Step :=
  ⟨"slave propagation on old root", .mount none "." none (MountFlags.slave ||| MountFlags.recursive) none, id,
    (), Errno.namedText⟩

def detachStep : Step := ⟨"detach old root", .detachMount ".", id, (), Errno.namedText⟩

def moveStep (root : String) : Step :=
  ⟨"move new root", .mount (some ".") "/" none MountFlags.move none, id, (), about root⟩

def chrootStep : Step := ⟨"chroot", .changeRoot ".", id, (), Errno.namedText⟩

def topStep : Step := ⟨"chdir /", .changeDirectory "/", id, (), Errno.namedText⟩

/-- The steps of a method.  A pivot opens the old root with the given handle. -/
def methodSteps (root : String) (held : Descriptor) : RootMethod → List Step
  | .pivot => [openStep held, pivotStep root, returnStep held, slaveStep, detachStep]
  | .move => [moveStep root, chrootStep]
  | .chroot => [chrootStep]

/-- All steps of a root switch to a root that is shown as `root`. -/
def steps (args : ChrootArgs) (root : String) (held : Descriptor) : List Step :=
  (if Path.isHere args.root then [] else [enterStep args.root]) ++
    (methodSteps root held args.method ++ [topStep])

theorem call_ne_workingDirectory {args : ChrootArgs} {root : String} {held : Descriptor} {step : Step}
    (h : step ∈ steps args root held) : step.call ≠ .workingDirectory := by
  have hmethod : ∀ step ∈ methodSteps root held args.method, step.call ≠ .workingDirectory := by
    cases args.method <;>
      simp [methodSteps, openStep, pivotStep, returnStep, slaveStep, detachStep, moveStep, chrootStep]
  rcases List.mem_append.mp h with h | h
  · split at h
    · cases h
    · obtain rfl := List.mem_singleton.mp h
      nofun
  · rcases List.mem_append.mp h with h | h
    · exact hmethod step h
    · obtain rfl := List.mem_singleton.mp h
      nofun

theorem steps_of_here {args : ChrootArgs} (h : Path.isHere args.root = true) (root : String)
    (held : Descriptor) : steps args root held = methodSteps root held args.method ++ [topStep] := by
  simp [steps, h]

theorem steps_of_away {args : ChrootArgs} (h : Path.isHere args.root = false) (root : String)
    (held : Descriptor) :
    steps args root held = enterStep args.root :: (methodSteps root held args.method ++ [topStep]) := by
  simp [steps, h]

/-! ## Courses -/

/-- Steps are taken one after the other.  The first one that fails is the last. -/
inductive Course (machine : Machine Kernel σ) :
    List Step → σ → List (Event Kernel) → Except Failure Unit → σ → Prop
  | completed (state : σ) : Course machine [] state [] (.ok ()) state
  | stopped {step : Step} {rest : List Step} {state after : σ} {answer : step.call.Answer} {error : step.ε}
    (hanswer : machine.answer step.call state = (answer, after)) (hrefused : step.read answer = .error error) :
    Course machine (step :: rest) state [⟨step.call, answer⟩]
      (.error (.rootSwitch step.name (step.describe error))) after
  | passed {step : Step} {rest : List Step} {state between after : σ} {answer : step.call.Answer}
    {events : List (Event Kernel)} {result : Except Failure Unit}
    (hanswer : machine.answer step.call state = (answer, between))
    (hgranted : step.read answer = .ok step.granted) (hrest : Course machine rest between events result after) :
    Course machine (step :: rest) state (⟨step.call, answer⟩ :: events) result after

variable {machine : Machine Kernel σ} {first later : List Step} {state after : σ}
  {events : List (Event Kernel)} {result : Except Failure Unit}

/-- The calls of a course are those of its steps, up to where it ends. -/
theorem Course.calls_isPrefix (h : Course machine first state events result after) :
    events.map (·.call) <+: first.map (·.call) := by
  induction h with
  | completed state => exact List.nil_prefix
  | @stopped step rest => exact ⟨rest.map (·.call), rfl⟩
  | passed _ _ _ ih => exact List.cons_prefix_cons.mpr ⟨rfl, ih⟩

theorem Course.extend_of_error {failure : Failure}
    (h : Course machine first state events (.error failure) after) :
    Course machine (first ++ later) state events (.error failure) after := by
  generalize hresult : Except.error failure = result at h
  induction h with
  | completed state => cases hresult
  | stopped hanswer hrefused => exact .stopped hanswer hrefused
  | passed hanswer hgranted _ ih => exact .passed hanswer hgranted (ih hresult)

theorem Course.append {between : σ} {more : List (Event Kernel)}
    (h : Course machine first state events (.ok ()) between)
    (hlater : Course machine later between more result after) :
    Course machine (first ++ later) state (events ++ more) result after := by
  generalize hok : Except.ok () = done at h
  induction h with
  | completed state => exact hlater
  | stopped => cases hok
  | passed hanswer hgranted _ ih => exact .passed hanswer hgranted (ih hlater hok)

/-- From a state an operation takes steps. -/
def Takes (machine : Machine Kernel σ) (operation : Operation Unit) (steps : List Step) (state : σ) : Prop :=
  ∃ events result after, Runs machine operation.run state events (.returned result) after ∧
    Course machine steps state events result after

theorem takes_pure (machine : Machine Kernel σ) (state : σ) : Takes machine (pure ()) [] state :=
  ⟨[], .ok (), state, Program.runs_pure machine () state, .completed state⟩

/-- What takes steps and then what takes more takes them all. -/
theorem Takes.bind {operation next : Operation Unit} (h : Takes machine operation first state)
    (hnext : ∀ after, Takes machine next later after) :
    Takes machine (operation >>= fun _ ↦ next) (first ++ later) state := by
  obtain ⟨events, result, between, hruns, hcourse⟩ := h
  cases result with
  | error failure => exact ⟨_, _, _, hruns.bind_error _, hcourse.extend_of_error⟩
  | ok done =>
    obtain ⟨more, result, after, hmore, hrest⟩ := hnext between
    exact ⟨_, _, _, hruns.bind_ok hmore, hcourse.append hrest⟩

/-- Going on from a step that has been granted. -/
theorem takes_take (step : Step) {next : step.α → Operation Unit}
    (hgranted : ∀ value, step.read (machine.answer step.call state).1 = .ok value → value = step.granted)
    (hnext : Takes machine (next step.granted) later (machine.answer step.call state).2) :
    Takes machine (step.take >>= next) (step :: later) state := by
  rcases hanswer : machine.answer step.call state with ⟨answer, between⟩
  rw [hanswer] at hgranted hnext
  have hask := Program.runs_ask hanswer
  rw [Step.take, bind_assoc]
  cases hread : step.read answer with
  | error error =>
    refine ⟨_, _, _, hask.bind_ok ?_, .stopped hanswer hread⟩
    rw [hread]
    exact (Program.runs_throw machine _ between).bind_error next
  | ok value =>
    obtain rfl := hgranted value hread
    obtain ⟨events, result, after, hruns, hcourse⟩ := hnext
    refine ⟨_, _, _, hask.bind_ok ?_, .passed hanswer hread hcourse⟩
    rw [hread]
    exact (Program.runs_pure machine _ between).bind_ok hruns

theorem takes_last (step : Step) {operation : Operation Unit}
    (htake : operation = step.take >>= fun _ ↦ pure ())
    (hgranted : ∀ value, step.read (machine.answer step.call state).1 = .ok value → value = step.granted) :
    Takes machine operation [step] state :=
  htake ▸ takes_take step hgranted (takes_pure machine _)

theorem takes_enterAsRoot (state : σ) : Takes machine ChrootArgs.enterAsRoot [chrootStep] state :=
  takes_last chrootStep (bind_pure _).symm fun _ _ ↦ rfl

theorem takes_top (state : σ) :
    Takes machine (do ChrootArgs.checkStep "chdir /" (← Operation.ask (.changeDirectory "/"))) [topStep]
      state :=
  takes_last topStep (bind_pure _).symm fun _ _ ↦ rfl

theorem takes_moveRoot (root : String) (held : Descriptor) (state : σ) :
    Takes machine (ChrootArgs.moveRoot root) (methodSteps root held .move) state := by
  have htake : ChrootArgs.moveRoot root = (moveStep root).take >>= fun _ ↦ ChrootArgs.enterAsRoot :=
    (bind_assoc _ _ _).symm
  rw [htake]
  exact takes_take (moveStep root) (fun _ _ ↦ rfl) (takes_enterAsRoot _)

theorem takes_pivot (root : String) (state : σ) :
    ∃ held, Takes machine (ChrootArgs.pivot root) (methodSteps root held .pivot) state := by
  -- The list of steps has to name the handle that the kernel is going to give.
  obtain ⟨held, hheld⟩ : ∃ held, ∀ handle,
      (machine.answer (.openDirectory "/") state).1 = .ok handle → handle = held := by
    cases (machine.answer (.openDirectory "/") state).1 with
    | error cause => exact ⟨⟨0⟩, nofun⟩
    | ok held => exact ⟨held, fun handle hhandle ↦ (Except.ok.inj hhandle).symm⟩
  have htake : ChrootArgs.pivot root = (openStep held).take >>= fun oldRoot ↦ (pivotStep root).take >>= fun _ ↦
      (returnStep oldRoot).take >>= fun _ ↦ slaveStep.take >>= fun _ ↦ detachStep.take := by
    simp only [Step.take, bind_assoc]
    rfl
  rw [htake]
  refine ⟨held, takes_take (openStep held) hheld ?_⟩
  apply takes_take (pivotStep root) fun _ _ ↦ rfl
  apply takes_take (returnStep held) fun _ _ ↦ rfl
  apply takes_take slaveStep fun _ _ ↦ rfl
  exact takes_last detachStep (bind_pure _).symm fun _ _ ↦ rfl

/-- What is done once the new root has been entered. -/
def settle (root : String) (method : RootMethod) : Operation Unit := do
  match method with
  | .pivot => ChrootArgs.pivot root
  | .move => ChrootArgs.moveRoot root
  | .chroot => ChrootArgs.enterAsRoot
  ChrootArgs.checkStep "chdir /" (← Operation.ask (.changeDirectory "/"))

/-- Whatever the method, its steps are taken and then the one to the top. -/
theorem takes_settle (machine : Machine Kernel σ) (root : String) (method : RootMethod) (state : σ) :
    ∃ held, Takes machine (settle root method) (methodSteps root held method ++ [topStep]) state := by
  cases method with
  | pivot =>
    obtain ⟨held, htakes⟩ := takes_pivot root state
    exact ⟨held, htakes.bind takes_top⟩
  | move => exact ⟨⟨0⟩, (takes_moveRoot root ⟨0⟩ state).bind takes_top⟩
  | chroot => exact ⟨⟨0⟩, (takes_enterAsRoot state).bind takes_top⟩

/-! ## The new root -/

/-- How the path of the new root is found out that is shown: `.` is looked up. -/
inductive Look (machine : Machine Kernel σ) (root : String) (state : σ) :
    List (Event Kernel) → String → σ → Prop
  | here {answer : Option String} {after : σ} (hhere : Path.isHere root = true)
    (hanswer : machine.answer .workingDirectory state = (answer, after)) :
    Look machine root state [⟨.workingDirectory, answer⟩] (answer.getD root) after
  | away (haway : Path.isHere root = false) : Look machine root state [] root state

theorem Look.calls_eq {root shown : String} {look : List (Event Kernel)} {looked : σ}
    (h : Look machine root state look shown looked) :
    look.map (·.call) = if Path.isHere root then [.workingDirectory] else [] := by
  cases h with
  | here hhere => rw [hhere]; rfl
  | away haway => rw [haway]; rfl

theorem Look.after_eq {root shown : String} {look : List (Event Kernel)} {looked : σ}
    (h : Look machine root state look shown looked) : machine.after (look.map (·.call)) state = looked := by
  cases h with
  | here hhere hanswer => exact congrArg Prod.snd hanswer
  | away haway => rfl

/-- Any other call comes after the look. -/
theorem Look.split {root shown : String} {look : List (Event Kernel)} {looked : σ}
    (h : Look machine root state look shown looked) {calls before following : List KernelCall}
    {call : KernelCall} (hcall : call ≠ .workingDirectory)
    (hcalls : look.map (·.call) ++ calls = before ++ call :: following) :
    ∃ made, calls = made ++ call :: following ∧ machine.after before state = machine.after made looked := by
  have hother : call ∉ look.map (·.call) := fun hmem ↦ by
    rw [h.calls_eq] at hmem
    split at hmem
    · exact hcall (List.mem_singleton.mp hmem)
    · cases hmem
  rcases List.append_eq_append_iff.mp hcalls with ⟨made, rfl, hmade⟩ | ⟨looks, hlooks, hlater⟩
  · exact ⟨made, hmade, by rw [Machine.after_append, h.after_eq]⟩
  · cases looks with
    | nil => exact ⟨[], hlater.symm, by rw [← h.after_eq, hlooks, List.append_nil]; rfl⟩
    | cons first rest =>
      obtain ⟨rfl, -⟩ := List.cons.inj hlater
      exact absurd (hlooks ▸ List.mem_append_right before List.mem_cons_self) hother

/-- A root switch enters the new root and then settles there. -/
theorem perform_eq (args : ChrootArgs) :
    args.perform = (do settle (← ChrootArgs.enterRoot args.root) args.method) := by
  unfold ChrootArgs.perform settle
  refine congrArg _ (funext fun root ↦ ?_)
  cases args.method <;> rfl

/-- On every machine a root switch takes its steps, after a look at the working directory where that is the new
root. -/
theorem runs_perform (machine : Machine Kernel σ) (args : ChrootArgs) (state : σ) :
    ∃ look shown looked held events result after, Look machine args.root state look shown looked ∧
      Runs machine args.perform.run state (look ++ events) (.returned result) after ∧
      Course machine (steps args shown held) looked events result after := by
  cases hhere : Path.isHere args.root with
  | true =>
    have hperform : args.perform = Operation.ask .workingDirectory >>= fun answer ↦
        settle (answer.getD args.root) args.method := by
      simp only [perform_eq, ChrootArgs.enterRoot, hhere, if_true, bind_assoc, pure_bind]
    rcases hanswer : machine.answer .workingDirectory state with ⟨answer, looked⟩
    obtain ⟨held, events, result, after, hruns, hcourse⟩ :=
      takes_settle machine (answer.getD args.root) args.method looked
    refine ⟨_, _, looked, held, events, result, after, .here hhere hanswer, ?_, ?_⟩
    · rw [hperform]
      exact (Program.runs_ask hanswer).bind_ok hruns
    · rw [steps_of_here hhere]
      exact hcourse
  | false =>
    have hperform : args.perform = (enterStep args.root).take >>= fun _ ↦ settle args.root args.method := by
      simp only [perform_eq, ChrootArgs.enterRoot, hhere, Bool.false_eq_true, if_false, Step.take, bind_assoc,
        pure_bind]
      rfl
    obtain ⟨held, htakes⟩ := takes_settle machine args.root args.method
      (machine.answer (.changeDirectory args.root) state).2
    have hwhole : Takes machine args.perform (steps args args.root held) state := by
      rw [hperform, steps_of_away hhere]
      exact takes_take (enterStep args.root) (fun _ _ ↦ rfl) htakes
    obtain ⟨events, result, after, hruns, hcourse⟩ := hwhole
    exact ⟨[], args.root, state, held, events, result, after, .away hhere, hruns, hcourse⟩

/-! ## Roots and working directories -/

/-- As long as steps are granted, `good` holds of each call and the state that it is made in, and of the state
after all of them `post` holds. -/
def Along (machine : Machine Kernel σ) (good : KernelCall → σ → Prop) (post : σ → Prop) : List Step → σ → Prop
  | [], state => post state
  | step :: rest, state => good step.call state ∧ ∀ answer after,
    machine.answer step.call state = (answer, after) → step.read answer = .ok step.granted →
      Along machine good post rest after

variable {good : KernelCall → σ → Prop} {post : σ → Prop}

theorem Along.append (h : Along machine good (Along machine good post later) first state) :
    Along machine good post (first ++ later) state := by
  induction first generalizing state with
  | nil => exact h
  | cons step rest ih => exact ⟨h.1, fun answer after hanswer hgranted ↦ ih (h.2 answer after hanswer hgranted)⟩

theorem Along.mono {weaker : σ → Prop} (h : Along machine good post first state)
    (hweaker : ∀ after, post after → weaker after) : Along machine good weaker first state := by
  induction first generalizing state with
  | nil => exact hweaker state h
  | cons step rest ih => exact ⟨h.1, fun answer after hanswer hgranted ↦ ih (h.2 answer after hanswer hgranted)⟩

/-- A course keeps to what holds along its steps. -/
theorem Course.good_of_calls (h : Course machine first state events result after)
    (halong : Along machine good post first state) {before following : List KernelCall} {call : KernelCall}
    (hcalls : events.map (·.call) = before ++ call :: following) : good call (machine.after before state) := by
  induction h generalizing before with
  | completed state => cases before <;> cases hcalls
  | stopped hanswer hrefused =>
    cases before with
    | nil =>
      cases hcalls
      exact halong.1
    | cons made before => cases before <;> cases hcalls
  | passed hanswer hgranted hrest ih =>
    cases before with
    | nil =>
      cases hcalls
      exact halong.1
    | cons made before =>
      obtain ⟨rfl, hlater⟩ := List.cons.inj hcalls
      have hgood := ih (halong.2 _ _ hanswer hgranted) hlater
      rw [Machine.after, Machine.perform, hanswer]
      exact hgood

/-- What the steps lead to holds once all of them have succeeded. -/
theorem Course.post_of_ok (h : Course machine first state events (.ok ()) after)
    (halong : Along machine good post first state) : post after := by
  generalize hok : Except.ok () = done at h
  induction h with
  | completed state => exact halong
  | stopped => cases hok
  | passed hanswer hgranted _ ih => exact ih (halong.2 _ _ hanswer hgranted) hok

variable (kernel : RootKernel σ δ μ)

/-- Mounts are let go of at the old root only. -/
def Careful (start : σ) (place : δ) (call : KernelCall) (now : σ) : Prop :=
  call.letsGo = true → (kernel.scene start).Behind place (kernel.scene now)

variable {kernel} {start state : σ} {place : δ}

theorem along_top (hroot : (kernel.scene state).root = place) :
    Along kernel.machine (Careful kernel start place) (fun after ↦ (kernel.scene after).AtTop place) [topStep]
      state := by
  refine ⟨nofun, fun answer after hanswer hgranted ↦ ?_⟩
  obtain rfl : answer = .ok () := hgranted
  have hscene : kernel.scene after = _ := kernel.places_of_answer hanswer
  exact ⟨by rw [hscene, hroot], by rw [hscene, kernel.leadsTo_root, hroot]⟩

theorem along_chroot (hdirectory : (kernel.scene state).directory = place) :
    Along kernel.machine (Careful kernel start place) (fun after ↦ (kernel.scene after).root = place)
      [chrootStep] state := by
  refine ⟨nofun, fun answer after hanswer hgranted ↦ ?_⟩
  obtain rfl : answer = .ok () := hgranted
  have hscene : kernel.scene after = _ := kernel.places_of_answer hanswer
  change (kernel.scene after).root = place
  rw [hscene, kernel.leadsTo_here, hdirectory]

/-- A move leads to the place, and lets nothing go on the way. -/
theorem along_move (root : String) (hdirectory : (kernel.scene state).directory = place) :
    Along kernel.machine (Careful kernel start place) (fun after ↦ (kernel.scene after).root = place)
      [moveStep root, chrootStep] state := by
  refine ⟨nofun, fun answer after hanswer hgranted ↦ along_chroot ?_⟩
  obtain rfl : answer = .ok () := hgranted
  have hstays : (kernel.scene state).Stays (kernel.scene after) := kernel.places_of_answer hanswer
  rw [hstays.directory, hdirectory]

/-- The thread goes back to the old root, which is another place than the new one. -/
theorem along_pivot (root : String) (held : Descriptor)
    (hroot : (kernel.scene state).root = (kernel.scene start).root)
    (hdirectory : (kernel.scene state).directory = place) :
    Along kernel.machine (Careful kernel start place) (fun after ↦ (kernel.scene after).root = place)
      [openStep held, pivotStep root, returnStep held, slaveStep, detachStep] state := by
  refine ⟨nofun, fun answer opened hanswer hgranted ↦ ?_⟩
  obtain rfl : answer = .ok held := hgranted
  obtain ⟨hheld, hopened⟩ := kernel.places_of_answer hanswer
  refine ⟨nofun, fun answer pivoted hanswer hgranted ↦ ?_⟩
  obtain rfl : answer = .ok () := hgranted
  have hpivots : (kernel.scene opened).Pivots _ (kernel.scene pivoted) := kernel.places_of_answer hanswer
  refine ⟨nofun, fun answer returned hanswer hgranted ↦ ?_⟩
  obtain rfl : answer = .ok () := hgranted
  obtain ⟨hback, hreturned⟩ := kernel.places_of_answer hanswer
  -- The handle was opened at the old root, and pivoting does not touch what handles are open at.
  have hrootOpened : (kernel.scene opened).root = (kernel.scene start).root := by rw [hopened, hroot]
  have hentered : kernel.leadsTo opened "." = place := by rw [kernel.leadsTo_here, hopened, hdirectory]
  have hother : place ≠ (kernel.scene start).root := hentered ▸ hrootOpened ▸ hpivots.other
  have hrootReturned : (kernel.scene returned).root = place := by rw [hreturned, hpivots.root, hentered]
  have hdirectoryReturned : (kernel.scene returned).directory = (kernel.scene start).root := by
    rw [hpivots.held, hheld, kernel.leadsTo_root] at hback
    exact (Option.some.inj hback).symm.trans hroot
  have hbehind : (kernel.scene start).Behind place (kernel.scene returned) :=
    ⟨hdirectoryReturned, hrootReturned, hother⟩
  refine ⟨fun _ ↦ hbehind, fun answer slaved hanswer hgranted ↦ ?_⟩
  obtain rfl : answer = .ok () := hgranted
  have hstill : (kernel.scene start).Behind place (kernel.scene slaved) :=
    hbehind.of_stays (kernel.places_of_answer hanswer)
  refine ⟨fun _ ↦ hstill, fun answer detached hanswer hgranted ↦ ?_⟩
  obtain rfl : answer = .ok () := hgranted
  exact (hstill.of_stays (kernel.places_of_answer hanswer)).root

/-- Either method makes the place the root, and is careful. -/
theorem along_method (root : String) (held : Descriptor) (method : RootMethod)
    (hroot : (kernel.scene state).root = (kernel.scene start).root)
    (hdirectory : (kernel.scene state).directory = place) :
    Along kernel.machine (Careful kernel start place) (fun after ↦ (kernel.scene after).root = place)
      (methodSteps root held method) state := by
  cases method with
  | pivot => exact along_pivot root held hroot hdirectory
  | move => exact along_move root hdirectory
  | chroot => exact along_chroot hdirectory

theorem along_settle (root : String) (held : Descriptor) (method : RootMethod)
    (hroot : (kernel.scene state).root = (kernel.scene start).root)
    (hdirectory : (kernel.scene state).directory = place) :
    Along kernel.machine (Careful kernel start place) (fun after ↦ (kernel.scene after).AtTop place)
      (methodSteps root held method ++ [topStep]) state :=
  ((along_method root held method hroot hdirectory).mono fun _ ↦ along_top).append

/-- The place that becomes the root. -/
def entered (kernel : RootKernel σ δ μ) (root : String) (state : σ) : δ :=
  if Path.isHere root then (kernel.scene state).directory else kernel.leadsTo state root

/-- All of a root switch is careful, and ends at the top of the new root. -/
theorem along_steps {look : List (Event Kernel)} {shown : String} {looked : σ} {args : ChrootArgs}
    (h : Look kernel.machine args.root start look shown looked) (held : Descriptor) :
    Along kernel.machine (Careful kernel start (entered kernel args.root start))
      (fun after ↦ (kernel.scene after).AtTop (entered kernel args.root start)) (steps args shown held)
      looked := by
  cases h with
  | here hhere hanswer =>
    have hscene : kernel.scene looked = kernel.scene start := kernel.places_of_answer hanswer
    rw [steps_of_here hhere, entered, if_pos hhere]
    exact along_settle _ held args.method (by rw [hscene]) (by rw [hscene])
  | away haway =>
    rw [steps_of_away haway, entered, if_neg (Bool.not_eq_true _ ▸ haway)]
    refine ⟨nofun, fun answer found hanswer hgranted ↦ ?_⟩
    obtain rfl : answer = .ok () := hgranted
    have hscene : kernel.scene found = _ := kernel.places_of_answer hanswer
    exact along_settle _ held args.method (by rw [hscene]) (by rw [hscene])

/-- What a root switch does, and where that leaves the thread. -/
structure Laws (args : ChrootArgs) : Prop where
  /-- Its steps are taken until one fails, after a look at the working directory where that is the new root. -/
  course : ∀ {σ : Type} (machine : Machine Kernel σ) (state : σ), ∃ look shown looked held events result after,
    Look machine args.root state look shown looked ∧
      Runs machine args.perform.run state (look ++ events) (.returned result) after ∧
      Course machine (steps args shown held) looked events result after
  /-- But for that look, the first calls of the list are made and no others. -/
  calls : ∀ {σ : Type} (machine : Machine Kernel σ) (state : σ), ∃ shown held,
    (args.perform.run.calls machine state).filter (· ≠ .workingDirectory) <+:
      (steps args shown held).map (·.call)
  careful : ∀ {σ δ μ : Type} (kernel : RootKernel σ δ μ) (state : σ) before call following,
    args.perform.run.calls kernel.machine state = before ++ call :: following → call.letsGo = true →
      (kernel.scene state).Behind (entered kernel args.root state)
        (kernel.scene (kernel.machine.after before state))
  switched : ∀ {σ δ μ : Type} (kernel : RootKernel σ δ μ) (state after : σ),
    args.perform.run.run kernel.machine state = (.returned (.ok ()), after) →
      (kernel.scene after).AtTop (entered kernel args.root state)
  /-- A new root that cannot be entered changes nothing. -/
  unentered : ∀ {σ δ μ : Type} (kernel : RootKernel σ δ μ) (state after : σ) errno,
    Path.isHere args.root = false →
    kernel.machine.answer (.changeDirectory args.root) state = (.error errno, after) →
      Runs kernel.machine args.perform.run state [⟨.changeDirectory args.root, .error errno⟩]
        (.returned (.error (.rootSwitch "chdir to new root" s!"{args.root}: {errno.namedText}"))) after ∧
      kernel.scene after = kernel.scene state

/-- But for the look, the calls of a root switch are those of its steps, from the first one on. -/
theorem calls_perform (machine : Machine Kernel σ) (args : ChrootArgs) (state : σ) : ∃ shown held,
    (args.perform.run.calls machine state).filter (· ≠ .workingDirectory) <+:
      (steps args shown held).map (·.call) := by
  obtain ⟨look, shown, looked, held, events, result, after, hlook, hruns, hcourse⟩ :=
    runs_perform machine args state
  have hlooked : (look.map (·.call)).filter (· ≠ .workingDirectory) = [] := by
    rw [hlook.calls_eq]
    split <;> rfl
  have hother : ∀ call ∈ events.map (·.call), decide (call ≠ .workingDirectory) = true := fun call hcall ↦ by
    obtain ⟨step, hstep, rfl⟩ := List.mem_map.mp (hcourse.calls_isPrefix.subset hcall)
    exact decide_eq_true (call_ne_workingDirectory hstep)
  refine ⟨shown, held, ?_⟩
  rw [hruns.calls_eq, List.map_append, List.filter_append, hlooked, List.filter_eq_self.mpr hother]
  exact hcourse.calls_isPrefix

/-- At every call of a root switch, mounts are let go of at the old root only. -/
theorem careful_perform (kernel : RootKernel σ δ μ) (args : ChrootArgs) (state : σ)
    {before following : List KernelCall} {call : KernelCall}
    (hcalls : args.perform.run.calls kernel.machine state = before ++ call :: following) :
    Careful kernel state (entered kernel args.root state) call (kernel.machine.after before state) := by
  intro hletsGo
  obtain ⟨look, shown, looked, held, events, result, after, hlook, hruns, hcourse⟩ :=
    runs_perform kernel.machine args state
  rw [hruns.calls_eq, List.map_append] at hcalls
  have hcall : call ≠ .workingDirectory := fun hcall ↦ by
    rw [hcall] at hletsGo
    cases hletsGo
  obtain ⟨made, hmade, hafter⟩ := hlook.split hcall hcalls
  rw [hafter]
  exact hcourse.good_of_calls (along_steps hlook held) hmade hletsGo

/-- A root switch that succeeds leaves the thread at the top of the new root. -/
theorem atTop_of_perform (kernel : RootKernel σ δ μ) (args : ChrootArgs) {state after : σ}
    (h : args.perform.run.run kernel.machine state = (.returned (.ok ()), after)) :
    (kernel.scene after).AtTop (entered kernel args.root state) := by
  obtain ⟨look, shown, looked, held, events, result, ended, hlook, hruns, hcourse⟩ :=
    runs_perform kernel.machine args state
  obtain ⟨hresult, rfl⟩ := Prod.mk.inj (hruns.run_eq.symm.trans h)
  cases hresult
  exact hcourse.post_of_ok (along_steps hlook held)

/-- A new root that cannot be entered is the end of it. -/
theorem runs_perform_unentered {args : ChrootArgs} {state after : σ} {errno : Errno}
    (haway : Path.isHere args.root = false)
    (h : machine.answer (.changeDirectory args.root) state = (.error errno, after)) :
    Runs machine args.perform.run state [⟨.changeDirectory args.root, .error errno⟩]
      (.returned (.error (.rootSwitch "chdir to new root" s!"{args.root}: {errno.namedText}"))) after := by
  obtain ⟨look, shown, looked, held, events, result, ended, hlook, hruns, hcourse⟩ :=
    runs_perform machine args state
  cases hlook with
  | here hhere => cases haway.symm.trans hhere
  | away =>
  rw [steps_of_away haway] at hcourse
  cases hcourse with
  | stopped hanswer hrefused =>
    cases hanswer.symm.trans h
    cases hrefused
    exact hruns
  | passed hanswer hgranted =>
    cases hanswer.symm.trans h
    cases hgranted

end RootSwitch

/-- A root switch stops at the first step that fails, lets go of the old root from inside only, and if it succeeds
leaves the thread at the top of the directory that it has entered. -/
theorem ChrootArgs.switch_laws (args : ChrootArgs) : RootSwitch.Laws args where
  course machine state := RootSwitch.runs_perform machine args state
  calls machine state := RootSwitch.calls_perform machine args state
  careful kernel state _ _ _ hcalls := RootSwitch.careful_perform kernel args state hcalls
  switched kernel _ _ h := RootSwitch.atTop_of_perform kernel args h
  unentered kernel _ _ _ haway h := ⟨RootSwitch.runs_perform_unentered haway h, kernel.places_of_answer h⟩

example : (ChrootArgs.perform ⟨"/new", .pivot⟩).run.calls RootRoom.kernel.machine RootRoom.start =
    [.changeDirectory "/new", .openDirectory "/", .pivotRoot "." ".", .changeDirectoryTo ⟨0⟩,
      .mount none "." none (MountFlags.slave ||| MountFlags.recursive) none, .detachMount ".",
      .changeDirectory "/"] := by
  rfl

end ContainerConstruction
