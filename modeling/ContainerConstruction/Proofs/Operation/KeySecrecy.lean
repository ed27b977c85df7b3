import ContainerConstruction.Proofs.Operation.Membership
import ContainerConstruction.Proofs.Program.Alike
import ContainerConstruction.Proofs.Request.Shown

/-!
# What a key makes no difference to

The key of a device reaches the tool that opens the device, as its input, and nothing else.  That is said of two runs
for requests that differ in nothing but the key, by going through them side by side: as long as the tool does the same
and the kernel answers the same, the same is asked and the same comes of it, but for the input of the tool and for the
random name that the device is opened under.  There is one such name in a run at most, so one pair of names accounts
for every difference.
-/

namespace ContainerConstruction

open Program (Alike)

variable {σ τ α β : Type}

/-! ## Work that is alike

Whatever work is alike stays so when it is done in the IPC namespace of a process and on a thread of its own. -/

/-- A call that two programs make alike, and after which they go on with one answer. -/
structure SameAsked (agree : Event Kernel → Event Kernel → Prop) (like : KernelCall → KernelCall → Prop)
    (call : KernelCall) : Prop where
  like : like call call
  answer_eq : ∀ answer other : call.Answer, agree ⟨call, answer⟩ ⟨call, other⟩ → answer = other

section

variable {agree : Event Kernel → Event Kernel → Prop} {like : KernelCall → KernelCall → Prop} {call : KernelCall}
  {same : α → β → Prop}

namespace Operation

theorem ask_bind_alike (hcall : SameAsked agree like call) {next : call.Answer → Operation α}
    {otherNext : call.Answer → Operation β}
    (hnext : ∀ answer, Alike agree like (SameResult same) (next answer).run (otherNext answer).run) :
    Alike agree like (SameResult same) (ask call >>= next).run (ask call >>= otherNext).run := by
  refine .call hcall.like fun answer other hagree ↦ ?_
  obtain rfl := hcall.answer_eq answer other hagree
  exact hnext answer

theorem ofResult_alike {result : Except Failure α} {other : Except Failure β} (h : SameResult same result other) :
    Alike agree like (SameResult same) (ofResult result).run (ofResult other).run := by
  cases h with
  | error failure => exact .done (.error failure)
  | ok hsame => exact .done (.ok hsame)

theorem check_alike {ε : Type} (describe : ε → Failure) (answer : Except ε α) :
    Alike agree like (SameResult Eq) (check describe answer).run (check describe answer).run := by
  cases answer with
  | error error => exact .done (.error _)
  | ok value => exact .done (.ok rfl)

end Operation

namespace IpcNamespace

theorem describing_alike (describe : String → Failure) {work : Operation α} {other : Operation β}
    (h : Alike agree like (SameResult same) work.run other.run) :
    Alike agree like (SameResult same) (describing describe work).run (describing describe other).run := by
  refine h.bind fun result otherResult hresult ↦ ?_
  cases hresult with
  | error failure => exact .done (.error _)
  | ok hsame => exact .done (.ok hsame)

variable (hthreads : ∀ call : KernelCall, call.isAboutThreads = true → SameAsked agree like call)

include hthreads

theorem openFile_alike (path : String) :
    Alike agree like (SameResult Eq) (openFile path).run (openFile path).run :=
  Operation.ask_bind_alike (hthreads _ rfl) fun answer ↦ Operation.check_alike _ answer

theorem enter_alike (handle : Descriptor) :
    Alike agree like (SameResult Eq) (enter handle).run (enter handle).run :=
  Operation.ask_bind_alike (hthreads _ rfl) fun answer ↦ Operation.check_alike _ answer

theorem arrive_alike (pid : Int32) : Alike agree like (SameResult Eq) (arrive pid).run (arrive pid).run := by
  refine (openFile_alike hthreads ownFile).bind_run fun own _ hown ↦ ?_
  refine (openFile_alike hthreads (fileOf pid)).bind_run fun host _ hhost ↦ ?_
  subst hown hhost
  exact (describing_alike _ (enter_alike hthreads host)).bind_run fun _ _ _ ↦ .done (.ok rfl)

/-- A visit to another namespace tells nothing of the work done there. -/
theorem within_alike {pid : Int32} (hpid : 0 < pid) {work : Operation α} {other : Operation β}
    (h : Alike agree like (SameResult same) work.run other.run) :
    Alike agree like (SameResult same) (within pid work).run (within pid other).run := by
  rw [within_eq hpid, within_eq hpid]
  refine (arrive_alike hthreads pid).bind_run fun own _ hown ↦ ?_
  subst hown
  refine h.lift.bind_run fun result otherResult hresult ↦ ?_
  exact (describing_alike _ (enter_alike hthreads own)).bind_run fun _ _ _ ↦ Operation.ofResult_alike hresult

end IpcNamespace

namespace CryptDevice

variable (hthreads : ∀ call : KernelCall, call.isAboutThreads = true → SameAsked agree like call)

include hthreads

theorem onOwnThread_alike {work : Operation α} {other : Operation β}
    (h : Alike agree like (SameResult same) work.run other.run) :
    Alike agree like (SameResult same) (onOwnThread work).run (onOwnThread other).run := by
  refine Operation.ask_bind_alike (hthreads _ rfl) fun begun ↦ ?_
  refine (Operation.check_alike _ begun).bind_run fun _ _ _ ↦ ?_
  refine h.attempt.lift.bind_run fun _ _ houtcome ↦ ?_
  obtain ⟨result, otherResult, rfl, rfl, hresult⟩ := houtcome
  exact Operation.ask_bind_alike (hthreads _ rfl) fun _ ↦ Operation.ofResult_alike hresult

/-- What surrounds the work of a request is alike if the work is. -/
theorem unlocking_alike (pid : Int32) {work : Operation α} {other : Operation β}
    (h : Alike agree like (SameResult same) work.run other.run) :
    Alike agree like (SameResult same) (unlocking pid work).run (unlocking pid other).run := by
  unfold unlocking
  split
  next hpid => exact onOwnThread_alike hthreads (IpcNamespace.within_alike hthreads hpid h)
  next => exact h

end CryptDevice

end

/-! ## Fresh names

Only the tool needs a name, so no more than one is asked for. -/

/-- The fresh names that are given in a run. -/
def freshNames (events : List (Event Kernel)) : List String :=
  events.filterMap fun event ↦
    match event with
    | ⟨.freshName, name⟩ => some name
    | _ => none

namespace Program

/-- Whatever is answered, a program returns, and so many fresh names at most are given to it. -/
def TakesNames (most : Nat) (program : Program Kernel α) : Prop :=
  program.Yields fun events _ ↦ (freshNames events).length ≤ most

variable {most later : Nat}

theorem takesNames_done (value : α) : (.done value : Program Kernel α).TakesNames 0 := yields_done (Nat.le_refl 0)

theorem TakesNames.bind {program : Program Kernel α} {next : α → Program Kernel β} (h : program.TakesNames most)
    (hnext : ∀ value, (next value).TakesNames later) : (program.bind next).TakesNames (most + later) := by
  refine Yields.andThen (h.mono fun events value hevents ↦ (hnext value).mono fun laterEvents _ hlater ↦ ?_)
  rw [freshNames, List.filterMap_append, List.length_append]
  exact Nat.add_le_add hevents hlater

theorem TakesNames.bind_run {work : Operation α} {next : α → Operation β} (h : work.run.TakesNames most)
    (hnext : ∀ value, (next value).run.TakesNames later) : (work >>= next).run.TakesNames (most + later) := by
  refine TakesNames.bind h fun result ↦ ?_
  cases result with
  | ok value => exact hnext value
  | error failure => exact (takesNames_done _).mono fun _ _ hnone ↦ Nat.le_trans hnone (Nat.zero_le later)

theorem TakesNames.lift {program : Program Kernel α} (h : program.TakesNames most) :
    (ExceptT.lift program : Operation α).run.TakesNames most :=
  h.bind fun value ↦ takesNames_done (Except.ok value)

end Program

open Program (takesNames_done)

namespace Operation

theorem ask_takesNames (call : KernelCall) (hcall : call ≠ .freshName) : (ask call).run.TakesNames 0 := by
  refine Program.yields_call fun answer ↦ Program.yields_done ?_
  cases call <;> first | exact absurd rfl hcall | exact Nat.le_refl 0

theorem ask_freshName_takesNames : (ask .freshName).run.TakesNames 1 :=
  Program.yields_call fun _ ↦ Program.yields_done (Nat.le_refl 1)

theorem ofResult_takesNames (result : Except Failure α) : (ofResult result).run.TakesNames 0 := by
  cases result <;> exact takesNames_done _

theorem check_takesNames {ε : Type} (describe : ε → Failure) (answer : Except ε α) :
    (check describe answer).run.TakesNames 0 := by
  cases answer <;> exact takesNames_done _

end Operation

namespace IpcNamespace

theorem openFile_takesNames (path : String) : (openFile path).run.TakesNames 0 :=
  (Operation.ask_takesNames (.openNamespace path) nofun).bind_run fun answer ↦ Operation.check_takesNames _ answer

theorem describing_enter_takesNames (describe : String → Failure) (handle : Descriptor) :
    (describing describe (enter handle)).run.TakesNames 0 := by
  have henter : (enter handle).run.TakesNames 0 :=
    (Operation.ask_takesNames (.joinIpc handle) nofun).bind_run fun answer ↦ Operation.check_takesNames _ answer
  -- Describing a failure asks for nothing, so what is said of the two parts adds up to none.
  change Program.TakesNames (0 + 0) _
  refine henter.bind fun result ↦ ?_
  cases result <;> exact takesNames_done _

/-- A visit to another namespace takes no fresh name itself. -/
theorem within_takesNames {pid : Int32} (hpid : 0 < pid) {work : Operation α} (h : work.run.TakesNames 1) :
    (within pid work).run.TakesNames 1 := by
  have harrive : (arrive pid).run.TakesNames 0 :=
    (openFile_takesNames ownFile).bind_run fun own ↦ (openFile_takesNames (fileOf pid)).bind_run fun host ↦
      (describing_enter_takesNames _ host).bind_run fun _ ↦ takesNames_done (Except.ok own)
  rw [within_eq hpid]
  exact harrive.bind_run fun own ↦ h.lift.bind_run fun result ↦
    (describing_enter_takesNames _ own).bind_run fun _ ↦ Operation.ofResult_takesNames result

end IpcNamespace

namespace CryptDevice

/-- A device is opened under one fresh name. -/
theorem openDevice_takesNames (program : String) (key : List UInt8) (device : String) :
    (openDevice program key device).run.TakesNames 1 := by
  change Program.TakesNames (1 + (0 + 0)) _
  refine Operation.ask_freshName_takesNames.bind_run fun name ↦
    (Operation.ask_takesNames (.runTool program (arguments device (namePrefix ++ name)) key) nofun).bind_run
      fun answer ↦ ?_
  rcases answer with (cause | cause) | result
  · exact takesNames_done _
  · exact takesNames_done _
  · change Program.TakesNames 0 (ExceptT.run (if result.status.isSuccess then _ else _))
    split <;> exact takesNames_done _

theorem onOwnThread_takesNames {work : Operation α} (h : work.run.TakesNames 1) :
    (onOwnThread work).run.TakesNames 1 := by
  have hattempt : work.run.attempt.TakesNames 1 := Program.Yields.attempt h
  change Program.TakesNames (0 + (0 + (1 + (0 + 0)))) _
  refine (Operation.ask_takesNames .beginThread nofun).bind_run fun begun ↦
    (Operation.check_takesNames _ begun).bind_run fun _ ↦ hattempt.lift.bind_run fun outcome ↦
      (Operation.ask_takesNames .endThread nofun).bind_run fun _ ↦ ?_
  cases outcome with
  | panicked panic => exact takesNames_done _
  | returned result => exact Operation.ofResult_takesNames result

theorem unlocking_takesNames (pid : Int32) {work : Operation α} (h : work.run.TakesNames 1) :
    (unlocking pid work).run.TakesNames 1 := by
  unfold unlocking
  split
  next hpid => exact onOwnThread_takesNames (IpcNamespace.within_takesNames hpid h)
  next => exact h

/-- A request to open a device takes one fresh name at most. -/
theorem perform_takesNames (args : CryptArgs) : args.perform.run.TakesNames 1 := by
  have hlocate : locate.run.TakesNames 0 :=
    (Operation.ask_takesNames (.locateProgram tool) nofun).bind_run fun answer ↦ Operation.check_takesNames _ answer
  rw [perform_eq]
  exact hlocate.bind_run fun program ↦
    (unlocking_takesNames args.masterPid (openDevice_takesNames program args.key args.loopDevice)).bind_run
      fun name ↦ takesNames_done (Except.ok (CryptReply.mk (mappedPath name)))

/-! ## Two runs -/

/-- Calls of two runs with their answers.  The same call has the same answer, but that fresh names may be any, and the
tool does the same whatever it is called with.  Nothing is said of other calls that are not the same. -/
structure Concur (first second : Event Kernel) : Prop where
  same : first.call = second.call → first.call ≠ .freshName → first = second
  tool : ∀ {program arguments input result otherProgram otherArguments otherInput otherResult},
    first = ⟨.runTool program arguments input, result⟩ →
      second = ⟨.runTool otherProgram otherArguments otherInput, otherResult⟩ → result = otherResult

/-- Besides, the fresh names are known. -/
structure ConcurOn (names : String × String) (first second : Event Kernel) : Prop extends Concur first second where
  first_name : ∀ {name}, first = ⟨.freshName, name⟩ → name = names.1
  second_name : ∀ {name}, second = ⟨.freshName, name⟩ → name = names.2

/-- The same call, or two calls of the tool with the same arguments, up to the name of the device that is opened and
to the key that is its input. -/
inductive SameCall (device : String) (keys : List UInt8 × List UInt8) (names : String × String) :
    KernelCall → KernelCall → Prop where
  | same {call : KernelCall} (hcall : ∀ program arguments input, call ≠ .runTool program arguments input) :
    SameCall device keys names call call
  | tool (program : String) : SameCall device keys names
    (.runTool program (arguments device (namePrefix ++ names.1)) keys.1)
    (.runTool program (arguments device (namePrefix ++ names.2)) keys.2)

variable (device : String) (keys : List UInt8 × List UInt8) (names : String × String)

/-- Every call but the one for a fresh name and the one to a tool is made alike.
-/
theorem sameAsked (call : KernelCall) (hname : call ≠ .freshName)
    (htool : ∀ program arguments input, call ≠ .runTool program arguments input) :
    SameAsked (ConcurOn names) (SameCall device keys names) call where
  like := .same htool
  answer_eq _ _ hconcur := eq_of_heq (Event.mk.inj (hconcur.same rfl hname)).2

theorem sameAsked_threads {call : KernelCall} (h : call.isAboutThreads = true) :
    SameAsked (ConcurOn names) (SameCall device keys names) call :=
  sameAsked device keys names call (fun hname ↦ by rw [hname] at h; cases h)
    fun program arguments input htool ↦ by rw [htool] at h; cases h

/-- With another key, the same calls are made up to the key and the fresh name. -/
theorem openDevice_alike (program : String) :
    Alike (ConcurOn names) (SameCall device keys names)
      (SameResult fun name other ↦ name = namePrefix ++ names.1 ∧ other = namePrefix ++ names.2)
      (openDevice program keys.1 device).run (openDevice program keys.2 device).run := by
  refine .call (.same nofun) fun name other hnames ↦ ?_
  obtain rfl := hnames.first_name rfl
  obtain rfl := hnames.second_name rfl
  refine .call (.tool program) fun answer otherAnswer hanswers ↦ ?_
  obtain rfl := hanswers.tool rfl rfl
  rcases answer with (cause | cause) | result
  · exact .done (.error _)
  · exact .done (.error _)
  · change Alike _ _ _ (ExceptT.run (if result.status.isSuccess then _ else _))
      (ExceptT.run (if result.status.isSuccess then _ else _))
    split
    · exact .done (.ok ⟨rfl, rfl⟩)
    · exact .done (.error _)

/-- Requests that differ in the key alone are carried out alike, up to the key and the fresh name.
-/
theorem perform_alike (args : CryptArgs) (key : List UInt8) :
    Alike (ConcurOn names) (SameCall args.loopDevice (args.key, key) names)
      (SameResult fun reply other ↦ reply = ⟨mappedPath (namePrefix ++ names.1)⟩ ∧
        other = ⟨mappedPath (namePrefix ++ names.2)⟩)
      args.perform.run { args with key := key }.perform.run := by
  rw [perform_eq, perform_eq]
  have hlocate : Alike (ConcurOn names) (SameCall args.loopDevice (args.key, key) names) (SameResult Eq)
      locate.run locate.run :=
    Operation.ask_bind_alike (sameAsked _ _ _ (.locateProgram tool) nofun nofun) fun answer ↦
      Operation.check_alike _ answer
  refine hlocate.bind_run fun program _ hprogram ↦ ?_
  subst hprogram
  refine (unlocking_alike (fun _ ↦ sameAsked_threads _ _ names) args.masterPid
    (openDevice_alike args.loopDevice (args.key, key) names program)).bind_run fun name other hnames ↦ ?_
  obtain ⟨rfl, rfl⟩ := hnames
  exact .done (.ok ⟨rfl, rfl⟩)

/-- What two runs have in common that are for requests which differ in nothing but the key.  No more is different than
the names that were given, and what the tool is given. -/
structure KeyUnseen (args : CryptArgs) (key : List UInt8) (machine : Machine Kernel σ) (state : σ)
    (other : Machine Kernel τ) (otherState : τ) (names : String × String) : Prop where
  first_name : freshNames (args.perform.run.trace machine state) <+: [names.1]
  second_name : freshNames ({ args with key := key }.perform.run.trace other otherState) <+: [names.2]
  calls : List.Forall₂ (SameCall args.loopDevice (args.key, key) names) (args.perform.run.calls machine state)
    ({ args with key := key }.perform.run.calls other otherState)
  result : (∃ failure, (args.perform.run.run machine state).1 = .returned (.error failure) ∧
      ({ args with key := key }.perform.run.run other otherState).1 = .returned (.error failure)) ∨
    (args.perform.run.run machine state).1 = .returned (.ok ⟨mappedPath (namePrefix ++ names.1)⟩) ∧
      ({ args with key := key }.perform.run.run other otherState).1 =
        .returned (.ok ⟨mappedPath (namePrefix ++ names.2)⟩)

theorem mem_freshNames {name : String} {events : List (Event Kernel)} (h : ⟨.freshName, name⟩ ∈ events) :
    name ∈ freshNames events := List.mem_filterMap.mpr ⟨_, h, rfl⟩

/-- A run is given one fresh name at most. -/
theorem exists_name (args : CryptArgs) (machine : Machine Kernel σ) (state : σ) :
    ∃ name, freshNames (args.perform.run.trace machine state) <+: [name] := by
  obtain ⟨events, result, after, hruns, hevents⟩ := perform_takesNames args machine state
  rw [hruns.trace_eq]
  match hnames : freshNames events, hevents with
  | [], _ => exact ⟨"", List.nil_prefix⟩
  | [name], _ => exact ⟨name, List.prefix_rfl⟩

/-- The two runs are compared up to the names that they are given. -/
theorem exists_keyUnseen (args : CryptArgs) (key : List UInt8) (machine : Machine Kernel σ) (state : σ)
    (other : Machine Kernel τ) (otherState : τ)
    (h : ∀ pair ∈ (args.perform.run.trace machine state).zip
      ({ args with key := key }.perform.run.trace other otherState), Concur pair.1 pair.2) :
    ∃ names, KeyUnseen args key machine state other otherState names := by
  obtain ⟨name, hname⟩ := exists_name args machine state
  obtain ⟨otherName, hotherName⟩ := exists_name { args with key := key } other otherState
  have hconcur : ∀ pair ∈ (args.perform.run.trace machine state).zip
      ({ args with key := key }.perform.run.trace other otherState),
      ConcurOn (name, otherName) pair.1 pair.2 := by
    intro pair hpair
    obtain ⟨hfirst, hsecond⟩ := List.of_mem_zip hpair
    refine ⟨h pair hpair, fun hgiven ↦ ?_, fun hgiven ↦ ?_⟩
    · exact List.mem_singleton.mp (hname.subset (mem_freshNames (hgiven ▸ hfirst)))
    · exact List.mem_singleton.mp (hotherName.subset (mem_freshNames (hgiven ▸ hsecond)))
  obtain ⟨hcalls, result, otherResult, hresult, hotherResult, hsame⟩ :=
    (perform_alike (name, otherName) args key).runs machine state other otherState hconcur
  refine ⟨(name, otherName), hname, hotherName, hcalls, ?_⟩
  cases hsame with
  | error failure => exact .inl ⟨failure, hresult, hotherResult⟩
  | ok hreplies =>
    obtain ⟨rfl, rfl⟩ := hreplies
    exact .inr ⟨hresult, hotherResult⟩

/-! ### Calls that concur -/

theorem Concur.self (event : Event Kernel) : Concur event event where
  same _ _ := rfl
  tool hfirst hsecond := by
    rw [hfirst] at hsecond
    cases hsecond
    rfl

theorem concur_names (name other : String) : Concur ⟨.freshName, name⟩ ⟨.freshName, other⟩ where
  same _ hcall := absurd rfl hcall
  tool hfirst := nomatch congrArg Event.call hfirst

theorem concur_tools {program otherProgram : String} {arguments otherArguments : List String}
    {input otherInput : List UInt8} (hinput : input ≠ otherInput) (result : Except ToolFailure ToolResult) :
    Concur ⟨.runTool program arguments input, result⟩ ⟨.runTool otherProgram otherArguments otherInput, result⟩ where
  same hcall := absurd (KernelCall.runTool.inj hcall).2.2 hinput
  tool hfirst hsecond := by
    cases hfirst
    cases hsecond
    rfl

end CryptDevice

open CryptDevice

/-- The texts of two requests, or of two plans, are the same just if they differ in nothing but the bytes of keys.
Nor does a key show when a device is opened: if the tool does the same and the kernel answers the same, the tool gets
the same arguments and the request has the same outcome, up to the name of the device. -/
theorem CryptArgs.keys_unseen :
    (∀ first second : Request, first.shown = second.shown ↔ first.SameButKey second) ∧
    (∀ first second : ConstructionPlan,
      first.shown = second.shown ↔ List.Forall₂ Request.SameButKey first.steps second.steps) ∧
    ∀ {σ τ : Type} (args : CryptArgs) (key : List UInt8) (machine : Machine Kernel σ) (state : σ)
      (other : Machine Kernel τ) (otherState : τ),
      (∀ pair ∈ (args.perform.run.trace machine state).zip
        ({ args with key }.perform.run.trace other otherState), Concur pair.1 pair.2) →
      ∃ names, KeyUnseen args key machine state other otherState names :=
  ⟨fun _ _ ↦ Request.shown_eq_iff, fun _ _ ↦ ConstructionPlan.shown_eq_iff, exists_keyUnseen⟩

/-- The kernel of `IpcRoom.kernel`, with a fresh name. -/
def IpcRoom.naming (name : String) : Machine Kernel IpcRoom where
  answer call room :=
    match call with
    | .freshName => (name, room)
    | call => IpcRoom.answer call room

/-- A device is opened with another key and under another name, in the namespace of a process. -/
theorem CryptArgs.keys_unseen_visiting :
    (∀ pair ∈ ((CryptArgs.mk [1, 2, 3] "/dev/loop0" 1).perform.run.trace (IpcRoom.naming "1f") IpcRoom.start).zip
      ((CryptArgs.mk [4, 5, 6] "/dev/loop0" 1).perform.run.trace (IpcRoom.naming "2e") IpcRoom.start),
      Concur pair.1 pair.2) ∧
    ((CryptArgs.mk [1, 2, 3] "/dev/loop0" 1).perform.run.run (IpcRoom.naming "1f") IpcRoom.start).1 =
      .returned (.ok ⟨"/dev/mapper/stockade-crypt-1f"⟩) ∧
    ∃ names, KeyUnseen ⟨[1, 2, 3], "/dev/loop0", 1⟩ [4, 5, 6] (IpcRoom.naming "1f") IpcRoom.start
      (IpcRoom.naming "2e") IpcRoom.start names := by
  refine ⟨?concur, rfl, CryptArgs.keys_unseen.2.2 ⟨[1, 2, 3], "/dev/loop0", 1⟩ [4, 5, 6] _ _ _ _ ?concur⟩
  change ∀ pair ∈ ([_, _, _, _, _, _, _, _, _] : List (Event Kernel × Event Kernel)), Concur pair.1 pair.2
  simp only [List.forall_mem_cons]
  exact ⟨.self _, .self _, .self _, .self _, .self _, concur_names _ _, concur_tools (by decide) _, .self _, .self _,
    List.forall_mem_nil _⟩

end ContainerConstruction
