import ContainerConstruction.Proofs.Operation.IpcKernel
import ContainerConstruction.Proofs.Program.Run

/-!
# In the IPC namespace of another process

Work that has to be done in the IPC namespace of a process is done there by a thread that was begun for it and
ends with it.  `IpcNamespace.Visit` lists the ways that can go: the thread does not get there, the work panics,
the thread does not get back, or it does.  No other thread is moved, however it goes.
-/

namespace ContainerConstruction

open Program (Runs)

variable {σ ν α : Type}

/-! ## Runs and failures -/

namespace Program

theorem runs_ask {machine : Machine Kernel σ} {call : KernelCall} {answer : call.Answer} {state after : σ}
    (h : machine.answer call state = (answer, after)) :
    Runs machine (Operation.ask call).run state [⟨call, answer⟩] (.returned (.ok answer)) after := by
  have hanswer : (machine.answer call state).1 = answer := congrArg Prod.fst h
  have hafter : (machine.answer call state).2 = after := congrArg Prod.snd h
  rw [← hanswer, ← hafter]
  exact ⟨rfl, rfl⟩

theorem runs_ofResult (machine : Machine Kernel σ) (result : Except Failure α) (state : σ) :
    Runs machine (Operation.ofResult result).run state [] (.returned result) state := by
  cases result with
  | ok value => exact runs_pure machine value state
  | error failure => exact runs_throw machine failure state

end Program

namespace IpcNamespace

def openFailure (path : String) (cause : IoCause) : Failure :=
  .namespaceEntry s!"cannot open {path}: {cause.message}"

def joinFailure (errno : Errno) : Failure := .namespaceEntry s!"setns IPC failed: {errno.namedText}"

def entryFailure (pid : Int32) (errno : Errno) : Failure :=
  .namespaceEntry s!"while joining host IPC namespace of pid {pid.toInt}: {(joinFailure errno).message}"

def returnFailure (errno : Errno) : Failure :=
  .namespaceRestore s!"while rejoining container IPC namespace: {(joinFailure errno).message}"

end IpcNamespace

/-! ## The ways of a visit -/

namespace IpcNamespace

/-- Going into the namespace of a process with a handle to come back with, which is given. -/
def arrive (pid : Int32) : Operation Descriptor := do
  let own ← openFile ownFile
  let host ← openFile (fileOf pid)
  describing (fun message ↦
    .namespaceEntry s!"while joining host IPC namespace of pid {pid.toInt}: {message}") (enter host)
  return own

def comeBack (own : Descriptor) : Operation Unit :=
  describing (fun message ↦ .namespaceRestore s!"while rejoining container IPC namespace: {message}")
    (enter own)

/-- A visit is going there, working, coming back and giving the result of the work. -/
theorem within_eq {pid : Int32} (h : 0 < pid) (work : Operation α) :
    within pid work = (do
      let own ← arrive pid
      let result ← ExceptT.lift work.run
      comeBack own
      Operation.ofResult result) := by
  have hnot : ¬pid ≤ 0 := Int32.not_le.mpr h
  simp only [within, hnot, if_false, arrive, bind_assoc, pure_bind]
  rfl

variable {machine : Machine Kernel σ} {state after : σ}

theorem runs_openFile {path : String} {handle : Descriptor}
    (h : machine.answer (.openNamespace path) state = (.ok handle, after)) :
    Runs machine (openFile path).run state [⟨.openNamespace path, .ok handle⟩] (.returned (.ok handle)) after :=
  (Program.runs_ask h).bind_ok_quiet (Program.runs_pure machine handle after)

theorem runs_openFile_error {path : String} {cause : IoCause}
    (h : machine.answer (.openNamespace path) state = (.error cause, after)) :
    Runs machine (openFile path).run state [⟨.openNamespace path, .error cause⟩]
      (.returned (.error (openFailure path cause))) after :=
  (Program.runs_ask h).bind_ok_quiet (Program.runs_throw machine _ after)

/-- Joining a namespace, with a description of the failure. -/
theorem runs_describing_enter (describe : String → Failure) {handle : Descriptor} {answer : Except Errno Unit}
    (h : machine.answer (.joinIpc handle) state = (answer, after)) :
    Runs machine (describing describe (enter handle)).run state [⟨.joinIpc handle, answer⟩]
      (.returned (answer.mapError fun errno ↦ describe (joinFailure errno).message)) after := by
  cases answer with
  | ok joined =>
    have henter : Runs machine (enter handle).run state [⟨.joinIpc handle, .ok ()⟩] (.returned (.ok ())) after :=
      (Program.runs_ask h).bind_ok_quiet (Program.runs_pure machine () after)
    exact henter.bind _ ⟨rfl, rfl⟩
  | error errno =>
    have henter : Runs machine (enter handle).run state [⟨.joinIpc handle, .error errno⟩]
        (.returned (.error (joinFailure errno))) after :=
      (Program.runs_ask h).bind_ok_quiet (Program.runs_throw machine _ after)
    exact henter.bind _ ⟨rfl, rfl⟩

theorem runs_comeBack {own : Descriptor} {answer : Except Errno Unit}
    (h : machine.answer (.joinIpc own) state = (answer, after)) :
    Runs machine (comeBack own).run state [⟨.joinIpc own, answer⟩] (.returned (answer.mapError returnFailure))
      after :=
  runs_describing_enter _ h

variable (kernel : IpcKernel σ ν) (pid : Int32)

/-- How a thread gets from `start` into the namespace of a process, with a handle to come back with, or why it
stays where it is. -/
inductive Arrival (start : σ) : List (Event Kernel) → Except Failure Descriptor → σ → Prop
  | ownUnopened {cause : IoCause} {after : σ}
    (hown : kernel.machine.answer (.openNamespace ownFile) start = (.error cause, after))
    (hstays : (kernel.scene start).Stays (kernel.scene after)) :
    Arrival start [⟨.openNamespace ownFile, .error cause⟩] (.error (openFailure ownFile cause)) after
  | hostUnopened {own : Descriptor} {opened after : σ} {cause : IoCause}
    (hown : kernel.machine.answer (.openNamespace ownFile) start = (.ok own, opened))
    (hhost : kernel.machine.answer (.openNamespace (fileOf pid)) opened = (.error cause, after))
    (hstays : (kernel.scene start).Stays (kernel.scene after)) :
    Arrival start [⟨.openNamespace ownFile, .ok own⟩, ⟨.openNamespace (fileOf pid), .error cause⟩]
      (.error (openFailure (fileOf pid) cause)) after
  | refused {own host : Descriptor} {opened found after : σ} {errno : Errno}
    (hown : kernel.machine.answer (.openNamespace ownFile) start = (.ok own, opened))
    (hhost : kernel.machine.answer (.openNamespace (fileOf pid)) opened = (.ok host, found))
    (hjoin : kernel.machine.answer (.joinIpc host) found = (.error errno, after))
    (hstays : (kernel.scene start).Stays (kernel.scene after)) :
    Arrival start
      [⟨.openNamespace ownFile, .ok own⟩, ⟨.openNamespace (fileOf pid), .ok host⟩, ⟨.joinIpc host, .error errno⟩]
      (.error (entryFailure pid errno)) after
  | arrived {own host : Descriptor} {opened found after : σ}
    (hown : kernel.machine.answer (.openNamespace ownFile) start = (.ok own, opened))
    (hhost : kernel.machine.answer (.openNamespace (fileOf pid)) opened = (.ok host, found))
    (hjoin : kernel.machine.answer (.joinIpc host) found = (.ok (), after))
    (hothers : (kernel.scene start).KeepsOthers (kernel.scene after))
    (hthere : (kernel.scene after).member (kernel.scene after).running =
      (kernel.scene opened).ofFile (fileOf pid))
    (hway : (kernel.scene after).behind own =
      some ((kernel.scene start).member (kernel.scene start).running)) :
    Arrival start
      [⟨.openNamespace ownFile, .ok own⟩, ⟨.openNamespace (fileOf pid), .ok host⟩, ⟨.joinIpc host, .ok ()⟩]
      (.ok own) after

/-- Every attempt to go into a namespace ends in one of the ways of `Arrival`. -/
theorem arrives {pid : Int32} (h : 0 < pid) (start : σ) : ∃ events result after,
    Runs kernel.machine (arrive pid).run start events (.returned result) after ∧
      Arrival kernel pid start events result after := by
  rcases hown : kernel.machine.answer (.openNamespace ownFile) start with ⟨cause | own, opened⟩
  · exact ⟨_, _, _, (runs_openFile_error hown).bind_error _, .ownUnopened hown (kernel.stays_of_opened hown)⟩
  have hopened := kernel.stays_of_opened hown
  rcases hhost : kernel.machine.answer (.openNamespace (fileOf pid)) opened with ⟨cause | host, found⟩
  · exact ⟨_, _, _, (runs_openFile hown).bind_ok ((runs_openFile_error hhost).bind_error _),
      .hostUnopened hown hhost (hopened.trans (kernel.stays_of_opened hhost))⟩
  have hfound := hopened.trans (kernel.stays_of_opened hhost)
  rcases hjoin : kernel.machine.answer (.joinIpc host) found with ⟨errno | joined, after⟩
  · exact ⟨_, _, _, (runs_openFile hown).bind_ok ((runs_openFile hhost).bind_ok
      ((runs_describing_enter _ hjoin).bind_error _)),
      .refused hown hhost hjoin (hfound.trans (kernel.stays_of_refused hjoin))⟩
  have hothers := kernel.keepsOthers_of_joined hjoin
  have hhandle := kernel.behind_of_opened hhost
  rw [IpcScene.place, if_neg (fileOf_ne_ownFile h), hothers.2] at hhandle
  have hthere : (kernel.scene after).member (kernel.scene after).running =
      (kernel.scene opened).ofFile (fileOf pid) := by
    rw [hothers.1.running]
    exact Option.some.inj hhandle
  have hway := kernel.holds_of_answer hjoin (kernel.holds_of_answer hhost (kernel.behind_of_opened hown))
  rw [IpcScene.place, if_pos rfl] at hway
  exact ⟨_, _, _, (runs_openFile hown).bind_ok ((runs_openFile hhost).bind_ok
    ((runs_describing_enter _ hjoin).bind_ok (Program.runs_pure _ own after))),
    .arrived hown hhost hjoin (hfound.keepsOthers.trans hothers.1) hthere hway⟩

/-- Work is done by a thread that all the time is where it has come to. -/
structure Works (work : Operation α) (joined : σ) (events : List (Event Kernel))
    (outcome : Outcome (Except Failure α)) (worked : σ) : Prop where
  runs : Runs kernel.machine work.run joined events outcome worked
  inside : work.run.Throughout kernel.machine (fun now ↦ (kernel.scene joined).Stays (kernel.scene now)) joined

/-- What a thread does that visits the namespace of a process for a piece of work, and what comes of it. -/
inductive Visit (work : Operation α) (start : σ) : List (Event Kernel) → Outcome (Except Failure α) → σ → Prop
  | unarrived {arrival : List (Event Kernel)} {failure : Failure} {after : σ}
    (harrival : Arrival kernel pid start arrival (.error failure) after) :
    Visit work start arrival (.returned (.error failure)) after
  | panicked {arrival events : List (Event Kernel)} {own : Descriptor} {joined after : σ} {panic : Panic}
    (harrival : Arrival kernel pid start arrival (.ok own) joined)
    (hworks : Works kernel work joined events (.panicked panic) after) :
    Visit work start (arrival ++ events) (.panicked panic) after
  | stranded {arrival events : List (Event Kernel)} {own : Descriptor} {joined worked after : σ}
    {result : Except Failure α} {errno : Errno}
    (harrival : Arrival kernel pid start arrival (.ok own) joined)
    (hworks : Works kernel work joined events (.returned result) worked)
    (hback : kernel.machine.answer (.joinIpc own) worked = (.error errno, after)) :
    Visit work start (arrival ++ (events ++ [⟨.joinIpc own, .error errno⟩]))
      (.returned (.error (returnFailure errno))) after
  | returned {arrival events : List (Event Kernel)} {own : Descriptor} {joined worked after : σ}
    {result : Except Failure α}
    (harrival : Arrival kernel pid start arrival (.ok own) joined)
    (hworks : Works kernel work joined events (.returned result) worked)
    (hback : kernel.machine.answer (.joinIpc own) worked = (.ok (), after))
    (hstays : (kernel.scene start).Stays (kernel.scene after)) :
    Visit work start (arrival ++ (events ++ [⟨.joinIpc own, .ok ()⟩])) (.returned result) after

variable {kernel} {pid}

theorem Arrival.keepsOthers {start after : σ} {events : List (Event Kernel)} {result : Except Failure Descriptor}
    (h : Arrival kernel pid start events result after) :
    (kernel.scene start).KeepsOthers (kernel.scene after) := by
  cases h with
  | ownUnopened _ hstays | hostUnopened _ _ hstays | refused _ _ _ hstays => exact hstays.keepsOthers
  | arrived _ _ _ hothers _ _ => exact hothers

/-- Whoever has arrived holds a handle that leads back. -/
theorem Arrival.way_of_ok {start after : σ} {events : List (Event Kernel)} {own : Descriptor}
    (h : Arrival kernel pid start events (.ok own) after) : (kernel.scene after).behind own =
      some ((kernel.scene start).member (kernel.scene start).running) := by
  cases h with
  | arrived _ _ _ _ _ hway => exact hway

theorem Works.stays {work : Operation α} {joined worked : σ} {events : List (Event Kernel)}
    {outcome : Outcome (Except Failure α)} (h : Works kernel work joined events outcome worked) :
    (kernel.scene joined).Stays (kernel.scene worked) := by
  have hstays := h.inside.run
  rwa [h.runs.run_eq] at hstays

/-- A visit moves none but the visitor. -/
theorem Visit.keepsOthers {work : Operation α} {start after : σ} {events : List (Event Kernel)}
    {outcome : Outcome (Except Failure α)} (h : Visit kernel pid work start events outcome after) :
    (kernel.scene start).KeepsOthers (kernel.scene after) := by
  cases h with
  | unarrived harrival => exact harrival.keepsOthers
  | panicked harrival hworks => exact harrival.keepsOthers.trans hworks.stays.keepsOthers
  | stranded harrival hworks hback =>
    exact harrival.keepsOthers.trans (hworks.stays.trans (kernel.stays_of_refused hback)).keepsOthers
  | returned _ _ _ hstays => exact hstays.keepsOthers

/-- Every visit ends in one of the ways of `Visit`. -/
theorem runs_within (kernel : IpcKernel σ ν) {work : Operation α} (hpid : 0 < pid)
    (hwork : work.run.Avoids KernelCall.isAboutThreads) (start : σ) : ∃ events outcome after,
      Runs kernel.machine (within pid work).run start events outcome after ∧
        Visit kernel pid work start events outcome after := by
  rw [within_eq hpid]
  obtain ⟨arrival, result, joined, hruns, harrival⟩ := arrives kernel hpid start
  cases result with
  | error failure => exact ⟨_, _, _, hruns.bind_error _, .unarrived harrival⟩
  | ok own =>
  rcases hwhole : work.run.run kernel.machine joined with ⟨outcome, worked⟩
  have hworks : Works kernel work joined (work.run.trace kernel.machine joined) outcome worked :=
    ⟨⟨hwhole, rfl⟩, kernel.stays_throughout hwork joined⟩
  cases outcome with
  | panicked panic =>
    exact ⟨_, _, _, hruns.bind_ok (hworks.runs.lift_bind_panicked _), .panicked harrival hworks⟩
  | returned result =>
  have hworked := hworks.stays
  -- The handle for the way back outlives the work.
  have hway := kernel.holds_run work.run harrival.way_of_ok
  rw [hwhole] at hway
  rcases hback : kernel.machine.answer (.joinIpc own) worked with ⟨errno | joinedOwn, after⟩
  · have hfailure := (runs_comeBack hback).bind_error fun _ ↦ Operation.ofResult result
    exact ⟨_, _, _, hruns.bind_ok (hworks.runs.lift.bind_ok hfailure), .stranded harrival hworks hback⟩
  · have hreturn : Runs kernel.machine (do comeBack own; Operation.ofResult result : Operation α).run worked
        [⟨.joinIpc own, .ok ()⟩] (.returned result) after :=
      (runs_comeBack hback).bind_ok_quiet (Program.runs_ofResult kernel.machine result after)
    obtain ⟨hothers, hhandle⟩ := kernel.keepsOthers_of_joined hback
    have hvisit := (harrival.keepsOthers.trans hworked.keepsOthers).trans hothers
    have hhome : (kernel.scene after).member (kernel.scene start).running =
        (kernel.scene start).member (kernel.scene start).running := by
      rw [hway, hworked.running, harrival.keepsOthers.running] at hhandle
      exact (Option.some.inj hhandle).symm
    exact ⟨_, _, _, hruns.bind_ok (hworks.runs.lift.bind_ok hreturn),
      .returned harrival hworks hback (hvisit.stays hhome)⟩

end IpcNamespace

/-! ## On a thread of its own -/

namespace CryptDevice

open IpcNamespace

/-- Work that has to be done in the namespace of a process, if it is one. -/
def unlocking (pid : Int32) (work : Operation α) : Operation α :=
  if 0 < pid then onOwnThread (within pid work) else work

theorem perform_eq (args : CryptArgs) : args.perform = (do
    let program ← locate
    let name ← unlocking args.masterPid (openDevice program args.key args.loopDevice)
    return ⟨mappedPath name⟩) := by
  unfold CryptArgs.perform unlocking
  refine congrArg _ (funext fun program ↦ ?_)
  split <;> rfl

theorem openDevice_avoids (program : String) (key : List UInt8) (device : String) :
    (openDevice program key device).run.Avoids KernelCall.isAboutThreads := by
  refine ⟨rfl, fun name ↦ ⟨rfl, fun answer ↦ ?_⟩⟩
  rcases answer with (cause | cause) | result
  · trivial
  · trivial
  · change Program.Avoids _ (ExceptT.run (if result.status.isSuccess then _ else _))
    split <;> trivial

/-- What is reported of work on a thread of its own. -/
def reported : Outcome (Except Failure α) → Except Failure α
  | .returned result => result
  | .panicked _ => .error (.internal "unlock thread panicked")

variable (kernel : IpcKernel σ ν)

/-- What comes of work that has to be done in the namespace of a process, if it is one. -/
structure UnlockLaws (pid : Int32) (work : Operation α) (state : σ) : Prop where
  /-- Otherwise it is done where it is. -/
  inPlace : pid ≤ 0 → unlocking pid work = work ∧
    ∀ event ∈ work.run.trace kernel.machine state, event.call.isAboutThreads = false
  unspawned : 0 < pid → ∀ cause after, kernel.machine.answer .beginThread state = (.error cause, after) →
    Runs kernel.machine (unlocking pid work).run state [⟨.beginThread, .error cause⟩]
      (.returned (.error (.internal s!"cannot spawn unlock thread: {cause.message}"))) after
  /-- A thread that has not been before visits the namespace, and ends. -/
  visits : 0 < pid → ∀ begun, kernel.machine.answer .beginThread state = (.ok (), begun) →
    (kernel.scene begun).running = (kernel.scene state).threads ∧
    ∃ events outcome ended, Visit kernel pid work begun events outcome ended ∧
      Runs kernel.machine (unlocking pid work).run state
        (⟨.beginThread, .ok ()⟩ :: (events ++ [⟨.endThread, ()⟩])) (.returned (reported outcome))
        (kernel.machine.answer .endThread ended).2
  /-- Every thread that has been before is where it was, the one that asks for the work among them. -/
  unmoved : (kernel.scene state).Keeps (kernel.scene ((unlocking pid work).run.run kernel.machine state).2)

variable {kernel} {pid : Int32} {work : Operation α} {state : σ}

theorem runs_onOwnThread_unspawned {cause : IoCause} {after : σ} (work : Operation α)
    (h : kernel.machine.answer .beginThread state = (.error cause, after)) :
    Runs kernel.machine (onOwnThread work).run state [⟨.beginThread, .error cause⟩]
      (.returned (.error (.internal s!"cannot spawn unlock thread: {cause.message}"))) after :=
  (Program.runs_ask h).bind_ok_quiet ((Program.runs_throw kernel.machine _ after).bind_error _)

theorem runs_report (machine : Machine Kernel σ) (outcome : Outcome (Except Failure α)) (state : σ) :
    Runs machine (match outcome with
      | .panicked _ => throw (.internal "unlock thread panicked")
      | .returned result => Operation.ofResult result : Operation α).run state []
      (.returned (reported outcome)) state := by
  cases outcome with
  | returned result => exact Program.runs_ofResult machine result state
  | panicked panic => exact Program.runs_throw machine _ state

/-- The thread that was begun does the work and is ended, however the work ends. -/
theorem runs_onOwnThread {begun ended : σ} {events : List (Event Kernel)} {outcome : Outcome (Except Failure α)}
    (h : kernel.machine.answer .beginThread state = (.ok (), begun))
    (hwork : Runs kernel.machine work.run begun events outcome ended) :
    Runs kernel.machine (onOwnThread work).run state (⟨.beginThread, .ok ()⟩ :: (events ++ [⟨.endThread, ()⟩]))
      (.returned (reported outcome)) (kernel.machine.answer .endThread ended).2 := by
  have hend : kernel.machine.answer .endThread ended = ((), (kernel.machine.answer .endThread ended).2) := rfl
  exact (Program.runs_ask h).bind_ok ((Program.runs_pure kernel.machine () begun).bind_ok
    (hwork.attempt.lift.bind_ok ((Program.runs_ask hend).bind_ok_quiet (runs_report _ outcome _))))

theorem unlockLaws (pid : Int32) (hwork : work.run.Avoids KernelCall.isAboutThreads) (state : σ) :
    UnlockLaws kernel pid work state := by
  by_cases hpid : 0 < pid
  · have hunlocking : unlocking pid work = onOwnThread (within pid work) := if_pos hpid
    have hpositive : ¬pid ≤ 0 := Int32.not_le.mpr hpid
    constructor
    · exact fun h ↦ absurd h hpositive
    · intro _ cause after hbegin
      rw [hunlocking]
      exact runs_onOwnThread_unspawned _ hbegin
    · intro _ begun hbegin
      have hbegun := kernel.moves .beginThread state
      rw [hbegin] at hbegun
      obtain ⟨events, outcome, ended, hruns, hvisit⟩ := runs_within kernel hpid hwork begun
      rw [hunlocking]
      exact ⟨hbegun.2.1, events, outcome, ended, hvisit, runs_onOwnThread hbegin hruns⟩
    · rw [hunlocking]
      rcases hbegin : kernel.machine.answer .beginThread state with ⟨cause | started, begun⟩
      · have hbegun := kernel.moves .beginThread state
        rw [(runs_onOwnThread_unspawned _ hbegin).run_eq]
        rw [hbegin] at hbegun
        exact IpcScene.Stays.keeps hbegun
      · obtain ⟨events, outcome, ended, hruns, hvisit⟩ := runs_within kernel hpid hwork begun
        rw [(runs_onOwnThread hbegin hruns).run_eq]
        exact kernel.keeps_of_ended hbegin hvisit.keepsOthers
  · have hunlocking : unlocking pid work = work := if_neg hpid
    constructor
    · exact fun _ ↦ ⟨hunlocking, hwork.trace state⟩
    · exact fun h ↦ absurd h hpid
    · exact fun h ↦ absurd h hpid
    · rw [hunlocking]
      exact (kernel.stays_throughout hwork state).run.keeps

theorem runs_locate {program : String} {located : σ}
    (h : kernel.machine.answer (.locateProgram tool) state = (.ok program, located)) :
    Runs kernel.machine locate.run state [⟨.locateProgram tool, .ok program⟩] (.returned (.ok program)) located :=
  (Program.runs_ask h).bind_ok_quiet (Program.runs_pure kernel.machine program located)

theorem runs_perform (args : CryptArgs) {program : String} {located : σ}
    (h : kernel.machine.answer (.locateProgram tool) state = (.ok program, located)) :
    let work := unlocking args.masterPid (openDevice program args.key args.loopDevice)
    Runs kernel.machine args.perform.run state
      (⟨.locateProgram tool, .ok program⟩ :: work.run.trace kernel.machine located)
      ((work.run.run kernel.machine located).1.map (·.map fun name ↦ ⟨mappedPath name⟩))
      (work.run.run kernel.machine located).2 := by
  intro work
  rw [perform_eq]
  exact (runs_locate h).bind_ok ((Program.runs_self kernel.machine work.run located).map_value
    fun name ↦ CryptReply.mk (mappedPath name))

end CryptDevice

open CryptDevice

/-- What a request to open an encrypted device comes to, once the tool is found. -/
structure DecryptLaws (kernel : IpcKernel σ ν) (args : CryptArgs) (program : String) (state located : σ) :
    Prop where
  /-- The tool is run as the laws of its work say. -/
  tool : UnlockLaws kernel args.masterPid (openDevice program args.key args.loopDevice) located
  /-- Nothing is done besides, and the reply is the path of the device. -/
  course :
    let work := unlocking args.masterPid (openDevice program args.key args.loopDevice)
    Runs kernel.machine args.perform.run state
      (⟨.locateProgram CryptDevice.tool, .ok program⟩ :: work.run.trace kernel.machine located)
      ((work.run.run kernel.machine located).1.map (·.map fun name ↦ ⟨mappedPath name⟩))
      (work.run.run kernel.machine located).2
  unmoved : (kernel.scene state).Keeps (kernel.scene (args.perform.run.run kernel.machine state).2)

/-- What a request to open an encrypted device comes to, and what it would come to with any other work. -/
theorem CryptArgs.decrypt_laws (kernel : IpcKernel σ ν) (args : CryptArgs) {program : String} {state located : σ}
    (hlocate : kernel.machine.answer (.locateProgram CryptDevice.tool) state = (.ok program, located)) :
    DecryptLaws kernel args program state located ∧ ∀ (β : Type) (work : Operation β),
      work.run.Avoids KernelCall.isAboutThreads → UnlockLaws kernel args.masterPid work located := by
  have htool : UnlockLaws kernel args.masterPid (openDevice program args.key args.loopDevice) located :=
    unlockLaws args.masterPid (openDevice_avoids program args.key args.loopDevice) located
  have hstays := kernel.moves (.locateProgram CryptDevice.tool) state
  rw [hlocate] at hstays
  have hcourse := runs_perform args hlocate
  refine ⟨⟨htool, hcourse, ?_⟩, fun β work hwork ↦ unlockLaws args.masterPid hwork located⟩
  rw [hcourse.run_eq]
  exact htool.unmoved.of_stays hstays

theorem CryptArgs.decrypt_laws_visiting :
    IpcRoom.kernel.machine.answer (.locateProgram CryptDevice.tool) IpcRoom.start =
        (.ok "/usr/sbin/cryptsetup", IpcRoom.start) ∧
      DecryptLaws IpcRoom.kernel ⟨[1, 2, 3], "/dev/loop0", 1⟩ "/usr/sbin/cryptsetup" IpcRoom.start IpcRoom.start ∧
      ∀ (β : Type) (work : Operation β), work.run.Avoids KernelCall.isAboutThreads →
        UnlockLaws IpcRoom.kernel 1 work IpcRoom.start :=
  ⟨rfl, CryptArgs.decrypt_laws IpcRoom.kernel ⟨[1, 2, 3], "/dev/loop0", 1⟩ rfl⟩

end ContainerConstruction
