import ContainerConstruction.Operation.CryptDevice
import ContainerConstruction.Proofs.Server.Identity

/-!
# Kernels with threads and IPC namespaces

`KernelCall.Moves` is all that is assumed of a kernel: a thread is moved by its own calls only, and a refused
call moves nobody.  `IpcRoom.kernel` shows that there is such a kernel.
-/

namespace ContainerConstruction

variable {σ ν α : Type}

/-! ## Programs that leave calls alone -/

namespace Program

variable {I : Interface}

/-- A program makes no call of some kind, whatever is answered. -/
def Avoids (forbidden : I.Call → Bool) : Program I α → Prop
  | .done _ => True
  | .panics _ => True
  | .call question next => forbidden question = false ∧ ∀ answer, (next answer).Avoids forbidden

/-- Something is true of every state that a run goes through. -/
def Throughout (machine : Machine I σ) (good : σ → Prop) : Program I α → σ → Prop
  | .done _, state => good state
  | .panics _, state => good state
  | .call question next, state => good state ∧
    (next (machine.answer question state).1).Throughout machine good (machine.answer question state).2

variable {machine : Machine I σ} {forbidden : I.Call → Bool} {program : Program I α} {state : σ}

theorem Avoids.trace (h : program.Avoids forbidden) (state : σ) :
    ∀ event ∈ program.trace machine state, forbidden event.call = false := by
  induction program generalizing state with
  | done value => nofun
  | panics panic => nofun
  | call question next ih =>
    intro event hevent
    obtain rfl | hrest := List.mem_cons.mp hevent
    · exact h.1
    · exact ih _ (h.2 _) _ event hrest

/-- What the other calls preserve is true throughout. -/
theorem Avoids.throughout {good : σ → Prop} (h : program.Avoids forbidden)
    (hstep : ∀ call state, forbidden call = false → good state → good (machine.answer call state).2)
    (hgood : good state) : program.Throughout machine good state := by
  induction program generalizing state with
  | done value => exact hgood
  | panics panic => exact hgood
  | call question next ih => exact ⟨hgood, ih _ (h.2 _) (hstep question state h.1 hgood)⟩

theorem Throughout.run {good : σ → Prop} (h : program.Throughout machine good state) :
    good (program.run machine state).2 := by
  induction program generalizing state with
  | done value => exact h
  | panics panic => exact h
  | call question next ih => exact ih _ h.2

end Program

/-! ## Files -/

namespace IpcNamespace

/-- The file that stands for the namespace of the thread itself. -/
def ownFile : String := "/proc/thread-self/ns/ipc"

def fileOf (pid : Int32) : String := s!"/proc/{pid.toInt}/ns/ipc"

/-- No process has its namespace under the path of the thread's own one. -/
theorem fileOf_ne_ownFile {pid : Int32} (h : 0 < pid) : fileOf pid ≠ ownFile := by
  obtain ⟨number, hnumber⟩ := Int.eq_ofNat_of_zero_le (Int32.le_iff_toInt_le.mp (Int32.le_of_lt h))
  have hfile : (fileOf pid).toList = "/proc/".toList ++ (Nat.toDigits 10 number ++ "/ns/ipc".toList) := by
    have hdigits : (toString pid.toInt).toList = Nat.toDigits 10 number := by
      rw [hnumber]
      exact Nat.toList_repr
    rw [← hdigits, ← String.toList_append, ← String.toList_append, ← String.append_assoc]
    rfl
  intro hsame
  rw [hsame] at hfile
  cases hdigits : Nat.toDigits 10 number with
  | nil =>
    rw [hdigits] at hfile
    exact absurd hfile (by decide)
  | cons digit rest =>
    rw [hdigits] at hfile
    have hdigit : digit.isDigit :=
      Nat.isDigit_of_mem_toDigits (by decide) (by decide) (hdigits ▸ List.mem_cons_self)
    have hletter : 't' = digit := Option.some.inj (congrArg (fun text ↦ text[6]?) hfile)
    rw [← hletter] at hdigit
    exact absurd hdigit (by decide)

end IpcNamespace

/-! ## Kernels -/

/-- The threads of the runtime and the namespaces they are in. -/
structure IpcScene (ν : Type) where
  /-- How many threads there have been.  A thread is known by the number of those before it. -/
  threads : Nat
  /-- The thread that makes the calls. -/
  running : Nat
  /-- The threads that wait for one they have begun. -/
  waiting : List Nat
  /-- The namespace of a thread. -/
  member : Nat → ν
  /-- The namespace behind a handle, if it is open. -/
  behind : Descriptor → Option ν
  /-- The namespace of the process that a file stands for. -/
  ofFile : String → ν
  running_lt : running < threads
  waiting_lt : ∀ thread ∈ waiting, thread < threads

namespace IpcScene

/-- The namespace that a file stands for. -/
def place (path : String) (scene : IpcScene ν) : ν :=
  if path = IpcNamespace.ownFile then scene.member scene.running else scene.ofFile path

/-- No thread is begun, ended or moved. -/
structure Stays (before after : IpcScene ν) : Prop where
  threads : after.threads = before.threads
  running : after.running = before.running
  waiting : after.waiting = before.waiting
  member : after.member = before.member

/-- The same thread goes on, and none that has been is moved. -/
structure Keeps (before after : IpcScene ν) : Prop where
  running : after.running = before.running
  member : ∀ thread < before.threads, after.member thread = before.member thread

/-- No thread is begun or ended, and none but the running one is moved. -/
structure KeepsOthers (before after : IpcScene ν) : Prop where
  threads : after.threads = before.threads
  running : after.running = before.running
  waiting : after.waiting = before.waiting
  member : ∀ thread, thread ≠ before.running → after.member thread = before.member thread

variable {first second third : IpcScene ν}

theorem Stays.refl (scene : IpcScene ν) : scene.Stays scene := ⟨rfl, rfl, rfl, rfl⟩

theorem Stays.trans (h : first.Stays second) (hnext : second.Stays third) : first.Stays third :=
  ⟨hnext.threads.trans h.threads, hnext.running.trans h.running, hnext.waiting.trans h.waiting,
    hnext.member.trans h.member⟩

theorem Stays.keeps (h : first.Stays second) : first.Keeps second :=
  ⟨h.running, fun thread _ ↦ congrFun h.member thread⟩

theorem Keeps.of_stays (h : first.Stays second) (hnext : second.Keeps third) : first.Keeps third where
  running := hnext.running.trans h.running
  member thread hthread := (hnext.member thread (h.threads ▸ hthread)).trans (congrFun h.member thread)

theorem Stays.keepsOthers (h : first.Stays second) : first.KeepsOthers second :=
  ⟨h.threads, h.running, h.waiting, fun thread _ ↦ congrFun h.member thread⟩

theorem KeepsOthers.trans (h : first.KeepsOthers second) (hnext : second.KeepsOthers third) :
    first.KeepsOthers third where
  threads := hnext.threads.trans h.threads
  running := hnext.running.trans h.running
  waiting := hnext.waiting.trans h.waiting
  member thread hthread := (hnext.member thread (h.running ▸ hthread)).trans (h.member thread hthread)

theorem KeepsOthers.stays (h : first.KeepsOthers second)
    (hrunning : second.member first.running = first.member first.running) : first.Stays second where
  threads := h.threads
  running := h.running
  waiting := h.waiting
  member := by
    funext thread
    by_cases hthread : thread = first.running
    · rw [hthread, hrunning]
    · exact h.member thread hthread

end IpcScene

namespace KernelCall

/-- Whether a call begins or ends a thread, or is about its namespaces. -/
def isAboutThreads : KernelCall → Bool
  | .unshare _ | .openNamespace _ | .joinIpc _ | .beginThread | .endThread => true
  | _ => false

/-- What a call does to the threads. -/
def Moves (before after : IpcScene ν) : (call : KernelCall) → call.Answer → Prop
  | .beginThread, .ok () => after.threads = before.threads + 1 ∧ after.running = before.threads ∧
    after.waiting = before.running :: before.waiting ∧
    ∀ thread, after.member thread =
      if thread = before.threads then before.member before.running else before.member thread
  | .endThread, () => after.threads = before.threads ∧ after.member = before.member ∧
    ∀ thread rest, before.waiting = thread :: rest → after.running = thread ∧ after.waiting = rest
  | .joinIpc handle, .ok () => before.KeepsOthers after ∧
    before.behind handle = some (after.member before.running)
  | .openNamespace path, .ok handle => before.Stays after ∧ after.behind handle = some (before.place path)
  | .unshare _, _ => before.KeepsOthers after
  | _, _ => before.Stays after

/-- A call that is not about threads moves none. -/
theorem Moves.stays {call : KernelCall} {answer : call.Answer} {before after : IpcScene ν}
    (h : call.Moves before after answer) (hcall : call.isAboutThreads = false) : before.Stays after := by
  cases call <;> first | exact h | cases hcall

end KernelCall

/-- A kernel on which threads are moved as `KernelCall.Moves` says, and on which an open handle stays open. -/
structure IpcKernel (σ ν : Type) where
  machine : Machine Kernel σ
  scene : σ → IpcScene ν
  moves : ∀ (call : KernelCall) (state : σ),
    call.Moves (scene state) (scene (machine.answer call state).2) (machine.answer call state).1
  holds : ∀ (call : KernelCall) (state : σ) handle destination,
    (scene state).behind handle = some destination →
      (scene (machine.answer call state).2).behind handle = some destination

namespace IpcKernel

variable {kernel : IpcKernel σ ν} {state after : σ}

theorem stays_of_opened {path : String} {answer : Except IoCause Descriptor}
    (h : kernel.machine.answer (.openNamespace path) state = (answer, after)) :
    (kernel.scene state).Stays (kernel.scene after) := by
  have hmoves := kernel.moves (.openNamespace path) state
  rw [h] at hmoves
  cases answer with
  | error cause => exact hmoves
  | ok handle => exact hmoves.1

/-- A handle leads to the namespace that its file stands for. -/
theorem behind_of_opened {path : String} {handle : Descriptor}
    (h : kernel.machine.answer (.openNamespace path) state = (.ok handle, after)) :
    (kernel.scene after).behind handle = some ((kernel.scene state).place path) := by
  have hmoves := kernel.moves (.openNamespace path) state
  rw [h] at hmoves
  exact hmoves.2

theorem stays_of_refused {handle : Descriptor} {errno : Errno}
    (h : kernel.machine.answer (.joinIpc handle) state = (.error errno, after)) :
    (kernel.scene state).Stays (kernel.scene after) := by
  have hmoves := kernel.moves (.joinIpc handle) state
  rw [h] at hmoves
  exact hmoves

/-- Joining moves the running thread to where the handle leads, and no other one. -/
theorem keepsOthers_of_joined {handle : Descriptor}
    (h : kernel.machine.answer (.joinIpc handle) state = (.ok (), after)) :
    (kernel.scene state).KeepsOthers (kernel.scene after) ∧ (kernel.scene state).behind handle =
      some ((kernel.scene after).member (kernel.scene state).running) := by
  have hmoves := kernel.moves (.joinIpc handle) state
  rw [h] at hmoves
  exact hmoves

/-- No call makes a handle lead elsewhere. -/
theorem holds_of_answer {call : KernelCall} {answer : call.Answer} {handle : Descriptor} {destination : ν}
    (h : kernel.machine.answer call state = (answer, after))
    (hbehind : (kernel.scene state).behind handle = some destination) :
    (kernel.scene after).behind handle = some destination := by
  have hholds := kernel.holds call state handle destination hbehind
  rwa [h] at hholds

/-- A handle leads to the same namespace for the whole of a run. -/
theorem holds_run {handle : Descriptor} {destination : ν} (work : Program Kernel α)
    (hbehind : (kernel.scene state).behind handle = some destination) :
    (kernel.scene (work.run kernel.machine state).2).behind handle = some destination := by
  induction work generalizing state with
  | done value => exact hbehind
  | panics panic => exact hbehind
  | call question next ih => exact ih _ (kernel.holds question state handle destination hbehind)

/-- Other calls move nobody. -/
theorem stays_throughout {work : Program Kernel α} (hwork : work.Avoids KernelCall.isAboutThreads) (state : σ) :
    work.Throughout kernel.machine (fun now ↦ (kernel.scene state).Stays (kernel.scene now)) state :=
  hwork.throughout (fun call now hcall hstays ↦ hstays.trans ((kernel.moves call now).stays hcall)) (.refl _)

/-- Whatever a thread does that was begun and has ended, none that was before is moved, if it has moved nobody
else. -/
theorem keeps_of_ended {begun ended : σ} (hbegin : kernel.machine.answer .beginThread state = (.ok (), begun))
    (hothers : (kernel.scene begun).KeepsOthers (kernel.scene ended)) :
    (kernel.scene state).Keeps (kernel.scene (kernel.machine.answer .endThread ended).2) := by
  have hbegun := kernel.moves .beginThread state
  rw [hbegin] at hbegun
  obtain ⟨-, hrunning, hwaiting, hmember⟩ := hbegun
  obtain ⟨-, hended, hback⟩ := kernel.moves .endThread ended
  refine ⟨(hback _ _ (hothers.waiting.trans hwaiting)).1, fun thread hthread ↦ ?_⟩
  have hother : thread ≠ (kernel.scene state).threads := Nat.ne_of_lt hthread
  rw [hended, hothers.member thread (hrunning ▸ hother), hmember, if_neg hother]

end IpcKernel

/-! ## An example of a kernel -/

namespace IpcScene

/-- Begins a thread in the namespace of the running one. -/
def begin (scene : IpcScene ν) : IpcScene ν where
  threads := scene.threads + 1
  running := scene.threads
  waiting := scene.running :: scene.waiting
  member thread := if thread = scene.threads then scene.member scene.running else scene.member thread
  behind := scene.behind
  ofFile := scene.ofFile
  running_lt := Nat.lt_succ_self _
  waiting_lt thread hthread := by
    obtain rfl | hrest := List.mem_cons.mp hthread
    · exact Nat.lt_succ_of_lt scene.running_lt
    · exact Nat.lt_succ_of_lt (scene.waiting_lt thread hrest)

/-- Ends the running thread, if another one waits for it. -/
def finish (scene : IpcScene ν) : IpcScene ν :=
  match hwaiting : scene.waiting with
  | [] => scene
  | thread :: rest =>
    { scene with
      running := thread
      waiting := rest
      running_lt := scene.waiting_lt thread (hwaiting ▸ List.mem_cons_self)
      waiting_lt := fun other hother ↦ scene.waiting_lt other (hwaiting ▸ List.mem_cons_of_mem _ hother) }

theorem finish_keeps (scene : IpcScene ν) : scene.finish.threads = scene.threads ∧
    scene.finish.member = scene.member ∧ scene.finish.behind = scene.behind := by
  unfold finish
  split <;> exact ⟨rfl, rfl, rfl⟩

theorem finish_of_waiting {scene : IpcScene ν} {thread : Nat} {rest : List Nat}
    (h : scene.waiting = thread :: rest) : scene.finish.running = thread ∧ scene.finish.waiting = rest := by
  unfold finish
  split
  next hnone =>
    rw [hnone] at h
    cases h
  next hsome =>
    rw [hsome] at h
    cases h
    exact ⟨rfl, rfl⟩

def join (place : ν) (scene : IpcScene ν) : IpcScene ν :=
  { scene with member := fun thread ↦ if thread = scene.running then place else scene.member thread }

def hold (handle : Descriptor) (place : ν) (scene : IpcScene ν) : IpcScene ν :=
  { scene with behind := fun other ↦ if other = handle then some place else scene.behind other }

end IpcScene

/-- Threads with their namespaces and handles, and the next handle that is free. -/
structure IpcRoom where
  scene : IpcScene Nat
  next : Nat
  free : ∀ handle, next ≤ handle.number → scene.behind handle = none

namespace IpcRoom

def openFile (path : String) (room : IpcRoom) : IpcRoom where
  scene := room.scene.hold ⟨room.next⟩ (room.scene.place path)
  next := room.next + 1
  free handle hhandle := by
    have hother : handle ≠ ⟨room.next⟩ := fun h ↦ Nat.lt_irrefl _ (h ▸ hhandle)
    exact (if_neg hother).trans (room.free handle (Nat.le_of_succ_le hhandle))

/-- No thread is refused the namespace of a process, and every tool succeeds. -/
def answer (call : KernelCall) (room : IpcRoom) : call.Answer × IpcRoom :=
  match call with
  | .beginThread => (.ok (), { room with scene := room.scene.begin })
  | .endThread => ((), ⟨room.scene.finish, room.next, room.scene.finish_keeps.2.2 ▸ room.free⟩)
  | .openNamespace path => (.ok ⟨room.next⟩, room.openFile path)
  | .joinIpc handle =>
    match room.scene.behind handle with
    | none => (.error .badDescriptor, room)
    | some place => (.ok (), { room with scene := room.scene.join place })
  | .locateProgram name => (.ok s!"/usr/sbin/{name}", room)
  | .runTool .. => (.ok ⟨.exited 0, []⟩, room)
  | call => (call.refused, room)

def kernel : IpcKernel IpcRoom Nat where
  machine := ⟨answer⟩
  scene := IpcRoom.scene
  moves call room := by
    cases call with
    | beginThread => exact ⟨rfl, rfl, rfl, fun _ ↦ rfl⟩
    | endThread =>
      obtain ⟨hthreads, hmember, -⟩ := room.scene.finish_keeps
      exact ⟨hthreads, hmember, fun thread rest hwaiting ↦ IpcScene.finish_of_waiting hwaiting⟩
    | openNamespace path => exact ⟨⟨rfl, rfl, rfl, rfl⟩, if_pos rfl⟩
    | joinIpc handle =>
      cases hbehind : room.scene.behind handle with
      | none =>
        simp only [answer, hbehind]
        exact .refl _
      | some place =>
        simp only [answer, hbehind]
        exact ⟨⟨rfl, rfl, rfl, fun thread hthread ↦ if_neg hthread⟩,
          hbehind.trans (congrArg some (if_pos rfl).symm)⟩
    | unshare flags => exact (IpcScene.Stays.refl _).keepsOthers
    | _ => exact .refl _
  holds call room handle destination h := by
    cases call with
    | endThread => exact (congrFun room.scene.finish_keeps.2.2 handle).trans h
    | openNamespace path =>
      have hother : handle ≠ ⟨room.next⟩ := fun hnext ↦ by
        rw [room.free handle (hnext ▸ Nat.le_refl _)] at h
        cases h
      exact (if_neg hother).trans h
    | joinIpc other =>
      cases hbehind : room.scene.behind other with
      | none =>
        simp only [answer, hbehind]
        exact h
      | some place =>
        simp only [answer, hbehind]
        exact h
    | _ => exact h

/-- Two threads in a namespace of their own, of which the first one makes the calls. -/
def start : IpcRoom := ⟨⟨2, 0, [], fun _ ↦ 1, fun _ ↦ none, fun _ ↦ 0, by decide, nofun⟩, 0, fun _ _ ↦ rfl⟩

end IpcRoom

end ContainerConstruction
