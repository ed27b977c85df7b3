import ContainerConstruction.Proofs.Server.Identity

/-!
# Kernels with root directories

`KernelCall.Places` is all that is assumed of a kernel: what the calls that a root switch makes do to the root
and the working directory of the thread that makes them.  `RootRoom.kernel` shows that there is such a kernel.

A place is a directory of a mount.  What is mounted onto another place is not that place, even if one path leads
to both.
-/

namespace ContainerConstruction

variable {σ δ μ : Type}

/-- What a thread has to do with the mounts. -/
structure RootScene (δ μ : Type) where
  root : δ
  /-- The working directory. -/
  directory : δ
  /-- The place that a descriptor is open at. -/
  held : Descriptor → Option δ
  mounts : μ

namespace RootScene

/-- Nothing is changed but the mounts. -/
structure Stays (before after : RootScene δ μ) : Prop where
  root : after.root = before.root
  directory : after.directory = before.directory
  held : after.held = before.held

/-- A place that is not the root becomes the root.  Whoever was at the old one is put there too. -/
structure Pivots (place : δ) (before after : RootScene δ μ) : Prop where
  other : place ≠ before.root
  root : after.root = place
  stays : before.directory ≠ before.root → after.directory = before.directory
  follows : before.directory = before.root → after.directory = place
  held : after.held = before.held

/-- A thread is at its old root while another place has become its root. -/
structure Behind (start : RootScene δ μ) (place : δ) (now : RootScene δ μ) : Prop where
  directory : now.directory = start.root
  root : now.root = place
  other : place ≠ start.root

theorem Behind.of_stays {start now after : RootScene δ μ} {place : δ} (h : start.Behind place now)
    (hstays : now.Stays after) : start.Behind place after :=
  ⟨hstays.directory.trans h.directory, hstays.root.trans h.root, h.other⟩

/-- A thread is at the top of a place. -/
structure AtTop (place : δ) (now : RootScene δ μ) : Prop where
  root : now.root = place
  directory : now.directory = place

end RootScene

/-- What a call does to a thread that sees paths lead to places. -/
def KernelCall.Places (leadsTo : String → δ) (before after : RootScene δ μ) :
    (call : KernelCall) → call.Answer → Prop
  | .changeDirectory path, .ok () => after = { before with directory := leadsTo path }
  | .changeDirectoryTo handle, .ok () => before.held handle = some after.directory ∧
    after = { before with directory := after.directory }
  | .changeRoot path, .ok () => after = { before with root := leadsTo path }
  | .pivotRoot newRoot _, .ok () => before.Pivots (leadsTo newRoot) after
  | .openDirectory path, .ok handle => after.held handle = some (leadsTo path) ∧
    after = { before with held := after.held }
  | .mount .., .ok () | .detachMount _, .ok () => before.Stays after
  | .changeDirectory _, .error _ | .changeDirectoryTo _, .error _ | .changeRoot _, .error _
  | .pivotRoot .., .error _ | .openDirectory _, .error _ | .mount .., .error _ | .detachMount _, .error _
  | .workingDirectory, _ => after = before
  | _, _ => True

/-- A kernel on which calls do to a thread what `KernelCall.Places` says. -/
structure RootKernel (σ δ μ : Type) where
  machine : Machine Kernel σ
  scene : σ → RootScene δ μ
  /-- Where a path leads the thread, if it leads anywhere. -/
  leadsTo : σ → String → δ
  leadsTo_root : ∀ state, leadsTo state "/" = (scene state).root
  leadsTo_here : ∀ state, leadsTo state "." = (scene state).directory
  places : ∀ (call : KernelCall) (state : σ),
    call.Places (leadsTo state) (scene state) (scene (machine.answer call state).2)
      (machine.answer call state).1

theorem RootKernel.places_of_answer (kernel : RootKernel σ δ μ) {call : KernelCall} {answer : call.Answer}
    {state after : σ} (h : kernel.machine.answer call state = (answer, after)) :
    call.Places (kernel.leadsTo state) (kernel.scene state) (kernel.scene after) answer := by
  have hplaces := kernel.places call state
  rwa [h] at hplaces

/-! ## An example of a kernel -/

/-- A thread among places that are known by their paths, with the mounts that were asked for and the next handle
that is free. -/
structure RootRoom where
  scene : RootScene String (List KernelCall)
  next : Nat

namespace RootRoom

def leadsTo (room : RootRoom) (path : String) : String :=
  if path = "/" then room.scene.root else if path = "." then room.scene.directory else path

def enter (place : String) (room : RootRoom) : RootRoom :=
  { room with scene := { room.scene with directory := place } }

def withRoot (place : String) (room : RootRoom) : RootRoom :=
  { room with scene := { room.scene with root := place } }

def record (call : KernelCall) (room : RootRoom) : RootRoom :=
  { room with scene := { room.scene with mounts := room.scene.mounts ++ [call] } }

def openAt (place : String) (room : RootRoom) : RootRoom where
  scene :=
    { room.scene with held := fun handle ↦ if handle = ⟨room.next⟩ then some place else room.scene.held handle }
  next := room.next + 1

/-- Nothing is refused that a root switch asks for, but a root that is the root already. -/
def answer (call : KernelCall) (room : RootRoom) : call.Answer × RootRoom :=
  match call with
  | .workingDirectory => (some room.scene.directory, room)
  | .changeDirectory path => (.ok (), room.enter (room.leadsTo path))
  | .changeDirectoryTo handle =>
    match room.scene.held handle with
    | none => (.error .badDescriptor, room)
    | some place => (.ok (), room.enter place)
  | .changeRoot path => (.ok (), room.withRoot (room.leadsTo path))
  | .pivotRoot newRoot oldRoot =>
    let place := room.leadsTo newRoot
    if place = room.scene.root then (.error .busy, room)
    else
      let directory := if room.scene.directory = room.scene.root then place else room.scene.directory
      (.ok (), ((room.withRoot place).enter directory).record (.pivotRoot newRoot oldRoot))
  | .openDirectory path => (.ok ⟨room.next⟩, room.openAt (room.leadsTo path))
  | .mount source target filesystem flags data =>
    (.ok (), room.record (.mount source target filesystem flags data))
  | .detachMount target => (.ok (), room.record (.detachMount target))
  | call => (call.refused, room)

def kernel : RootKernel RootRoom String (List KernelCall) where
  machine := ⟨answer⟩
  scene := RootRoom.scene
  leadsTo := leadsTo
  leadsTo_root _ := if_pos rfl
  leadsTo_here _ := rfl
  places call room := by
    cases call with
    | changeDirectoryTo handle =>
      cases hheld : room.scene.held handle with
      | none =>
        simp only [answer, hheld]
        rfl
      | some place =>
        simp only [answer, hheld]
        exact ⟨hheld, rfl⟩
    | pivotRoot newRoot oldRoot =>
      by_cases hsame : room.leadsTo newRoot = room.scene.root
      · simp only [answer, hsame, if_true]
        rfl
      · simp only [answer, hsame, if_false]
        exact ⟨hsame, rfl, fun hother ↦ if_neg hother, fun hthere ↦ if_pos hthere, rfl⟩
    | openDirectory path => exact ⟨if_pos rfl, rfl⟩
    | mount source target filesystem flags data => exact ⟨rfl, rfl, rfl⟩
    | detachMount target => exact ⟨rfl, rfl, rfl⟩
    | workingDirectory | changeDirectory path | changeRoot path => rfl
    | _ => trivial

def start : RootRoom := ⟨⟨"/", "/home", fun _ ↦ none, []⟩, 0⟩

end RootRoom

end ContainerConstruction
