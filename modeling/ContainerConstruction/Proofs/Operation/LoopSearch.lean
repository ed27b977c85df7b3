import ContainerConstruction.Proofs.Operation.Bracket
import ContainerConstruction.Proofs.Operation.Membership
import ContainerConstruction.Proofs.Server.Identity

/-!
# A search for a loop device that finds none

A search visits the devices in the order of their numbers.  A visit makes sure of the node, opens it and tries
to bind the image; it passes the device over if that is absent or busy, and stops the search for every other
reason.  So a search that attaches nothing has passed over all devices that may be tried, or it was stopped at
the first one that could not be passed over and has touched none behind it.

Under the bracket of a request the failure is the same, if the earlier identity can be taken back.
-/

namespace ContainerConstruction

open Program (Runs Yields yields_call yields_done yields_ite)

namespace LoopDevice

/-! ## Visits -/

/-- The calls after which the node of a device is there. -/
inductive NodeReady (index : Nat) : List (Event Kernel) → Prop
  | found : NodeReady index [⟨.pathExists (path index), true⟩]
  | made : NodeReady index [⟨.pathExists (path index), false⟩,
      ⟨.makeBlockNode (path index) 0o660 major (UInt64.ofNat index), .ok ()⟩]
  /-- Someone else has made the node meanwhile. -/
  | madeMeanwhile : NodeReady index [⟨.pathExists (path index), false⟩,
      ⟨.makeBlockNode (path index) 0o660 major (UInt64.ofNat index), .error .fileExists⟩]

/-- The calls of a visit that attaches nothing, and the failure it stops the search with, if any. -/
inductive Visited (image : Descriptor) (writable : Bool) (index : Nat) :
    List (Event Kernel) → Option Failure → Prop
  | nodeless (errno : Errno) (herrno : errno ≠ .fileExists) :
    Visited image writable index [⟨.pathExists (path index), false⟩,
      ⟨.makeBlockNode (path index) 0o660 major (UInt64.ofNat index), .error errno⟩]
      (some (.device s!"cannot create {path index}: {errno.namedText}"))
  | absent (node : List (Event Kernel)) (hnode : NodeReady index node) :
    Visited image writable index
      (node ++ [⟨.openDevice (path index) writable, .error (.errno .noDeviceAddress)⟩]) none
  | closed (node : List (Event Kernel)) (cause : IoCause) (hnode : NodeReady index node)
    (hcause : cause ≠ .errno .noDeviceAddress) :
    Visited image writable index (node ++ [⟨.openDevice (path index) writable, .error cause⟩])
      (some (.device s!"cannot open {path index}: {cause.message}"))
  | busy (node : List (Event Kernel)) (device : Descriptor) (hnode : NodeReady index node) :
    Visited image writable index (node ++ [⟨.openDevice (path index) writable, .ok device⟩,
      ⟨.bindLoop device image, .error .busy⟩]) none
  | unbound (node : List (Event Kernel)) (device : Descriptor) (errno : Errno) (hnode : NodeReady index node)
    (herrno : errno ≠ .busy) :
    Visited image writable index (node ++ [⟨.openDevice (path index) writable, .ok device⟩,
      ⟨.bindLoop device image, .error errno⟩])
      (some (.device s!"LOOP_SET_FD on {path index} failed: {errno.namedText}"))

variable {image : Descriptor} {writable : Bool} {index : Nat}

/-- A search is stopped with a failure that names the device. -/
theorem Visited.names {events : List (Event Kernel)} {failure : Failure}
    (h : Visited image writable index events (some failure)) :
    ∃ before after, failure = .device (before ++ path index ++ after) := by
  cases h with
  | nodeless errno =>
    refine ⟨"cannot create ", ": " ++ errno.namedText, ?_⟩
    simp only [String.append_assoc]
    rfl
  | closed node cause =>
    refine ⟨"cannot open ", ": " ++ cause.message, ?_⟩
    simp only [String.append_assoc]
    rfl
  | unbound node device errno =>
    refine ⟨"LOOP_SET_FD on ", " failed: " ++ errno.namedText, ?_⟩
    simp only [String.append_assoc]
    rfl

/-- A call that makes the node of a device. -/
def nodeCall (index : Nat) : KernelCall := .makeBlockNode (path index) 0o660 major (UInt64.ofNat index)

/-- Whether a call makes a node. -/
def makesNode : KernelCall → Bool
  | .makeBlockNode .. => true
  | _ => false

/-- Only the node of the device itself is made, and only if it is missing. -/
def OwnNode (index : Nat) (events : List (Event Kernel)) : Prop :=
  ∀ event ∈ events, makesNode event.call = true →
    event.call = nodeCall index ∧ ⟨.pathExists (path index), false⟩ ∈ events

theorem NodeReady.ownNode {events : List (Event Kernel)} (h : NodeReady index events) :
    OwnNode index events := by
  cases h <;> simp [OwnNode, makesNode, nodeCall]

theorem OwnNode.append {events others : List (Event Kernel)} (h : OwnNode index events)
    (hothers : ∀ event ∈ others, makesNode event.call = false) : OwnNode index (events ++ others) := by
  intro event hevent hmakes
  obtain hbefore | hafter := List.mem_append.mp hevent
  · obtain ⟨hcall, hmissing⟩ := h event hbefore hmakes
    exact ⟨hcall, List.mem_append_left _ hmissing⟩
  · exact absurd hmakes (by simp [hothers event hafter])

theorem Visited.ownNode {events : List (Event Kernel)} {ending : Option Failure}
    (h : Visited image writable index events ending) : OwnNode index events := by
  cases h with
  | nodeless errno => simp [OwnNode, makesNode, nodeCall]
  | absent node hnode => exact hnode.ownNode.append (by simp [makesNode])
  | closed node cause hnode => exact hnode.ownNode.append (by simp [makesNode])
  | busy node device hnode => exact hnode.ownNode.append (by simp [makesNode])
  | unbound node device errno hnode => exact hnode.ownNode.append (by simp [makesNode])

/-! ## The search -/

/-- No device takes an image. -/
def Unbound (events : List (Event Kernel)) : Prop :=
  ∀ device image, ⟨.bindLoop device image, .ok ()⟩ ∉ events

/-- What no device has taken, none has taken in the first calls. -/
theorem Unbound.left {events later : List (Event Kernel)} (h : Unbound (events ++ later)) : Unbound events :=
  fun device image hbound ↦ h device image (List.mem_append_left _ hbound)

theorem Unbound.right {events later : List (Event Kernel)} (h : Unbound (events ++ later)) : Unbound later :=
  fun device image hbound ↦ h device image (List.mem_append_right _ hbound)

/-- The result of a visit that ends the search with a failure, or passes the device over. -/
def visitResult : Option Failure → Except Failure Bool
  | none => .ok false
  | some failure => .error failure

/-- The node of a device is there afterwards, or it cannot be made. -/
theorem yields_ensureNode (index : Nat) :
    (ensureNode index).run.Yields fun events result ↦
      (result = .ok () ∧ NodeReady index events) ∨
        ∃ errno, errno ≠ .fileExists ∧
          result = .error (.device s!"cannot create {path index}: {errno.namedText}") ∧
          events = [⟨.pathExists (path index), false⟩, ⟨nodeCall index, .error errno⟩] := by
  unfold ensureNode
  apply yields_call
  intro isThere
  cases isThere with
  | true => exact yields_done (.inl ⟨rfl, .found⟩)
  | false =>
    apply yields_call
    intro made
    cases made with
    | ok _ => exact yields_done (.inl ⟨rfl, .made⟩)
    | error errno =>
      refine yields_ite (c := errno = .fileExists) ?_ fun herrno ↦ ?_
      · rintro rfl
        exact yields_done (.inl ⟨rfl, .madeMeanwhile⟩)
      · exact yields_done (.inr ⟨errno, herrno, rfl, rfl⟩)

/-- Unless it binds the image, a visit goes one of the ways above. -/
theorem yields_attachTo (image : Descriptor) (writable : Bool) (setup : LoopSetup) (index : Nat) :
    (attachTo image writable setup index).run.Yields fun events result ↦
      Unbound events → ∃ ending, Visited image writable index events ending ∧ result = visitResult ending := by
  unfold attachTo
  apply Yields.bind
  apply (yields_ensureNode index).mono
  rintro node _ (⟨rfl, hnode⟩ | ⟨errno, herrno, rfl, rfl⟩)
  · apply yields_call
    intro opened
    cases opened with
    | error cause =>
      refine yields_ite (c := cause = .errno .noDeviceAddress) ?_ fun hcause ↦ ?_
      · rintro rfl
        exact yields_done fun _ ↦ ⟨none, .absent node hnode, rfl⟩
      · exact yields_done fun _ ↦ ⟨_, .closed node cause hnode hcause, rfl⟩
    | ok device =>
      apply yields_call
      intro bound
      cases bound with
      | error errno =>
        refine yields_ite (c := errno = .busy) ?_ fun herrno ↦ ?_
        · rintro rfl
          exact yields_done fun _ ↦ ⟨none, .busy node device hnode, rfl⟩
        · exact yields_done fun _ ↦ ⟨_, .unbound node device errno hnode herrno, rfl⟩
      | ok _ =>
        apply yields_call
        intro configured
        cases configured with
        | ok _ => exact yields_done fun hunbound ↦ absurd (by simp) (hunbound device image)
        | error errno =>
          apply yields_call
          intro _
          exact yields_done fun hunbound ↦ absurd (by simp) (hunbound device image)
  · exact fun _ ↦ ⟨_, .nodeless errno herrno, rfl⟩

/-- Visits that pass over the devices from an index on. -/
def PassesOver (image : Descriptor) (writable : Bool) (index : Nat) (visits : List (List (Event Kernel))) :
    Prop :=
  ∀ offset visit, visits[offset]? = some visit → Visited image writable (index + offset) visit none

theorem passesOver_nil : PassesOver image writable index [] := nofun

theorem PassesOver.cons {visit : List (Event Kernel)} {visits : List (List (Event Kernel))}
    (hvisit : Visited image writable index visit none) (h : PassesOver image writable (index + 1) visits) :
    PassesOver image writable index (visit :: visits) := by
  intro offset other hother
  cases offset with
  | zero =>
    cases hother
    exact hvisit
  | succ offset =>
    have hlater := h offset other hother
    rwa [Nat.add_right_comm, Nat.add_assoc] at hlater

/-- A search passes over all its devices, or it is stopped behind those that it has passed over. -/
theorem yields_scan (image : Descriptor) (writable : Bool) (setup : LoopSetup) (count index : Nat) :
    (scan image writable setup count index).run.Yields fun events result ↦
      Unbound events → ∃ passed, PassesOver image writable index passed ∧
        ((passed.length = count ∧ events = passed.flatten ∧ result = .ok none) ∨
          ∃ last failure, passed.length < count ∧
            Visited image writable (index + passed.length) last (some failure) ∧
            events = passed.flatten ++ last ∧ result = .error failure) := by
  -- The rest of a search is a search from the next index on.
  induction count generalizing index with
  | zero => exact yields_done fun _ ↦ ⟨[], passesOver_nil, .inl ⟨rfl, rfl, rfl⟩⟩
  | succ count ih =>
    unfold scan
    apply Yields.bind
    apply (yields_attachTo image writable setup index).mono
    intro visit result hvisit
    cases result with
    | error failure =>
      intro hunbound
      obtain ⟨_ | other, hvisited, hresult⟩ := hvisit hunbound
      · cases hresult
      · cases hresult
        exact ⟨[], passesOver_nil, .inr ⟨visit, failure, Nat.succ_pos count, hvisited, rfl, rfl⟩⟩
    | ok isFree =>
      cases isFree with
      | true =>
        refine yields_done fun hunbound ↦ ?_
        obtain ⟨_ | other, -, hresult⟩ := hvisit hunbound.left
        · cases hresult
        · cases hresult
      | false =>
        apply Yields.mono (ih (index + 1))
        intro later result hrest hunbound
        obtain ⟨_ | other, hvisited, hresult⟩ := hvisit hunbound.left
        · obtain ⟨passed, hpassed, hending⟩ := hrest hunbound.right
          refine ⟨visit :: passed, hpassed.cons hvisited, ?_⟩
          obtain ⟨rfl, rfl, rfl⟩ | ⟨last, failure, hlength, hlast, rfl, rfl⟩ := hending
          · exact .inl ⟨rfl, rfl, rfl⟩
          · refine .inr ⟨last, failure, Nat.succ_lt_succ hlength, ?_, (List.append_assoc ..).symm, rfl⟩
            rwa [List.length_cons, Nat.add_comm passed.length, ← Nat.add_assoc]
        · cases hresult

/-! ## Devices that may be shared -/

/-- Whether a call only looks at a file or a device. -/
def looks : KernelCall → Bool
  | .identifyFile _ | .loopStatus _ => true
  | .openDevice _ writable => !writable
  | _ => false

/-- No device says that it holds a certain part of an image. -/
def Unheld (image : FileIdentity) (info : LoopInfo) (events : List (Event Kernel)) : Prop :=
  ∀ device status, ⟨.loopStatus device, .ok status⟩ ∈ events → holds image info status = false

theorem Unheld.of_mem {image : FileIdentity} {info : LoopInfo} {events fewer : List (Event Kernel)}
    (h : Unheld image info events) (hfewer : ∀ event ∈ fewer, event ∈ events) : Unheld image info fewer :=
  fun device status hstatus ↦ h device status (hfewer _ hstatus)

/-- Devices are only looked at, and none is found if none holds the image. -/
theorem yields_findHolding (image : FileIdentity) (info : LoopInfo) (count index : Nat) :
    (findHolding image info count index).run.Yields fun events result ↦
      (∀ event ∈ events, looks event.call = true) ∧ (Unheld image info events → result = .ok none) := by
  induction count generalizing index with
  | zero => exact yields_done ⟨nofun, fun _ ↦ rfl⟩
  | succ count ih =>
    unfold findHolding
    apply yields_call
    intro opened
    cases opened with
    | error cause =>
      apply Yields.mono (ih (index + 1))
      rintro events result ⟨hlooks, hnone⟩
      exact ⟨List.forall_mem_cons.mpr ⟨rfl, hlooks⟩,
        fun hunheld ↦ hnone (hunheld.of_mem fun _ ↦ List.mem_cons_of_mem _)⟩
    | ok device =>
      apply yields_call
      intro asked
      have hgoesOn : (findHolding image info count (index + 1)).run.Yields fun events result ↦
          (∀ event ∈ ⟨.openDevice (path index) false, .ok device⟩ :: ⟨.loopStatus device, asked⟩ :: events,
              looks event.call = true) ∧
            (Unheld image info
              (⟨.openDevice (path index) false, .ok device⟩ :: ⟨.loopStatus device, asked⟩ :: events) →
                result = .ok none) := by
        apply Yields.mono (ih (index + 1))
        rintro events result ⟨hlooks, hnone⟩
        exact ⟨List.forall_mem_cons.mpr ⟨rfl, List.forall_mem_cons.mpr ⟨rfl, hlooks⟩⟩, fun hunheld ↦
          hnone (hunheld.of_mem fun _ hevent ↦ List.mem_cons_of_mem _ (List.mem_cons_of_mem _ hevent))⟩
      cases asked with
      | error errno => exact hgoesOn
      | ok status =>
        refine yields_ite (c := holds image info status = true) (fun hholds ↦ ?_) fun _ ↦ hgoesOn
        refine yields_done ⟨by simp [looks], fun hunheld ↦ ?_⟩
        have hfree := hunheld device status (by simp)
        rw [hholds] at hfree
        cases hfree

def unknownImage (cause : IoCause) : Failure := .device s!"cannot stat image: {cause.message}"

/-- A device that holds the image is looked for only if one may be shared, and none is found if none holds it. -/
theorem yields_findShared (args : LoopArgs) (image : Descriptor) :
    (findShared args image).run.Yields fun events result ↦
      (∀ event ∈ events, looks event.call = true) ∧ (args.shared = false → events = []) ∧
        ((∀ identity, ⟨.identifyFile image, .ok identity⟩ ∈ events → Unheld identity args.info events) →
          result = .ok none ∨ ∃ cause, events = [⟨.identifyFile image, .error cause⟩] ∧
            result = .error (unknownImage cause)) := by
  unfold findShared
  cases args.shared with
  | false => exact yields_done ⟨nofun, fun _ ↦ rfl, fun _ ↦ .inl rfl⟩
  | true =>
    apply yields_call
    intro identified
    cases identified with
    | error cause =>
      exact yields_done ⟨by simp [looks], nofun, fun _ ↦ .inr ⟨cause, rfl, rfl⟩⟩
    | ok identity =>
      apply Yields.mono (yields_findHolding identity args.info args.maxDevices.toNat 0)
      rintro events result ⟨hlooks, hnone⟩
      refine ⟨List.forall_mem_cons.mpr ⟨rfl, hlooks⟩, nofun, fun hunheld ↦ .inl (hnone ?_)⟩
      exact (hunheld identity (List.mem_cons_self ..)).of_mem fun _ ↦ List.mem_cons_of_mem _

/-! ## Searches without a result -/

/-- No device takes an image, and none that may be shared holds it already. -/
structure Unattached (args : LoopArgs) (image : Descriptor) (events : List (Event Kernel)) : Prop where
  unbound : Unbound events
  unheld (identity : FileIdentity) (hidentity : ⟨.identifyFile image, .ok identity⟩ ∈ events) :
    Unheld identity args.info events

/-- A search that attaches nothing: the looks at devices that may be shared, the visits to the devices that are
passed over, and the visit that stops it with a failure, if any. -/
structure Search where
  looks : List (Event Kernel)
  passed : List (List (Event Kernel))
  last : Option (List (Event Kernel) × Failure)

namespace Search

def events (search : Search) : List (Event Kernel) :=
  search.looks ++ (search.passed.flatten ++ (search.last.map Prod.fst).getD [])

def failure (args : LoopArgs) (search : Search) : Failure :=
  (search.last.map Prod.snd).getD
    (.device s!"no loop devices available (scanned {args.maxDevices.toNat})")

end Search

/-- What a search comes to that attaches nothing. -/
structure SearchLaws (args : LoopArgs) (image : Descriptor) (search : Search) : Prop where
  /-- Before the first visit, devices are only looked at, and only if one may be shared. -/
  looks : ∀ event ∈ search.looks, looks event.call = true
  alone : args.shared = false → search.looks = []
  /-- The visits go to the devices in order, and each but the one that stops the search passes its device over. -/
  passed (index : Nat) (visit : List (Event Kernel)) (hvisit : search.passed[index]? = some visit) :
    Visited image (ImageSource.isWritable args.mode) index visit none
  exhausted : search.last = none → search.passed.length = args.maxDevices.toNat
  stopped (visit : List (Event Kernel)) (failure : Failure) (hlast : search.last = some (visit, failure)) :
    search.passed.length < args.maxDevices.toNat ∧
      Visited image (ImageSource.isWritable args.mode) search.passed.length visit (some failure)
  named (visit : List (Event Kernel)) (failure : Failure) (hlast : search.last = some (visit, failure)) :
    ∃ before after, failure = .device (before ++ path search.passed.length ++ after)
  /-- Nodes are made of visited devices only, each if it is missing, and with the number of the device. -/
  nodes (node : String) (mode : UInt32) (first second : UInt64) (answer : Except Errno Unit)
    (hmade : ⟨.makeBlockNode node mode first second, answer⟩ ∈ search.events) :
    ∃ index, index < args.maxDevices.toNat ∧ index ≤ search.passed.length ∧ node = path index ∧ mode = 0o660 ∧
      first = 7 ∧ second.toNat = index ∧ ⟨.pathExists node, false⟩ ∈ search.events

theorem not_makesNode_of_looks {call : KernelCall} (h : looks call = true) : makesNode call = false := by
  cases call with
  | makeBlockNode => cases h
  | _ => rfl

variable {args : LoopArgs} {search : Search}

theorem ownNode_of_mem (hlooks : ∀ event ∈ search.looks, looks event.call = true)
    (hpassed : PassesOver image writable 0 search.passed)
    (hlast : ∀ visit failure, search.last = some (visit, failure) →
      Visited image writable search.passed.length visit (some failure))
    {event : Event Kernel} (hevent : event ∈ search.events) (hmakes : makesNode event.call = true) :
    ∃ index, (index < search.passed.length ∨ index = search.passed.length ∧ search.last ≠ none) ∧
      event.call = nodeCall index ∧ ⟨.pathExists (path index), false⟩ ∈ search.events := by
  obtain hlook | hvisit := List.mem_append.mp hevent
  · exact absurd hmakes (by simp [not_makesNode_of_looks (hlooks event hlook)])
  · obtain hbefore | hstop := List.mem_append.mp hvisit
    · obtain ⟨visit, hmember, hin⟩ := List.mem_flatten.mp hbefore
      obtain ⟨index, hindex⟩ := List.mem_iff_getElem?.mp hmember
      have hvisited := hpassed index visit hindex
      rw [Nat.zero_add] at hvisited
      obtain ⟨hcall, hmissing⟩ := hvisited.ownNode event hin hmakes
      have hkept : ⟨.pathExists (path index), false⟩ ∈ search.passed.flatten :=
        List.mem_flatten.mpr ⟨visit, hmember, hmissing⟩
      exact ⟨index, .inl (List.getElem?_eq_some_iff.mp hindex).1, hcall,
        List.mem_append_right _ (List.mem_append_left _ hkept)⟩
    · cases hend : search.last with
      | none =>
        rw [hend] at hstop
        cases hstop
      | some ending =>
        obtain ⟨visit, failure⟩ := ending
        rw [hend] at hstop
        obtain ⟨hcall, hmissing⟩ := (hlast visit failure hend).ownNode event hstop hmakes
        refine ⟨search.passed.length, .inr ⟨rfl, nofun⟩, hcall, ?_⟩
        apply List.mem_append_right
        apply List.mem_append_right
        rw [hend]
        exact hmissing

theorem toNat_ofNat_of_lt {index : Nat} {bound : UInt32} (h : index < bound.toNat) :
    (UInt64.ofNat index).toNat = index := by
  have hbound := bound.toNat_lt
  rw [UInt64.toNat_ofNat']
  omega

theorem searchLaws_of_visits (hlooks : ∀ event ∈ search.looks, looks event.call = true)
    (halone : args.shared = false → search.looks = [])
    (hpassed : PassesOver image (ImageSource.isWritable args.mode) 0 search.passed)
    (hexhausted : search.last = none → search.passed.length = args.maxDevices.toNat)
    (hstopped : ∀ visit failure, search.last = some (visit, failure) →
      search.passed.length < args.maxDevices.toNat ∧
        Visited image (ImageSource.isWritable args.mode) search.passed.length visit (some failure)) :
    SearchLaws args image search where
  looks := hlooks
  alone := halone
  passed index visit hvisit := by
    have hvisited := hpassed index visit hvisit
    rwa [Nat.zero_add] at hvisited
  exhausted := hexhausted
  stopped := hstopped
  named visit failure hlast := (hstopped visit failure hlast).2.names
  nodes node mode first second answer hmade := by
    obtain ⟨index, hindex, hcall, hmissing⟩ :=
      ownNode_of_mem hlooks hpassed (fun visit failure hlast ↦ (hstopped visit failure hlast).2) hmade rfl
    cases hcall
    have hbound : index < args.maxDevices.toNat ∧ index ≤ search.passed.length := by
      obtain hbefore | ⟨rfl, hlast⟩ := hindex
      · refine ⟨?_, Nat.le_of_lt hbefore⟩
        cases hend : search.last with
        | none => exact Nat.lt_of_lt_of_eq hbefore (hexhausted hend)
        | some ending => exact Nat.lt_trans hbefore (hstopped ending.1 ending.2 hend).1
      · obtain ⟨ending, hend⟩ := Option.ne_none_iff_exists'.mp hlast
        exact ⟨(hstopped ending.1 ending.2 hend).1, Nat.le_refl _⟩
    exact ⟨index, hbound.1, hbound.2, rfl, rfl, rfl, toNat_ofNat_of_lt hbound.1, hmissing⟩

/-- What an attempt to attach an image comes to that attaches nothing. -/
def Fruitless (args : LoopArgs) (image : Descriptor) (events : List (Event Kernel))
    (result : Except Failure Nat) : Prop :=
  (∃ cause, args.shared = true ∧ events = [⟨.identifyFile image, .error cause⟩] ∧
    result = .error (unknownImage cause)) ∨
  ∃ search, SearchLaws args image search ∧ events = search.events ∧ result = .error (search.failure args)

/-- An attempt that finds no device for the image is a fruitless search. -/
theorem yields_attach (args : LoopArgs) (image : Descriptor) (name : String) :
    (attach args image name).run.Yields fun events result ↦
      Unattached args image events → Fruitless args image events result := by
  unfold attach
  apply Yields.bind
  apply (yields_findShared args image).mono
  rintro looks result ⟨hlooks, halone, hfound⟩
  cases result with
  | error failure =>
    intro hunattached
    obtain hnone | ⟨cause, rfl, hfailure⟩ := hfound hunattached.unheld
    · cases hnone
    · cases hfailure
      cases hshared : args.shared with
      | false => cases halone hshared
      | true => exact .inl ⟨cause, hshared, rfl, rfl⟩
  | ok found =>
    have hnothing (later : List (Event Kernel)) (hunattached : Unattached args image (looks ++ later)) :
        found = none := by
      obtain hnone | ⟨cause, -, hfailure⟩ := hfound fun identity hidentity ↦
        (hunattached.unheld identity (List.mem_append_left _ hidentity)).of_mem fun _ ↦ List.mem_append_left _
      · cases hnone
        rfl
      · cases hfailure
    cases found with
    | some index => exact yields_done fun hunattached ↦ by cases hnothing [] hunattached
    | none =>
      apply Yields.bind
      apply (yields_scan image (ImageSource.isWritable args.mode) (setup args.info name)
        args.maxDevices.toNat 0).mono
      intro events result hscan
      cases result with
      | error failure =>
        intro hunattached
        obtain ⟨passed, hpassed, ⟨-, -, hresult⟩ | ⟨last, other, hlength, hlast, rfl, hresult⟩⟩ :=
          hscan hunattached.unbound.right
        · cases hresult
        · cases hresult
          rw [Nat.zero_add] at hlast
          refine .inr ⟨⟨looks, passed, some (last, failure)⟩, ?_, rfl, rfl⟩
          refine searchLaws_of_visits hlooks halone hpassed nofun ?_
          rintro visit other ⟨⟩
          exact ⟨hlength, hlast⟩
      | ok free =>
        cases free with
        | some index =>
          refine yields_done fun hunattached ↦ ?_
          obtain ⟨-, -, ⟨-, -, hresult⟩ | ⟨_, _, -, -, -, hresult⟩⟩ := hscan hunattached.unbound.right.left
          · cases hresult
          · cases hresult
        | none =>
          refine yields_done fun hunattached ↦ ?_
          obtain ⟨passed, hpassed, ⟨hlength, rfl, -⟩ | ⟨_, _, -, -, -, hresult⟩⟩ :=
            hscan hunattached.unbound.right.left
          · refine .inr ⟨⟨looks, passed, none⟩, ?_, rfl, rfl⟩
            exact searchLaws_of_visits hlooks halone hpassed (fun _ ↦ hlength) nofun
          · cases hresult

/-! ## Under the bracket of a request -/

variable {σ : Type}

theorem runs_attach (args : LoopArgs) (image : Descriptor) (name : String) (machine : Machine Kernel σ)
    (state : σ) (hunattached : Unattached args image ((attach args image name).run.trace machine state)) :
    ∃ failure after, Runs machine (attach args image name).run state
        ((attach args image name).run.trace machine state) (.returned (.error failure)) after ∧
      Fruitless args image ((attach args image name).run.trace machine state) (.error failure) := by
  obtain ⟨events, result, after, hruns, hpost⟩ := yields_attach args image name machine state
  have htrace := hruns.trace_eq
  rw [htrace] at hunattached ⊢
  have hfruitless := hpost hunattached
  cases result with
  | error failure => exact ⟨failure, after, hruns, hfruitless⟩
  | ok index =>
    obtain ⟨_, _, _, hresult⟩ | ⟨_, _, _, hresult⟩ := hfruitless
    · cases hresult
    · cases hresult

/-- Opening the image and looking up the group do nothing to the identity. -/
theorem identity_opened (kernel : IdentityKernel σ) (args : LoopArgs) {source : ImageSource} {image : Descriptor}
    {state opened : σ}
    (hopen : (source.openImage args.mode).run.run kernel.worker state = (.returned (.ok image), opened)) :
    kernel.identity (kernel.worker.answer .diskGroup opened).2 = kernel.identity state := by
  have hconfined : (source.openImage args.mode).Confined KernelCall.asksId none :=
    source.openImage_confined args.mode
  obtain ⟨result, after, hrun, hkept⟩ := Program.Ensures.run kernel (hconfined.keeps (kernel.identity state))
  rw [hopen] at hrun
  cases hrun
  exact (kernel.permits .diskGroup opened).trans hkept

/-- The identity that a search is done under. -/
def searcher (machine : Machine Kernel σ) (opened : σ) : FsIdentity :=
  ⟨0, (machine.answer .diskGroup opened).1⟩

/-- The state in which a search begins, after the image was opened. -/
def escalated (kernel : IdentityKernel σ) (opened : σ) : σ :=
  kernel.switched (searcher kernel.worker opened) (kernel.worker.answer .diskGroup opened).2

/-- A request whose image is open and whose bracket is granted fails as the search does, unless the identity
before it is lost. -/
theorem run_perform (kernel : IdentityKernel σ) {args : LoopArgs} {source : ImageSource} {image : Descriptor}
    {state opened worked : σ} {events : List (Event Kernel)} {failure : Failure}
    (hsource : ImageSource.ofReference args.image = .ok source)
    (hopen : (source.openImage args.mode).run.run kernel.worker state = (.returned (.ok image), opened))
    (hgranted : kernel.identity (escalated kernel opened) = searcher kernel.worker opened)
    (hattach : Runs kernel.worker (attach args image source.name).run (escalated kernel opened) events
      (.returned (.error failure)) worked) :
    let closed := kernel.switched (kernel.identity state) worked
    args.perform.run.run kernel.worker state =
      (.returned (.error (if kernel.identity closed = kernel.identity state then failure
        else FsIdentity.loss (kernel.identity state) (kernel.identity closed))), closed) := by
  intro closed
  have hopened := Program.runs_self kernel.worker (source.openImage args.mode).run state
  rw [hopen] at hopened
  have hask : kernel.worker.answer .diskGroup opened =
      ((kernel.worker.answer .diskGroup opened).1, (kernel.worker.answer .diskGroup opened).2) := rfl
  have hwithin := kernel.runs_within_returned hgranted hattach
  rw [identity_opened kernel args hopen] at hwithin
  simp only [← apply_ite Except.error] at hwithin
  have hperform : args.perform = (do
      let image ← source.openImage args.mode
      let gid ← Operation.ask .diskGroup
      let index ← FsIdentity.within ⟨0, gid⟩ (attach args image source.name)
      return ⟨UInt32.ofNat index⟩) := by
    rw [LoopArgs.perform, hsource]
    rfl
  rw [hperform]
  exact (hopened.bind_ok ((Program.runs_ask hask).bind_ok (hwithin.bind_error _))).run_eq

/-- When no device takes an image and none holds it, the devices are tried in order up to the first one that
cannot be passed over.  A request fails the same way, unless the identity before it is lost. -/
theorem search_fruitless (args : LoopArgs) (image : Descriptor) :
    (∀ (name : String) (machine : Machine Kernel σ) (state : σ),
      let attaching := (attach args image name).run
      Unattached args image (attaching.trace machine state) →
        ∃ failure after, attaching.run machine state = (.returned (.error failure), after) ∧
          Fruitless args image (attaching.trace machine state) (.error failure)) ∧
    ∀ (kernel : IdentityKernel σ) (source : ImageSource) (state opened : σ),
      ImageSource.ofReference args.image = .ok source →
      (source.openImage args.mode).run.run kernel.worker state = (.returned (.ok image), opened) →
      kernel.identity (escalated kernel opened) = searcher kernel.worker opened →
      let attaching := (attach args image source.name).run
      let closed := kernel.switched (kernel.identity state)
        (attaching.run kernel.worker (escalated kernel opened)).2
      Unattached args image (attaching.trace kernel.worker (escalated kernel opened)) →
        ∃ failure,
          (attaching.run kernel.worker (escalated kernel opened)).1 = .returned (.error failure) ∧
          Fruitless args image (attaching.trace kernel.worker (escalated kernel opened)) (.error failure) ∧
          args.perform.run.run kernel.worker state =
            (.returned (.error (if kernel.identity closed = kernel.identity state then failure
              else FsIdentity.loss (kernel.identity state) (kernel.identity closed))), closed) := by
  constructor
  · intro name machine state attaching hunattached
    obtain ⟨failure, after, hruns, hfruitless⟩ := runs_attach args image name machine state hunattached
    exact ⟨failure, after, hruns.run_eq, hfruitless⟩
  · intro kernel source state opened hsource hopen hgranted attaching closed hunattached
    obtain ⟨failure, worked, hruns, hfruitless⟩ :=
      runs_attach args image source.name kernel.worker (escalated kernel opened) hunattached
    have hworked : (attaching.run kernel.worker (escalated kernel opened)).2 = worked :=
      congrArg Prod.snd hruns.run_eq
    have hperform := run_perform kernel hsource hopen hgranted hruns
    rw [← hworked] at hperform
    exact ⟨failure, congrArg Prod.fst hruns.run_eq, hfruitless, hperform⟩

/-- A kernel with a first device that is absent, one that is busy, and others that cannot be opened.  Their nodes
are missing and made by someone else.  The disk group is 6. -/
def crowded : IdentityKernel FsIdentity where
  worker := ⟨fun call identity ↦
    match call with
    | .diskGroup => ((6 : UInt32), identity)
    | .openImage .. => (.ok ⟨3⟩, identity)
    | .pathExists node => (node == path 0, identity)
    | .makeBlockNode .. => (.error .fileExists, identity)
    | .openDevice node _ =>
      (if node = path 0 then .error (.errno .noDeviceAddress) else
        if node = path 1 then .ok ⟨4⟩ else .error (.errno .notPermitted), identity)
    | .bindLoop .. => (.error .busy, identity)
    | call => IdentityKernel.granting.worker.answer call identity⟩
  caller := IdentityKernel.granting.caller
  identity := id
  permits call identity := by
    cases call with
    | diskGroup | openImage | pathExists | makeBlockNode | openDevice | bindLoop => rfl
    | _ => exact IdentityKernel.granting.permits _ identity
  keeps := IdentityKernel.granting.keeps

theorem search_fruitless_crowded :
    let args : LoopArgs := ⟨"a.img", 2, 4, false, .whole⟩
    let attaching := (attach args ⟨3⟩ "a.img").run
    let failure : Failure := .device "cannot open /dev/loop2: Operation not permitted (os error 1)"
    Unattached args ⟨3⟩ (attaching.trace crowded.worker ⟨0, 6⟩) ∧
      Fruitless args ⟨3⟩ (attaching.trace crowded.worker ⟨0, 6⟩) (.error failure) ∧
      args.perform.run.run crowded.worker ⟨500, 500⟩ = (.returned (.error failure), ⟨500, 500⟩) := by
  intro args attaching failure
  have hunattached : Unattached args ⟨3⟩ (attaching.trace crowded.worker ⟨0, 6⟩) := by
    constructor
    · intro device image hbound
      obtain ⟨now, hanswer⟩ := Program.answer_of_mem_trace hbound
      cases hanswer
    · intro identity hidentity
      obtain ⟨now, hanswer⟩ := Program.answer_of_mem_trace hidentity
      cases hanswer
  have hsearch := (search_fruitless args ⟨3⟩).2 crowded (.path "a.img") ⟨500, 500⟩ ⟨500, 500⟩
    (by decide +kernel) rfl rfl hunattached
  obtain ⟨found, hrun, hfruitless, hperform⟩ := hsearch
  obtain rfl : failure = found := Except.error.inj (Outcome.returned.inj hrun)
  exact ⟨hunattached, hfruitless, hperform⟩

end LoopDevice

end ContainerConstruction
