import ContainerConstruction.Host.Kernel
import ContainerConstruction.Operation.Directory
import ContainerConstruction.Proofs.Host.Removal
import ContainerConstruction.Proofs.Operation.Membership
import Mathlib

/-!
# The mode of a new directory

`KernelCall.MakesDirectories` is all that is assumed of a kernel: what it does when it is asked for a directory, and
for the bits that new files do not get.  A host has such a kernel.

Whatever bits were withheld, a new directory gets the permissions that were asked for, and the withheld bits are the
same afterwards.  But the kernel takes neither of the bits over that change ids: a directory has the one for groups
if and only if the directory above it has it, and never the one for users, whatever was asked for.  If none is made,
the tree stays as it was.
-/

namespace ContainerConstruction

open Program (Runs)

variable {σ : Type}

/-! ## Trees -/

/-- Putting a node at a path changes what is at that path, and nothing else. -/
theorem FileTree.node?_put (path other : TreePath) (node : Node) (tree : FileTree) :
    (tree.put path node).node? other = if other = path then some node else tree.node? other := by
  have herase := node?_erase path other tree
  by_cases h : other = path
  · simp [node?, put, h]
  · rw [if_neg h] at herase ⊢
    rw [← herase]
    simp [node?, put, erase, Ne.symm h]

/-- A way that ends at a free name ends in a directory that does not have it. -/
theorem Lookup.node?_of_walk_free {tree : FileTree} {identity : FsIdentity} {final : Bool} {links : Nat}
    {here directory : TreePath} {names : List String} {name : String}
    (h : walk tree identity final links here names = .ok (.free directory name)) :
    (∃ node, tree.node? directory = some node ∧ node.isDirectory = true) ∧
      tree.node? (directory ++ [name]) = none := by
  fun_induction walk tree identity final links here names <;> simp_all

/-- A free name is one of a directory that is there, with nothing at its path. -/
theorem Lookup.node?_of_vacancy {tree : FileTree} {identity : FsIdentity} {base directory : TreePath}
    {path name : String} (h : vacancy tree identity base path = .ok (directory, name)) :
    (∃ node, tree.node? directory = some node ∧ node.isDirectory = true) ∧
      tree.node? (directory ++ [name]) = none := by
  unfold vacancy at h
  dsimp only at h
  split at h
  · cases h
  split at h
  · cases h
  · cases h
  next hlocate =>
    cases h
    unfold locate at hlocate
    split at hlocate
    · cases hlocate
    split at hlocate
    · cases hlocate
    · exact node?_of_walk_free hlocate

/-! ## Kernels that make directories -/

/-- What a thread has to do with the making of directories. -/
structure DirectoryScene where
  tree : FileTree
  /-- The bits that new files do not get. -/
  mask : UInt32
  /-- The free name that a path stands for, and the place it is free at. -/
  vacancy : String → Except Errno (TreePath × String)

namespace DirectoryScene

/-- A directory is there at a place where nothing was, and nothing else has changed in the tree. -/
structure Makes (before : DirectoryScene) (path : String) (place : TreePath) (parent made : Node)
    (after : DirectoryScene) : Prop where
  vacancy : ∃ above name, before.vacancy path = .ok (above, name) ∧ before.tree.node? above = some parent ∧
    place = above ++ [name]
  directories : parent.isDirectory = true ∧ made.isDirectory = true
  node?_before : before.tree.node? place = none
  node?_after (other : TreePath) :
    after.tree.node? other = if other = place then some made else before.tree.node? other

end DirectoryScene

/-- What a call has to do with the making of directories. -/
def KernelCall.MakesDirectories (before after : DirectoryScene) : (call : KernelCall) → call.Answer → Prop
  | .setUmask mask, previous => previous = before.mask ∧ after = { before with mask := mask &&& 0o777 }
  | .makeDirectory path mode, .ok () => after.mask = before.mask ∧ ∃ place parent made,
    before.Makes path place parent made after ∧
      made.access.mode = mode &&& 0o1777 &&& ~~~before.mask ||| parent.access.mode &&& 0o2000
  | .makeDirectory .., .error _ => after = before
  | _, _ => True

/-- A kernel that makes directories. -/
structure DirectoryKernel (σ : Type) where
  machine : Machine Kernel σ
  scene : σ → DirectoryScene
  makes : ∀ (call : KernelCall) (state : σ),
    call.MakesDirectories (scene state) (scene (machine.answer call state).2) (machine.answer call state).1

namespace Host

variable (actor : Actor) (host : Host)

/-- What a thread of a host has to do with the making of directories. -/
def directoryScene : DirectoryScene where
  tree := host.tree
  mask := (host.placeOf actor).mask
  vacancy := Lookup.vacancy host.tree (host.accessor actor).identity (host.placeOf actor).directory

theorem makesDirectories_setUmask (mask : UInt32) :
    (KernelCall.setUmask mask).MakesDirectories (host.directoryScene actor)
      ((host.setMask actor mask).2.directoryScene actor) (host.setMask actor mask).1 := by
  refine ⟨rfl, ?_⟩
  cases actor
  · cases hplace : host.workerPlace <;>
      simp [directoryScene, setMask, withPlace, placeOf, accessor, identityOf, hplace]
  · rfl

/-- The host makes a directory as `KernelCall.MakesDirectories` says. -/
theorem makesDirectories_makeDirectory (path : String) (mode : UInt32) :
    (KernelCall.makeDirectory path mode).MakesDirectories (host.directoryScene actor)
      ((host.settle (host.makeDirectory (host.accessor actor) path mode)).2.directoryScene actor)
      (host.settle (host.makeDirectory (host.accessor actor) path mode)).1 := by
  cases hmade : host.makeDirectory (host.accessor actor) path mode with
  | error errno => rfl
  | ok next =>
    unfold makeDirectory at hmade
    obtain ⟨-, hmade⟩ := guard_ok_iff.mp hmade
    obtain ⟨⟨above, name⟩, hvacancy, hmade⟩ := bind_ok_iff.mp hmade
    obtain ⟨parent, hparent, hmade⟩ := bind_ok_iff.mp hmade
    cases hmade
    obtain ⟨⟨node, hnode, hdirectory⟩, hfree⟩ := Lookup.node?_of_vacancy hvacancy
    have hsame : parent = node := by
      unfold checkChangeable at hparent
      rw [hnode] at hparent
      dsimp only at hparent
      split_ifs at hparent
      cases hparent
      rfl
    subst hsame
    refine ⟨rfl, above ++ [name], parent, _, ⟨⟨above, name, hvacancy, hnode, rfl⟩, ⟨hdirectory, rfl⟩, hfree,
      fun other ↦ FileTree.node?_put _ _ _ _⟩, rfl⟩

/-- The kernel of a host makes directories. -/
def directoryKernel : DirectoryKernel Host where
  machine := kernel actor
  scene := directoryScene actor
  makes call host := by
    cases call with
    | setUmask mask => exact host.makesDirectories_setUmask actor mask
    | makeDirectory path mode => exact host.makesDirectories_makeDirectory actor path mode
    | _ => trivial

end Host

/-! ## Modes -/

theorem UInt32.and_or_distrib_left (a b c : UInt32) : a &&& (b ||| c) = a &&& b ||| a &&& c := by
  simp [← UInt32.toBitVec_inj, BitVec.and_or_distrib_left]

theorem UInt32.and_or_distrib_right (a b c : UInt32) : (a ||| b) &&& c = a &&& c ||| b &&& c := by
  simp [← UInt32.toBitVec_inj, BitVec.and_or_distrib_right]

/-- The kernel gives the mode that was asked for if that has no bit to change users, and the bit to change groups as
the directory above has it. -/
theorem mode_eq_iff (asked parent : UInt32) : asked &&& 0o1777 ||| parent &&& 0o2000 = asked &&& 0o7777 ↔
    asked &&& 0o4000 = 0 ∧ asked &&& 0o2000 = parent &&& 0o2000 := by
  have hsplit : asked &&& 0o7777 = asked &&& 0o1777 ||| (asked &&& 0o4000 ||| asked &&& 0o2000) := by
    rw [← UInt32.and_or_distrib_left, ← UInt32.and_or_distrib_left]
    rfl
  have hpart (bit : UInt32) : (asked &&& 0o1777 ||| parent &&& 0o2000) &&& bit =
      asked &&& (0o1777 &&& bit) ||| parent &&& (0o2000 &&& bit) := by
    rw [UInt32.and_or_distrib_right, UInt32.and_assoc, UInt32.and_assoc]
  constructor
  · intro h
    have hbits (bit : UInt32) (hbit : 0o7777 &&& bit = bit) :
        asked &&& bit = asked &&& (0o1777 &&& bit) ||| parent &&& (0o2000 &&& bit) := by
      rw [← hpart, h, UInt32.and_assoc, hbit]
    constructor
    · calc
        asked &&& 0o4000 = asked &&& 0 ||| parent &&& 0 := hbits 0o4000 rfl
        _ = 0 := by simp
    · calc
        asked &&& 0o2000 = asked &&& 0 ||| parent &&& 0o2000 := hbits 0o2000 rfl
        _ = parent &&& 0o2000 := by simp
  · rintro ⟨huser, hgroup⟩
    rw [hsplit, huser, hgroup, UInt32.zero_or]

/-! ## Making a directory -/

/-- What making a directory comes to. -/
structure MkdirLaws (args : MkdirArgs) (before : DirectoryScene) (result : Except Failure Unit)
    (after : DirectoryScene) : Prop where
  masked : after.mask = before.mask
  failed (failure : Failure) (h : result = .error failure) : after = before
  /-- Of the bits that change ids, the directory has the one for groups, as the directory above has it. -/
  made (h : result = .ok ()) : ∃ place parent made, before.Makes args.path place parent made after ∧
    made.access.mode = args.mode &&& 0o1777 ||| parent.access.mode &&& 0o2000 ∧
    (made.access.mode = args.mode &&& 0o7777 ↔
      args.mode &&& 0o4000 = 0 ∧ args.mode &&& 0o2000 = parent.access.mode &&& 0o2000)

namespace MkdirArgs

/-- The three calls, and what is told of the second. -/
theorem runs_perform {machine : Machine Kernel σ} (args : MkdirArgs) {state cleared made restored : σ}
    {previous last : UInt32} {answer : Except Errno Unit}
    (hclear : machine.answer (.setUmask 0) state = (previous, cleared))
    (hmake : machine.answer (.makeDirectory args.path (args.mode &&& 0o7777)) cleared = (answer, made))
    (hrestore : machine.answer (.setUmask previous) made = (last, restored)) :
    Runs machine args.perform.run state
      [⟨.setUmask 0, previous⟩, ⟨.makeDirectory args.path (args.mode &&& 0o7777), answer⟩,
        ⟨.setUmask previous, last⟩]
      (.returned (answer.mapError fun errno ↦ .io args.path (.errno errno))) restored := by
  refine (Program.runs_ask hclear).bind_ok ((Program.runs_ask hmake).bind_ok
    ((Program.runs_ask hrestore).bind_ok_quiet ?_))
  cases answer with
  | ok value => exact Program.runs_pure machine value restored
  | error errno => exact Program.runs_throw machine _ restored

/-- Making a directory leaves the withheld bits as they were, and if it fails the tree too.  A directory that is made
has the permissions that were asked for, but the bits that change ids do not depend on what was asked for. -/
theorem mkdir_laws (kernel : DirectoryKernel σ) (args : MkdirArgs) (state : σ)
    (hmask : (kernel.scene state).mask &&& 0o777 = (kernel.scene state).mask) :
    ∃ result after, args.perform.run.run kernel.machine state = (.returned result, after) ∧
      MkdirLaws args (kernel.scene state) result (kernel.scene after) := by
  have hcleared := kernel.makes (.setUmask 0) state
  cases hclear : kernel.machine.answer (.setUmask 0) state with
  | mk previous cleared =>
  have hmade := kernel.makes (.makeDirectory args.path (args.mode &&& 0o7777)) cleared
  cases hmake : kernel.machine.answer (.makeDirectory args.path (args.mode &&& 0o7777)) cleared with
  | mk answer made =>
  have hrestored := kernel.makes (.setUmask previous) made
  cases hrestore : kernel.machine.answer (.setUmask previous) made with
  | mk last restored =>
  rw [hclear] at hcleared
  rw [hmake] at hmade
  rw [hrestore] at hrestored
  obtain ⟨rfl, hcleared⟩ := hcleared
  obtain ⟨-, hrestored⟩ := hrestored
  rw [hmask] at hrestored
  refine ⟨_, restored, (runs_perform args hclear hmake hrestore).run_eq, ?_⟩
  cases answer with
  | error errno =>
    have hsame : kernel.scene restored = kernel.scene state := by
      rw [hrestored, show kernel.scene made = kernel.scene cleared from hmade, hcleared]
    exact ⟨congrArg DirectoryScene.mask hsame, fun _ _ ↦ hsame, nofun⟩
  | ok value =>
    obtain ⟨-, place, parent, node, hmakes, hmode⟩ := hmade
    rw [hcleared] at hmakes hmode
    have hbits : (0o7777 &&& (0o1777 &&& ~~~(0 &&& 0o777)) : UInt32) = 0o1777 := by decide
    have hgiven : node.access.mode = args.mode &&& 0o1777 ||| parent.access.mode &&& 0o2000 := by
      rw [hmode, UInt32.and_assoc, UInt32.and_assoc, hbits]
    refine ⟨by rw [hrestored], nofun, fun _ ↦ ⟨place, parent, node, ⟨hmakes.vacancy, hmakes.directories,
      hmakes.node?_before, fun other ↦ ?_⟩, hgiven, ?_⟩⟩
    · rw [hrestored]
      exact hmakes.node?_after other
    · rw [hgiven]
      exact mode_eq_iff args.mode parent.access.mode

/-- A host on which there is nothing but a directory. -/
def bareHost : Host :=
  { Host.initial with
    tree := ⟨[([], ⟨Host.owned 0o755, .directory⟩)]⟩
    place := ⟨[], 0o022⟩ }

theorem mkdir_laws_bare :
    let scene := (Host.directoryKernel .worker).scene
    (scene bareHost).mask &&& 0o777 = (scene bareHost).mask ∧
      ∃ after, (perform ⟨"x", 0o1777⟩).run.run (Host.kernel .worker) bareHost = (.returned (.ok ()), after) ∧
        MkdirLaws ⟨"x", 0o1777⟩ (scene bareHost) (.ok ()) (scene after) := by
  obtain ⟨result, after, hrun, hlaws⟩ := mkdir_laws (Host.directoryKernel .worker) ⟨"x", 0o1777⟩ bareHost rfl
  have hok : ((perform ⟨"x", 0o1777⟩).run.run (Host.kernel .worker) bareHost).1 = .returned (.ok ()) := by cbv
  obtain rfl : result = .ok () := Outcome.returned.inj ((congrArg Prod.fst hrun).symm.trans hok)
  exact ⟨rfl, after, hrun, hlaws⟩

/-- A directory is asked for with the bit that changes users, and it is made without. -/
theorem perform_drops_setUserBit :
    let args : MkdirArgs := ⟨"x", 0o4755⟩
    let ended := args.perform.run.run (Host.kernel .worker) bareHost
    bareHost.tree.node? ["x"] = none ∧ ended.1 = .returned (.ok ()) ∧
      ended.2.tree.node? ["x"] = some ⟨Host.owned 0o755, .directory⟩ ∧ args.mode &&& 0o7777 ≠ 0o755 := by
  refine ⟨rfl, ?_, ?_, by decide⟩
  · cbv
  · cbv

end MkdirArgs

end ContainerConstruction
