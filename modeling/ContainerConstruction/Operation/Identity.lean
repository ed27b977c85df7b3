import ContainerConstruction.Kernel.Interface

/-!
# Filesystem identity

The user and group that a thread accesses files as.  The kernel never says whether it granted one, so
every change is read back.  `FsIdentity.apply` changes the identity for good; `FsIdentity.within` takes
one on for a single piece of work and hands the earlier one back however that work ends.
-/

namespace ContainerConstruction

structure FsIdentity where
  uid : UInt32
  gid : UInt32
  deriving DecidableEq, Repr

namespace FsIdentity

/-- An id that is never granted: asking for it reads the present one. -/
def noId : UInt32 := 4294967295

def shown (identity : FsIdentity) : String :=
  s!"fsuid={identity.uid.toNat} fsgid={identity.gid.toNat}"

def current : Operation FsIdentity := do
  let uid ← Operation.ask (.setFsUid noId)
  let gid ← Operation.ask (.setFsGid noId)
  return ⟨uid, gid⟩

/-- Takes on an identity for good. -/
def apply (identity : FsIdentity) : Operation Unit := do
  let _ ← Operation.ask (.setFsUid identity.uid)
  let _ ← Operation.ask (.setFsGid identity.gid)
  let now ← current
  if now = identity then return ()
  else throw (.privilege s!"requested {identity.shown}, thread has {now.shown}")

/-- Takes back an identity that was given up. -/
def restore (previous : FsIdentity) : Operation Unit := do
  let _ ← Operation.ask (.setFsUid previous.uid)
  let _ ← Operation.ask (.setFsGid previous.gid)
  let now ← current
  if now = previous then return ()
  else throw (.identityRestore s!"expected {previous.shown}, thread still has {now.shown}")

/-- Takes on an identity and gives the one to restore.  If the identity is refused, the earlier one is
in force again. -/
def escalate (target : FsIdentity) : Operation FsIdentity := do
  let uid ← Operation.ask (.setFsUid target.uid)
  let gid ← Operation.ask (.setFsGid target.gid)
  let previous : FsIdentity := ⟨uid, gid⟩
  let now ← current
  if now = target then return previous
  else
    restore previous
    throw (.privilege s!"escalation to {target.shown} refused, thread reached {now.shown}")

/-- Restores an identity while a panic goes on; a failure to do so is not reported. -/
def restoreUnwinding {α : Type} (previous : FsIdentity) (panic : Panic) : Operation α :=
  Program.bind (I := Kernel) (restore previous).run fun _ ↦ .panics panic

/-- Does a piece of work under another identity.  The work is not done if the identity is refused, and a
failure to restore the earlier identity outweighs what the work gave. -/
def within {α : Type} (target : FsIdentity) (work : Operation α) : Operation α := do
  let previous ← escalate target
  match ← ExceptT.lift (Program.attempt work.run) with
  | .panicked panic => restoreUnwinding previous panic
  | .returned result =>
    restore previous
    Operation.ofResult result

end FsIdentity

/-- A group id that is looked up at most once; a group that is not found counts as the first one. -/
structure GidCache where
  gid : Option UInt32
  deriving DecidableEq, Repr

namespace GidCache

/-- Nothing looked up yet. -/
def empty : GidCache := ⟨none⟩

/-- The group id, the cache afterwards, and whether the group was looked up. -/
def resolve (lookUp : Unit → Option UInt32) (cache : GidCache) : UInt32 × GidCache × Bool :=
  match cache.gid with
  | some gid => (gid, cache, false)
  | none =>
    let gid := (lookUp ()).getD 0
    (gid, ⟨some gid⟩, true)

end GidCache

end ContainerConstruction
