/-!
# Credentials of a process

Real, effective and saved ids of a process, and what the kernel makes of a wish to change them.  A
process with the capability to do so takes on any id; another one only its real or saved id, and that
as its effective one.
-/

namespace ContainerConstruction

structure Credentials where
  realUid : UInt32
  effectiveUid : UInt32
  savedUid : UInt32
  realGid : UInt32
  effectiveGid : UInt32
  savedGid : UInt32
  /-- Whether the process may take on ids that are not its own. -/
  mayChange : Bool
  deriving DecidableEq, Repr

/-- Why a wish for an id is refused. -/
inductive IdRefusal where
  | notPermitted
  /-- The id stands for none. -/
  | invalid
  deriving DecidableEq, Repr

namespace Credentials

/-- The id that stands for none. -/
def noId : UInt32 := 4294967295

/-- The superuser without any capability. -/
def powerlessRoot : Credentials := ⟨0, 0, 0, 0, 0, 0, false⟩

def setGid (gid : UInt32) (credentials : Credentials) : Except IdRefusal Credentials :=
  if gid = noId then .error .invalid
  else if credentials.mayChange then
    .ok { credentials with realGid := gid, effectiveGid := gid, savedGid := gid }
  else if gid = credentials.realGid ∨ gid = credentials.savedGid then
    .ok { credentials with effectiveGid := gid }
  else .error .notPermitted

/-- Changes the user.  Whoever gives up the user zero gives up the capabilities too. -/
def setUid (uid : UInt32) (credentials : Credentials) : Except IdRefusal Credentials :=
  if uid = noId then .error .invalid
  else if credentials.mayChange then
    .ok { credentials with
      realUid := uid, effectiveUid := uid, savedUid := uid,
      mayChange := credentials.mayChange && uid = 0 }
  else if uid = credentials.realUid ∨ uid = credentials.savedUid then
    .ok { credentials with effectiveUid := uid }
  else .error .notPermitted

/-- Takes on the ids that are asked for: the group first, then the user.  Further groups, which are given up
before that wherever the process may, do not matter here. -/
def assume (uid gid : Option UInt32) (credentials : Credentials) : Except IdRefusal Credentials := do
  let credentials ← match gid with
    | none => pure credentials
    | some gid => credentials.setGid gid
  match uid with
  | none => return credentials
  | some uid => credentials.setUid uid

/-- The ids of a program in the place of a process: its effective ids become its saved ones, and the others
stay. -/
def execute (credentials : Credentials) : Credentials :=
  { credentials with savedUid := credentials.effectiveUid, savedGid := credentials.effectiveGid }

end Credentials

end ContainerConstruction
