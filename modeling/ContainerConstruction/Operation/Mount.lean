import ContainerConstruction.Kernel.Interface
import ContainerConstruction.Request.Basic

/-!
# Mounts

A mount request gives its flags as a number, by name, or both.  A name that is not known is found out
before anything is mounted, and bits without a meaning are left out.
-/

namespace ContainerConstruction

namespace MountFlags

/-! ## Flags -/

def readOnly : UInt64 := 1
def noSetId : UInt64 := 2
def noDevices : UInt64 := 4
def noPrograms : UInt64 := 8
def remount : UInt64 := 32
def bind : UInt64 := 4096
def move : UInt64 := 8192
def recursive : UInt64 := 16384
def unbindable : UInt64 := 131072
def isPrivate : UInt64 := 262144
def slave : UInt64 := 524288
def shared : UInt64 := 1048576
def relativeTimes : UInt64 := 2097152
def strictTimes : UInt64 := 16777216

/-- The flags that have a name in requests. -/
def names : List (String × UInt64) :=
  [("ro", readOnly), ("nosuid", noSetId), ("nodev", noDevices), ("noexec", noPrograms),
    ("remount", remount), ("bind", bind), ("rec", recursive), ("move", move),
    ("private", isPrivate), ("slave", slave), ("shared", shared), ("unbindable", unbindable),
    ("relatime", relativeTimes), ("strictatime", strictTimes)]

/-- Every bit that has a meaning, named in requests or not.  The mark of a mount that no user may make is a
negative number, so that all bits from the 31st on belong to it. -/
def known : UInt64 := 0xfffffffffffffcff

def ofName (name : String) : Except Failure UInt64 :=
  match names.find? (·.1 = name) with
  | some (_, flag) => .ok flag
  | none => .error (.config s!"unknown mount flag: {name}")

/-- The flags of all names together, or the first name that is none. -/
def ofNames : List String → Except Failure UInt64
  | [] => .ok 0
  | name :: rest =>
    match ofName name with
    | .error failure => .error failure
    | .ok flag => (ofNames rest).map (flag ||| ·)

end MountFlags

namespace MountArgs

/-- A text, unless it is empty. -/
def nonEmpty (text : String) : Option String := if text.isEmpty then none else some text

def perform (args : MountArgs) : Operation Unit := do
  let options ← Operation.ofResult (MountFlags.ofNames args.options)
  let answer ← Operation.ask (.mount (nonEmpty args.source) args.target (nonEmpty args.filesystem)
    ((args.flags ||| options) &&& MountFlags.known) (nonEmpty args.data))
  Operation.check (fun errno ↦ .mount args.source args.target errno.namedText) answer

end MountArgs

end ContainerConstruction
