import ContainerConstruction.Request.Basic
import ContainerConstruction.Text.Quoted

/-!
# Requests and replies in diagnostics

The form in which a diagnostic shows a value: names of the parts, quoted texts, and for a key no more
than its length.
-/

namespace ContainerConstruction

open Text (quoted)

/-- A value with named parts. -/
def shownRecord (name : String) (parts : List (String × String)) : String :=
  name ++ " \x7b " ++ ", ".intercalate (parts.map fun (part, value) ↦ s!"{part}: {value}") ++ " \x7d"

def shownList (items : List String) : String := "[" ++ ", ".intercalate items ++ "]"

def shownBool (value : Bool) : String := if value then "true" else "false"

def MountArgs.shown (args : MountArgs) : String :=
  shownRecord "MountArgs" [("source", quoted args.source), ("target", quoted args.target),
    ("filesystem", quoted args.filesystem), ("flags", toString args.flags.toNat),
    ("data", quoted args.data), ("options", shownList (args.options.map quoted))]

/-- A key is shown by its length alone. -/
def CryptArgs.shown (args : CryptArgs) : String :=
  shownRecord "CryptArgs" [("key", s!"<{args.key.length} bytes>"),
    ("loop_device", quoted args.loopDevice), ("master_pid", toString args.masterPid.toInt)]

def MkdirArgs.shown (args : MkdirArgs) : String :=
  shownRecord "MkdirArgs" [("path", quoted args.path), ("mode", toString args.mode.toNat)]

def RootMethod.shown : RootMethod → String
  | .pivot => "Pivot"
  | .move => "Move"
  | .chroot => "Chroot"

def ChrootArgs.shown (args : ChrootArgs) : String :=
  shownRecord "ChrootArgs" [("root", quoted args.root), ("method", args.method.shown)]

def LoopInfo.shown (info : LoopInfo) : String :=
  shownRecord "LoopInfo" [("offset", toString info.offset.toNat),
    ("size_limit", toString info.sizeLimit.toNat), ("autoclear", shownBool info.autoclear),
    ("read_only", shownBool info.readOnly)]

def LoopArgs.shown (args : LoopArgs) : String :=
  shownRecord "LoopArgs" [("image", quoted args.image), ("mode", toString args.mode.toInt),
    ("max_devices", toString args.maxDevices.toNat), ("shared", shownBool args.shared),
    ("info", args.info.shown)]

def HostnameArgs.shown (args : HostnameArgs) : String :=
  shownRecord "HostnameArgs" [("hostname", quoted args.hostname)]

def SetFsIdArgs.shown (args : SetFsIdArgs) : String :=
  shownRecord "SetFsIdArgs" [("uid", toString args.uid.toNat), ("gid", toString args.gid.toNat)]

def ChdirArgs.shown (args : ChdirArgs) : String :=
  shownRecord "ChdirArgs" [("dir", quoted args.dir)]

namespace Request

def shownArgs : Request → String
  | .mount args => args.shown
  | .decrypt args => args.shown
  | .mkdir args => args.shown
  | .chroot args => args.shown
  | .loopDevice args => args.shown
  | .setHostname args => args.shown
  | .setFsId args => args.shown
  | .chdir args => args.shown

def shown (request : Request) : String := s!"{request.method}({request.shownArgs})"

end Request

def Reply.shown : Reply → String
  | .unit => "Unit"
  | .crypt reply => "Crypt(" ++ shownRecord "CryptReply" [("device", quoted reply.device)] ++ ")"
  | .loop reply => "Loop(" ++ shownRecord "LoopReply" [("index", toString reply.index.toNat)] ++ ")"

end ContainerConstruction
