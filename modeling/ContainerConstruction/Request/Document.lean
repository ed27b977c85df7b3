import ContainerConstruction.Json.Reader
import ContainerConstruction.Failure
import ContainerConstruction.Request.Basic

/-!
# Requests and replies as documents

A request is written as an object with its `method` and its `args`, a reply as a text or as an object
with one member.  Arguments that have a default may be left out; written out they are always there,
apart from an empty list of mount options.
-/

namespace ContainerConstruction

open Json (Reader)
open Json.Reader (string bool uint8 uint32 uint64 int32 list record)
open Json.Reader.Fields (required defaulting)

/-! ## Arguments -/

def MountArgs.toJson (args : MountArgs) : Json :=
  .object ([("source", .string args.source), ("target", .string args.target),
    ("filesystem", .string args.filesystem), ("flags", .nat args.flags.toNat),
    ("data", .string args.data)] ++
    if args.options.isEmpty then [] else [("options", .strings args.options)])

def MountArgs.reader : Reader MountArgs :=
  record <| required "source" string <| required "target" string <|
    defaulting "filesystem" string "" <| defaulting "flags" uint64 0 <|
    defaulting "data" string "" <| defaulting "options" (list string) [] <|
    .done fun options data flags filesystem target source ↦
      ⟨source, target, filesystem, flags, data, options⟩

namespace RootMethod

/-- The methods with their names. -/
def names : List (String × RootMethod) := [("pivot", .pivot), ("move", .move), ("chroot", .chroot)]

def name : RootMethod → String
  | .pivot => "pivot"
  | .move => "move"
  | .chroot => "chroot"

def ofName (name : String) : Except Failure RootMethod :=
  match names.find? (·.1 = name) with
  | some (_, method) => .ok method
  | none => .error (.config s!"unknown root switch method: {name}")

def toJson (method : RootMethod) : Json := .string method.name

def reader : Reader RootMethod := Json.Reader.choice names

end RootMethod

def ChrootArgs.toJson (args : ChrootArgs) : Json :=
  .object [("root", .string args.root), ("method", args.method.toJson)]

def ChrootArgs.reader : Reader ChrootArgs :=
  record <| required "root" string <| required "method" RootMethod.reader <|
    .done fun method root ↦ ⟨root, method⟩

def LoopInfo.toJson (info : LoopInfo) : Json :=
  .object [("offset", .nat info.offset.toNat), ("size_limit", .nat info.sizeLimit.toNat),
    ("autoclear", .bool info.autoclear), ("read_only", .bool info.readOnly)]

def LoopInfo.reader : Reader LoopInfo :=
  record <| defaulting "offset" uint64 0 <| defaulting "size_limit" uint64 0 <|
    defaulting "autoclear" bool false <| defaulting "read_only" bool false <|
    .done fun readOnly autoclear sizeLimit offset ↦ ⟨offset, sizeLimit, autoclear, readOnly⟩

def LoopArgs.toJson (args : LoopArgs) : Json :=
  .object [("image", .string args.image), ("mode", .integer args.mode.toInt),
    ("max_devices", .nat args.maxDevices.toNat), ("shared", .bool args.shared),
    ("info", args.info.toJson)]

def LoopArgs.reader : Reader LoopArgs :=
  record <| required "image" string <| required "mode" int32 <| required "max_devices" uint32 <|
    defaulting "shared" bool false <| defaulting "info" LoopInfo.reader .whole <|
    .done fun info shared maxDevices mode image ↦ ⟨image, mode, maxDevices, shared, info⟩

def CryptArgs.toJson (args : CryptArgs) : Json :=
  .object [("key", .array (args.key.map fun byte ↦ .nat byte.toNat)),
    ("loop_device", .string args.loopDevice), ("master_pid", .integer args.masterPid.toInt)]

def CryptArgs.reader : Reader CryptArgs :=
  record <| required "key" (list uint8) <| required "loop_device" string <|
    defaulting "master_pid" int32 0 <|
    .done fun masterPid loopDevice key ↦ ⟨key, loopDevice, masterPid⟩

def MkdirArgs.toJson (args : MkdirArgs) : Json :=
  .object [("path", .string args.path), ("mode", .nat args.mode.toNat)]

def MkdirArgs.reader : Reader MkdirArgs :=
  record <| required "path" string <| required "mode" uint32 <| .done fun mode path ↦ ⟨path, mode⟩

def HostnameArgs.toJson (args : HostnameArgs) : Json :=
  .object [("hostname", .string args.hostname)]

def HostnameArgs.reader : Reader HostnameArgs :=
  record <| required "hostname" string <| .done fun hostname ↦ ⟨hostname⟩

def SetFsIdArgs.toJson (args : SetFsIdArgs) : Json :=
  .object [("uid", .nat args.uid.toNat), ("gid", .nat args.gid.toNat)]

def SetFsIdArgs.reader : Reader SetFsIdArgs :=
  record <| required "uid" uint32 <| required "gid" uint32 <| .done fun gid uid ↦ ⟨uid, gid⟩

def ChdirArgs.toJson (args : ChdirArgs) : Json := .object [("dir", .string args.dir)]

def ChdirArgs.reader : Reader ChdirArgs :=
  record <| required "dir" string <| .done fun dir ↦ ⟨dir⟩

/-! ## Requests -/

namespace Request

def argsJson : Request → Json
  | .mount args => args.toJson
  | .decrypt args => args.toJson
  | .mkdir args => args.toJson
  | .chroot args => args.toJson
  | .loopDevice args => args.toJson
  | .setHostname args => args.toJson
  | .setFsId args => args.toJson
  | .chdir args => args.toJson

def toJson (request : Request) : Json :=
  .object [("method", .string request.method), ("args", request.argsJson)]

/-- A reader of the arguments that gives the request. -/
def ofArgs {α : Type} (make : α → Request) (read : Reader α) : Reader Request :=
  fun position document ↦ (read position document).map make

/-- The operations by name, in the order in which a reader lists them. -/
def variants : List (String × Reader Request) :=
  [("Mount", ofArgs .mount MountArgs.reader), ("Decrypt", ofArgs .decrypt CryptArgs.reader),
    ("Mkdir", ofArgs .mkdir MkdirArgs.reader), ("Chroot", ofArgs .chroot ChrootArgs.reader),
    ("LoopDevice", ofArgs .loopDevice LoopArgs.reader),
    ("SetHostname", ofArgs .setHostname HostnameArgs.reader),
    ("SetFsId", ofArgs .setFsId SetFsIdArgs.reader), ("Chdir", ofArgs .chdir ChdirArgs.reader)]

def reader : Reader Request := Json.Reader.tagged "method" "args" variants

end Request

/-! ## Replies -/

def CryptReply.toJson (reply : CryptReply) : Json := .object [("device", .string reply.device)]

def CryptReply.reader : Reader CryptReply :=
  record <| required "device" string <| .done fun device ↦ ⟨device⟩

def LoopReply.toJson (reply : LoopReply) : Json := .object [("index", .nat reply.index.toNat)]

def LoopReply.reader : Reader LoopReply :=
  record <| required "index" uint32 <| .done fun index ↦ ⟨index⟩

namespace Reply

def toJson : Reply → Json
  | .unit => .string "unit"
  | .crypt reply => .object [("crypt", reply.toJson)]
  | .loop reply => .object [("loop", reply.toJson)]

def reader : Reader Reply :=
  Json.Reader.variant
    [("unit", .bare .unit),
      ("crypt", .carrying fun position document ↦
        (CryptReply.reader position document).map .crypt),
      ("loop", .carrying fun position document ↦ (LoopReply.reader position document).map .loop)]

end Reply

end ContainerConstruction
