import ContainerConstruction.Engine.Config
import ContainerConstruction.Plan
import ContainerConstruction.Proofs.Json.Completed

/-!
# What is written for a configuration

The completion of each type of configuration lists its members in declared order, with the default that is
written for an absent one.  Every type is written as its completion says.
-/

namespace ContainerConstruction

open Json (Completion Position)
open Json.Reader (Completes completes_bool completes_choice completes_int32 completes_json completes_list
  completes_optional completes_record completes_string completes_tagged completes_uint32 completes_uint64
  completes_uint8)

variable {room : Nat}

theorem completes_strings : Completes room (Json.Reader.list Json.Reader.string) Json.strings (.list .plain) :=
  completes_list completes_string

/-! ## Requests -/

def MkdirArgs.completion : Completion :=
  .record [⟨"path", .plain, .required⟩, ⟨"mode", .plain, .required⟩]

theorem MkdirArgs.completes : Completes room MkdirArgs.reader MkdirArgs.toJson MkdirArgs.completion :=
  completes_record (by decide) <| .field completes_string rfl <| .field completes_uint32 rfl <|
    .done fun _ _ ↦ rfl

def HostnameArgs.completion : Completion := .record [⟨"hostname", .plain, .required⟩]

theorem HostnameArgs.completes :
    Completes room HostnameArgs.reader HostnameArgs.toJson HostnameArgs.completion :=
  completes_record (by decide) <| .field completes_string rfl <| .done fun _ ↦ rfl

def SetFsIdArgs.completion : Completion :=
  .record [⟨"uid", .plain, .required⟩, ⟨"gid", .plain, .required⟩]

theorem SetFsIdArgs.completes : Completes room SetFsIdArgs.reader SetFsIdArgs.toJson SetFsIdArgs.completion :=
  completes_record (by decide) <| .field completes_uint32 rfl <| .field completes_uint32 rfl <|
    .done fun _ _ ↦ rfl

def ChdirArgs.completion : Completion := .record [⟨"dir", .plain, .required⟩]

theorem ChdirArgs.completes : Completes room ChdirArgs.reader ChdirArgs.toJson ChdirArgs.completion :=
  completes_record (by decide) <| .field completes_string rfl <| .done fun _ ↦ rfl

def CryptArgs.completion : Completion :=
  .record [⟨"key", .list .plain, .required⟩, ⟨"loop_device", .plain, .required⟩,
    ⟨"master_pid", .plain, .filled (.integer 0)⟩]

theorem CryptArgs.completes : Completes room CryptArgs.reader CryptArgs.toJson CryptArgs.completion :=
  completes_record (by decide) <| .field (completes_list completes_uint8) rfl <|
    .field completes_string rfl <| .field completes_int32 rfl <| .done fun _ _ _ ↦ rfl

def LoopInfo.completion : Completion :=
  .record [⟨"offset", .plain, .filled (.integer 0)⟩, ⟨"size_limit", .plain, .filled (.integer 0)⟩,
    ⟨"autoclear", .plain, .filled (.bool false)⟩, ⟨"read_only", .plain, .filled (.bool false)⟩]

theorem LoopInfo.completes : Completes room LoopInfo.reader LoopInfo.toJson LoopInfo.completion :=
  completes_record (by decide) <| .field completes_uint64 rfl <| .field completes_uint64 rfl <|
    .field completes_bool rfl <| .field completes_bool rfl <| .done fun _ _ _ _ ↦ rfl

def LoopArgs.completion : Completion :=
  .record [⟨"image", .plain, .required⟩, ⟨"mode", .plain, .required⟩, ⟨"max_devices", .plain, .required⟩,
    ⟨"shared", .plain, .filled (.bool false)⟩,
    ⟨"info", LoopInfo.completion, .filled (.object [("offset", .integer 0), ("size_limit", .integer 0),
      ("autoclear", .bool false), ("read_only", .bool false)])⟩]

theorem LoopArgs.completes : Completes room LoopArgs.reader LoopArgs.toJson LoopArgs.completion :=
  completes_record (by decide) <| .field completes_string rfl <| .field completes_int32 rfl <|
    .field completes_uint32 rfl <| .field completes_bool rfl <| .field LoopInfo.completes rfl <|
    .done fun _ _ _ _ _ ↦ rfl

theorem RootMethod.completes : Completes room RootMethod.reader RootMethod.toJson .named :=
  completes_choice (by simp [RootMethod.names, RootMethod.toJson, RootMethod.name])

def ChrootArgs.completion : Completion :=
  .record [⟨"root", .plain, .required⟩, ⟨"method", .named, .required⟩]

theorem ChrootArgs.completes : Completes room ChrootArgs.reader ChrootArgs.toJson ChrootArgs.completion :=
  completes_record (by decide) <| .field completes_string rfl <| .field RootMethod.completes rfl <|
    .done fun _ _ ↦ rfl

def MountArgs.completion : Completion :=
  .record [⟨"source", .plain, .required⟩, ⟨"target", .plain, .required⟩,
    ⟨"filesystem", .plain, .filled (.string "")⟩, ⟨"flags", .plain, .filled (.integer 0)⟩,
    ⟨"data", .plain, .filled (.string "")⟩, ⟨"options", .list .plain, .unlessEmpty⟩]

theorem MountArgs.completes : Completes room MountArgs.reader MountArgs.toJson MountArgs.completion :=
  completes_record (by decide) <| .field completes_string rfl <| .field completes_string rfl <|
    .field completes_string rfl <| .field completes_uint64 rfl <| .field completes_string rfl <|
    .field completes_strings rfl <| .done fun options _ _ _ _ _ ↦ by cases options <;> rfl

namespace Request

/-- The completions of the arguments by operation. -/
def completions : List (String × Completion) :=
  [("Mount", MountArgs.completion), ("Decrypt", CryptArgs.completion), ("Mkdir", MkdirArgs.completion),
    ("Chroot", ChrootArgs.completion), ("LoopDevice", LoopArgs.completion),
    ("SetHostname", HostnameArgs.completion), ("SetFsId", SetFsIdArgs.completion),
    ("Chdir", ChdirArgs.completion)]

def completion : Completion := .tagged "method" "args" completions

/-- A request that is read from arguments is written with the completion of these. -/
theorem toJson_of_ofArgs {α : Type} {make : α → Request} {read : Json.Reader α} {write : α → Json}
    {complete : Completion} {name : String} (h : ∀ room, Completes room read write complete)
    (hmake : ∀ args, (make args).toJson = .object [("method", .string name), ("args", write args)])
    {inside : Position} {part : Json.Document} {request : Request}
    (hread : ofArgs make read inside part = .ok request) :
    request.toJson = .object [("method", .string name), ("args", complete part)] := by
  cases hargs : read inside part with
  | error error => simp [ofArgs, hargs, Except.map] at hread
  | ok args =>
    simp only [ofArgs, hargs, Except.map, Except.ok.injEq] at hread
    rw [← hread, hmake, (h _).write_eq (Nat.le_refl _) hargs]

theorem completes : Completes room reader toJson completion := by
  refine completes_tagged (by decide) ?_
  simp only [variants, List.forall_mem_cons]
  exact ⟨⟨_, rfl, toJson_of_ofArgs (fun _ ↦ MountArgs.completes) fun _ ↦ rfl⟩,
    ⟨_, rfl, toJson_of_ofArgs (fun _ ↦ CryptArgs.completes) fun _ ↦ rfl⟩,
    ⟨_, rfl, toJson_of_ofArgs (fun _ ↦ MkdirArgs.completes) fun _ ↦ rfl⟩,
    ⟨_, rfl, toJson_of_ofArgs (fun _ ↦ ChrootArgs.completes) fun _ ↦ rfl⟩,
    ⟨_, rfl, toJson_of_ofArgs (fun _ ↦ LoopArgs.completes) fun _ ↦ rfl⟩,
    ⟨_, rfl, toJson_of_ofArgs (fun _ ↦ HostnameArgs.completes) fun _ ↦ rfl⟩,
    ⟨_, rfl, toJson_of_ofArgs (fun _ ↦ SetFsIdArgs.completes) fun _ ↦ rfl⟩,
    ⟨_, rfl, toJson_of_ofArgs (fun _ ↦ ChdirArgs.completes) fun _ ↦ rfl⟩, List.forall_mem_nil _⟩

end Request

/-! ## Machine and container -/

def RuntimeConfig.completion : Completion :=
  .record [⟨"state_dir", .plain, .filled (.string "/var/lib/stockade")⟩,
    ⟨"max_loop_devices", .plain, .filled (.integer 256)⟩]

theorem RuntimeConfig.completes :
    Completes room RuntimeConfig.reader RuntimeConfig.toJson RuntimeConfig.completion :=
  completes_record (by decide) <| .field completes_string rfl <| .field completes_uint32 rfl <|
    .done fun _ _ ↦ rfl

def NamespaceRequest.completion : Completion :=
  .record [⟨"pid", .plain, .filled (.bool false)⟩, ⟨"mount", .plain, .filled (.bool false)⟩,
    ⟨"network", .plain, .filled (.bool false)⟩, ⟨"user", .plain, .filled (.bool false)⟩,
    ⟨"ipc", .plain, .filled (.bool false)⟩, ⟨"uts", .plain, .filled (.bool false)⟩]

theorem NamespaceRequest.completes :
    Completes room NamespaceRequest.reader NamespaceRequest.toJson NamespaceRequest.completion :=
  completes_record (by decide) <| .field completes_bool rfl <| .field completes_bool rfl <|
    .field completes_bool rfl <| .field completes_bool rfl <| .field completes_bool rfl <|
    .field completes_bool rfl <| .done fun _ _ _ _ _ _ ↦ rfl

def ProcessIdentity.completion : Completion :=
  .record [⟨"uid", .plain, .required⟩, ⟨"gid", .plain, .required⟩]

theorem ProcessIdentity.completes :
    Completes room ProcessIdentity.reader ProcessIdentity.toJson ProcessIdentity.completion :=
  completes_record (by decide) <| .field completes_uint32 rfl <| .field completes_uint32 rfl <|
    .done fun _ _ ↦ rfl

def ContainerConfig.completion (freshId : String) : Completion :=
  .record [⟨"engine_name", .plain, .required⟩, ⟨"container_id", .plain, .filled (.string freshId)⟩,
    ⟨"namespaces", NamespaceRequest.completion, .filled (.object [("pid", .bool false), ("mount", .bool false),
      ("network", .bool false), ("user", .bool false), ("ipc", .bool false), ("uts", .bool false)])⟩,
    ⟨"identity", .optional ProcessIdentity.completion, .filled .null⟩,
    ⟨"engine_config", .payload, .filled .null⟩]

/-- A container without an id is written with the fresh one. -/
theorem ContainerConfig.completes (freshId : String) :
    Completes Position.maximalDepth (ContainerConfig.reader freshId) ContainerConfig.toJson
      (ContainerConfig.completion freshId) := by
  have hnodup : ["engine_name", "container_id", "namespaces", "identity", "engine_config"].Nodup := by decide
  exact completes_record hnodup <| .field completes_string rfl <| .field completes_string rfl <|
    .field NamespaceRequest.completes rfl <| .field (completes_optional ProcessIdentity.completes) rfl <|
    .field completes_json rfl <| .done fun _ _ _ _ _ ↦ rfl

def ConstructionPlan.completion : Completion := .list Request.completion

theorem ConstructionPlan.completes :
    Completes room ConstructionPlan.reader ConstructionPlan.toJson ConstructionPlan.completion where
  write_eq {position document plan} hroom hread := by
    cases hsteps : Json.Reader.list Request.reader position document with
    | error error => simp [reader, hsteps, Except.map] at hread
    | ok steps =>
      simp only [reader, hsteps, Except.map, Except.ok.injEq] at hread
      subst hread
      exact (completes_list Request.completes).write_eq hroom hsteps

def RunConfig.completion (freshId : String) : Completion :=
  .record [⟨"common", ContainerConfig.completion freshId, .required⟩,
    ⟨"plan", ConstructionPlan.completion, .filled (.array [])⟩]

theorem RunConfig.completes (freshId : String) :
    Completes Position.maximalDepth (RunConfig.reader freshId) RunConfig.toJson
      (RunConfig.completion freshId) := by
  have hnodup : ["common", "plan"].Nodup := by decide
  exact completes_record hnodup <| .field (ContainerConfig.completes freshId) rfl <|
    .field ConstructionPlan.completes rfl <| .done fun _ _ ↦ rfl

example : RunConfig.completion "fresh"
    (.object [(some "common", .object [(some "engine_name", .string (some "standard"))] true)] true) =
      .object [("common", .object [("engine_name", .string "standard"), ("container_id", .string "fresh"),
        ("namespaces", NamespaceRequest.shared.toJson), ("identity", .null), ("engine_config", .null)]),
        ("plan", .array [])] := rfl

/-! ## Engines -/

def StandardConfig.completion : Completion :=
  .record [⟨"args", .list .plain, .required⟩, ⟨"env", .list .plain, .filled (.array [])⟩,
    ⟨"cwd", .optional .plain, .filled .null⟩]

theorem StandardConfig.completes :
    Completes room StandardConfig.reader StandardConfig.toJson StandardConfig.completion :=
  completes_record (by decide) <| .field completes_strings rfl <| .field completes_strings rfl <|
    .field (completes_optional completes_string) rfl <| .done fun _ _ _ ↦ rfl

def OciUser.completion : Completion := .record [⟨"uid", .plain, .required⟩, ⟨"gid", .plain, .required⟩]

theorem OciUser.completes : Completes room OciUser.reader OciUser.toJson OciUser.completion :=
  completes_record (by decide) <| .field completes_uint32 rfl <| .field completes_uint32 rfl <|
    .done fun _ _ ↦ rfl

def OciProcess.completion : Completion :=
  .record [⟨"terminal", .plain, .filled (.bool false)⟩,
    ⟨"user", OciUser.completion, .filled (.object [("uid", .integer 0), ("gid", .integer 0)])⟩,
    ⟨"args", .list .plain, .filled (.array [])⟩, ⟨"env", .list .plain, .filled (.array [])⟩,
    ⟨"cwd", .plain, .filled (.string "/")⟩]

theorem OciProcess.completes : Completes room OciProcess.reader OciProcess.toJson OciProcess.completion :=
  completes_record (by decide) <| .field completes_bool rfl <| .field OciUser.completes rfl <|
    .field completes_strings rfl <| .field completes_strings rfl <| .field completes_string rfl <|
    .done fun _ _ _ _ _ ↦ rfl

def OciRoot.completion : Completion :=
  .record [⟨"path", .plain, .required⟩, ⟨"readonly", .plain, .filled (.bool false)⟩]

theorem OciRoot.completes : Completes room OciRoot.reader OciRoot.toJson OciRoot.completion :=
  completes_record (by decide) <| .field completes_string rfl <| .field completes_bool rfl <|
    .done fun _ _ ↦ rfl

def OciSpec.completion : Completion :=
  .record [⟨"ociVersion", .plain, .filled (.string "")⟩,
    ⟨"process", .optional OciProcess.completion, .filled .null⟩,
    ⟨"root", .optional OciRoot.completion, .filled .null⟩, ⟨"hostname", .optional .plain, .filled .null⟩]

theorem OciSpec.completes : Completes room OciSpec.reader OciSpec.toJson OciSpec.completion :=
  completes_record (by decide) <| .field completes_string rfl <|
    .field (completes_optional OciProcess.completes) rfl <|
    .field (completes_optional OciRoot.completes) rfl <|
    .field (completes_optional completes_string) rfl <| .done fun _ _ _ _ ↦ rfl

def OciConfig.completion : Completion :=
  .record [⟨"bundle", .plain, .required⟩, ⟨"spec", .optional OciSpec.completion, .filled .null⟩]

theorem OciConfig.completes : Completes room OciConfig.reader OciConfig.toJson OciConfig.completion :=
  completes_record (by decide) <| .field completes_string rfl <|
    .field (completes_optional OciSpec.completes) rfl <| .done fun _ _ ↦ rfl

def BuildConfig.completion : Completion :=
  .record [⟨"rootfs", .plain, .required⟩, ⟨"sections", .list .plain, .filled (.array [.string "all"])⟩,
    ⟨"no_test", .plain, .filled (.bool false)⟩, ⟨"env", .list .plain, .filled (.array [])⟩,
    ⟨"post", .optional .plain, .filled .null⟩, ⟨"test", .optional .plain, .filled .null⟩]

theorem BuildConfig.completes : Completes room BuildConfig.reader BuildConfig.toJson BuildConfig.completion :=
  completes_record (by decide) <| .field completes_string rfl <| .field completes_strings rfl <|
    .field completes_bool rfl <| .field completes_strings rfl <|
    .field (completes_optional completes_string) rfl <|
    .field (completes_optional completes_string) rfl <| .done fun _ _ _ _ _ _ ↦ rfl

end ContainerConstruction
