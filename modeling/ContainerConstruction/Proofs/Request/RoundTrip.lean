import ContainerConstruction.Proofs.Json.Tagged
import ContainerConstruction.Proofs.Text.Utf8
import ContainerConstruction.Server.Basic
import ContainerConstruction.Server.Client

/-!
# Requests and responses are read back

Every type that is sent has a layout, to which its reader conforms.  Every request and every response is
therefore read back from its payload, down to the bytes: the server handles the request that the client sent,
and the client sees the response that was given.
-/

namespace ContainerConstruction

open Json (Layout Reader)
open Json.Reader (Conforms Recovers conforms_bool conforms_choice conforms_int32 conforms_record conforms_string
  conforms_tagged conforms_uint32 conforms_uint64 conforms_variant recovers_string recovers_uint8)

/-! ## Arguments -/

def MkdirArgs.layout : Layout := .record [("path", .fixed, none), ("mode", .fixed, none)]

theorem MkdirArgs.conforms : Conforms MkdirArgs.reader MkdirArgs.layout MkdirArgs.toJson 1 :=
  conforms_record (by decide) fun _ ↦ .field conforms_string (.field conforms_uint32 (.done _))

def HostnameArgs.layout : Layout := .record [("hostname", .fixed, none)]

theorem HostnameArgs.conforms : Conforms HostnameArgs.reader HostnameArgs.layout HostnameArgs.toJson 1 :=
  conforms_record (by decide) fun _ ↦ .field conforms_string (.done _)

def SetFsIdArgs.layout : Layout := .record [("uid", .fixed, none), ("gid", .fixed, none)]

theorem SetFsIdArgs.conforms : Conforms SetFsIdArgs.reader SetFsIdArgs.layout SetFsIdArgs.toJson 1 :=
  conforms_record (by decide) fun _ ↦ .field conforms_uint32 (.field conforms_uint32 (.done _))

def ChdirArgs.layout : Layout := .record [("dir", .fixed, none)]

theorem ChdirArgs.conforms : Conforms ChdirArgs.reader ChdirArgs.layout ChdirArgs.toJson 1 :=
  conforms_record (by decide) fun _ ↦ .field conforms_string (.done _)

def CryptArgs.layout : Layout :=
  .record [("key", .fixed, none), ("loop_device", .fixed, none), ("master_pid", .fixed, some (.integer 0))]

/-- A key is a list of bytes, which takes one more container. -/
theorem CryptArgs.conforms : Conforms CryptArgs.reader CryptArgs.layout CryptArgs.toJson 2 := by
  have hkey := recovers_uint8.conforms_list fun _ ↦ rfl
  have htext := conforms_string.mono (Nat.zero_le 1)
  have hpid := conforms_int32.mono (Nat.zero_le 1)
  exact conforms_record (by decide) fun _ ↦ .field hkey (.field htext (.field hpid (.done _)))

def LoopInfo.layout : Layout :=
  .record [("offset", .fixed, some (.integer 0)), ("size_limit", .fixed, some (.integer 0)),
    ("autoclear", .fixed, some (.bool false)), ("read_only", .fixed, some (.bool false))]

theorem LoopInfo.conforms : Conforms LoopInfo.reader LoopInfo.layout LoopInfo.toJson 1 :=
  conforms_record (by decide) fun _ ↦
    .field conforms_uint64 (.field conforms_uint64 (.field conforms_bool (.field conforms_bool (.done _))))

def LoopArgs.layout : Layout :=
  .record [("image", .fixed, none), ("mode", .fixed, none), ("max_devices", .fixed, none),
    ("shared", .fixed, some (.bool false)), ("info", LoopInfo.layout, some LoopInfo.whole.toJson)]

theorem LoopArgs.conforms : Conforms LoopArgs.reader LoopArgs.layout LoopArgs.toJson 2 := by
  have htext := conforms_string.mono (Nat.zero_le 1)
  have hmode := conforms_int32.mono (Nat.zero_le 1)
  have hdevices := conforms_uint32.mono (Nat.zero_le 1)
  have hshared := conforms_bool.mono (Nat.zero_le 1)
  exact conforms_record (by decide) fun _ ↦ .field htext (.field hmode (.field hdevices
    (.field hshared (.field LoopInfo.conforms (.done _)))))

theorem RootMethod.conforms : Conforms RootMethod.reader .fixed RootMethod.toJson 0 :=
  conforms_choice fun method ↦ by cases method <;> rfl

def ChrootArgs.layout : Layout := .record [("root", .fixed, none), ("method", .fixed, none)]

theorem ChrootArgs.conforms : Conforms ChrootArgs.reader ChrootArgs.layout ChrootArgs.toJson 1 :=
  conforms_record (by decide) fun _ ↦ .field conforms_string (.field RootMethod.conforms (.done _))

def MountArgs.layout : Layout :=
  .record [("source", .fixed, none), ("target", .fixed, none), ("filesystem", .fixed, some (.string "")),
    ("flags", .fixed, some (.integer 0)), ("data", .fixed, some (.string "")),
    ("options", .fixed, some (.array []))]

/-- An empty list of options is left out. -/
theorem MountArgs.conforms : Conforms MountArgs.reader MountArgs.layout MountArgs.toJson 2 := by
  have htext := conforms_string.mono (Nat.zero_le 1)
  have hflags := conforms_uint64.mono (Nat.zero_le 1)
  have hoptions := recovers_string.conforms_list fun _ ↦ rfl
  refine conforms_record (by decide) fun args ↦ ?_
  obtain ⟨source, target, filesystem, flags, data, options⟩ := args
  cases options with
  | nil =>
    exact .field htext (.field htext (.field htext (.field hflags (.field htext
      (.absent hoptions (.done _))))))
  | cons option others =>
    exact .field htext (.field htext (.field htext (.field hflags (.field htext
      (.field hoptions (.done _))))))

/-! ## Requests -/

namespace Request

/-- The layouts of the arguments by operation. -/
def cases : List (String × Layout) :=
  [("Mount", MountArgs.layout), ("Decrypt", CryptArgs.layout), ("Mkdir", MkdirArgs.layout),
    ("Chroot", ChrootArgs.layout), ("LoopDevice", LoopArgs.layout), ("SetHostname", HostnameArgs.layout),
    ("SetFsId", SetFsIdArgs.layout), ("Chdir", ChdirArgs.layout)]

def layout : Layout := .tagged "method" "args" cases

/-- Requests conform to their layout, whatever their operation. -/
theorem conforms : Conforms reader layout toJson 3 := by
  refine conforms_tagged (by decide) (fun request ↦ ?_) ?_
  · cases request <;> simp [method, cases]
  · simp only [cases, List.forall_mem_cons]
    refine ⟨⟨_, rfl, .mk mount MountArgs.conforms ?_⟩, ⟨_, rfl, .mk decrypt CryptArgs.conforms ?_⟩,
      ⟨_, rfl, .mk mkdir (MkdirArgs.conforms.mono (Nat.le_succ 1)) ?_⟩,
      ⟨_, rfl, .mk chroot (ChrootArgs.conforms.mono (Nat.le_succ 1)) ?_⟩,
      ⟨_, rfl, .mk loopDevice LoopArgs.conforms ?_⟩,
      ⟨_, rfl, .mk setHostname (HostnameArgs.conforms.mono (Nat.le_succ 1)) ?_⟩,
      ⟨_, rfl, .mk setFsId (SetFsIdArgs.conforms.mono (Nat.le_succ 1)) ?_⟩,
      ⟨_, rfl, .mk chdir (ChdirArgs.conforms.mono (Nat.le_succ 1)) ?_⟩, List.forall_mem_nil _⟩
    -- a request of this name has these arguments
    all_goals
      intro request hname
      cases request <;> simp [method, argsJson] at hname ⊢

end Request

/-! ## Responses -/

def CryptReply.layout : Layout := .record [("device", .fixed, none)]

theorem CryptReply.conforms : Conforms CryptReply.reader CryptReply.layout CryptReply.toJson 1 :=
  conforms_record (by decide) fun _ ↦ .field conforms_string (.done _)

def LoopReply.layout : Layout := .record [("index", .fixed, none)]

theorem LoopReply.conforms : Conforms LoopReply.reader LoopReply.layout LoopReply.toJson 1 :=
  conforms_record (by decide) fun _ ↦ .field conforms_uint32 (.done _)

namespace Reply

def name : Reply → String
  | .unit => "unit"
  | .crypt _ => "crypt"
  | .loop _ => "loop"

def contentJson : Reply → Json
  | .unit => .null
  | .crypt reply => reply.toJson
  | .loop reply => reply.toJson

def cases : List (String × Layout) := [("crypt", CryptReply.layout), ("loop", LoopReply.layout)]

def layout : Layout := .named cases

theorem conforms : Conforms reader layout toJson 2 := by
  refine @conforms_variant _ _ _ _ name contentJson 1 (fun reply ↦ ?_) ?_
  · cases reply with
    | unit => exact .inl ⟨rfl, rfl⟩
    | crypt reply => exact .inr ⟨rfl, by simp [name, cases]⟩
    | loop reply => exact .inr ⟨rfl, by simp [name, cases]⟩
  · simp only [cases, List.forall_mem_cons]
    refine ⟨⟨_, rfl, .mk crypt CryptReply.conforms ?_⟩, ⟨_, rfl, .mk loop LoopReply.conforms ?_⟩,
      List.forall_mem_nil _⟩
    all_goals
      intro reply hname
      cases reply <;> simp [name, contentJson] at hname ⊢

end Reply

theorem ErrorKind.conforms : Conforms ErrorKind.reader .fixed ErrorKind.toJson 0 :=
  conforms_choice fun kind ↦ by cases kind <;> rfl

def RemoteError.layout : Layout := .record [("kind", .fixed, none), ("message", .fixed, none)]

theorem RemoteError.conforms : Conforms RemoteError.reader RemoteError.layout RemoteError.toJson 1 :=
  conforms_record (by decide) fun _ ↦ .field ErrorKind.conforms (.field conforms_string (.done _))

namespace Response

def status : Response → String
  | .ok _ => "ok"
  | .error _ => "error"

def payloadJson : Response → Json
  | .ok reply => reply.toJson
  | .error remote => remote.toJson

theorem toJson_eq (response : Response) :
    response.toJson =
      .object [("status", .string response.status), ("payload", response.payloadJson)] := by
  cases response <;> rfl

def layout : Layout := .tagged "status" "payload" [("ok", Reply.layout), ("error", RemoteError.layout)]

theorem conforms : Conforms reader layout toJson 3 := by
  rw [show toJson = _ from funext toJson_eq]
  refine conforms_tagged (by decide) (fun response ↦ ?_) ?_
  · cases response <;> simp [status]
  · simp only [List.forall_mem_cons]
    refine ⟨⟨_, rfl, .mk ok Reply.conforms ?_⟩,
      ⟨_, rfl, .mk error (RemoteError.conforms.mono (Nat.le_succ 1)) ?_⟩, List.forall_mem_nil _⟩
    all_goals
      intro response hname
      cases response <;> simp [status, payloadJson] at hname ⊢

end Response

/-! ## Payloads -/

/-- A written value is read from its bytes. -/
theorem ofInput_render {α : Type} {read : Reader α} {write : α → Json} {depth : Nat}
    (h : Recovers read write depth) (hdepth : depth ≤ Json.Position.maximalDepth) (value : α) :
    read.ofInput (Text.Utf8.decode (Text.Utf8.ofText (write value).render)) = .ok value := by
  have hscan := Json.Document.scan_print (h.exact value)
  have hread : read .top (Json.Document.ofJson (write value)) = .ok value := h.read_eq value hdepth
  rw [Text.Utf8.decode_ofText, Json.render, String.toList_ofList, Json.Reader.ofInput, hscan]
  simp only [hread, if_true]

/-- The frame of a request is answered as the request. -/
theorem Server.handleFrame_requestPayload {σ : Type} (methods : Methods σ) (request : Request)
    (server : Server σ) :
    server.handleFrame methods (Client.requestPayload request) = server.handle methods request := by
  have hread := ofInput_render Request.conforms.recovers (by decide) request
  simp only [Server.handleFrame, Client.requestPayload, hread]

/-- The payload of a response stands for the result of the response. -/
theorem Client.resultOf_responsePayload (response : Response) :
    Client.resultOf (Server.responsePayload response) = response.result := by
  have hread := ofInput_render Response.conforms.recovers (by decide) response
  simp only [Client.resultOf, Server.responsePayload, hread]

end ContainerConstruction
