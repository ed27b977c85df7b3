import ContainerConstruction.Proofs.Config.Completion
import ContainerConstruction.Proofs.Json.Restores
import ContainerConstruction.Proofs.Json.Words
import ContainerConstruction.Proofs.Request.RoundTrip

/-!
# Configurations are read back

A configuration is read back from its text, and every accepted text is, once it has been written again, a
text that stays as it is.  Only two types hold a payload that the rest of the program does not look into: there
the payload has to be one that can be kept as it stands.
-/

namespace ContainerConstruction

open Json (Completion Document Position Reader)
open Json.Reader (Completes Recovers Restores Supplies built_of_record recovers_bool recovers_optional
  recovers_record recovers_string recovers_uint32 restores_json restores_record)

/-! ## Values without a payload -/

theorem recovers_strings : Recovers (Json.Reader.list Json.Reader.string) Json.strings 1 := recovers_string.list

theorem RuntimeConfig.recovers : Recovers RuntimeConfig.reader RuntimeConfig.toJson 1 :=
  recovers_record (by decide) fun _ ↦ .field (recovers_string.restores (Nat.le_refl 0) _) <|
    .field (recovers_uint32.restores (Nat.le_refl 0) _) <| .done _

theorem NamespaceRequest.recovers : Recovers NamespaceRequest.reader NamespaceRequest.toJson 1 := by
  have hbool := recovers_bool.restores (Nat.le_refl 0)
  exact recovers_record (by decide) fun _ ↦ .field (hbool _) <| .field (hbool _) <| .field (hbool _) <|
    .field (hbool _) <| .field (hbool _) <| .field (hbool _) <| .done _

theorem ProcessIdentity.recovers : Recovers ProcessIdentity.reader ProcessIdentity.toJson 1 := by
  have hid := recovers_uint32.restores (Nat.le_refl 0)
  exact recovers_record (by decide) fun _ ↦ .field (hid _) <| .field (hid _) <| .done _

theorem ConstructionPlan.recovers : Recovers ConstructionPlan.reader ConstructionPlan.toJson 4 where
  exact plan := Request.conforms.recovers.list.exact plan.steps
  read_eq plan _ hdepth := by
    have hsteps := Request.conforms.recovers.list.read_eq plan.steps hdepth
    simp only [reader, toJson, hsteps, Except.map]

theorem StandardConfig.recovers : Recovers StandardConfig.reader StandardConfig.toJson 2 := by
  have htexts := recovers_strings.restores (Nat.le_refl 1)
  have htext := (recovers_optional recovers_string fun _ ↦ nofun).restores (Nat.zero_le 1)
  exact recovers_record (by decide) fun _ ↦ .field (htexts _) <| .field (htexts _) <| .field (htext _) <|
    .done _

theorem OciUser.recovers : Recovers OciUser.reader OciUser.toJson 1 := by
  have hid := recovers_uint32.restores (Nat.le_refl 0)
  exact recovers_record (by decide) fun _ ↦ .field (hid _) <| .field (hid _) <| .done _

theorem OciProcess.recovers : Recovers OciProcess.reader OciProcess.toJson 2 := by
  have hterminal := recovers_bool.restores (Nat.zero_le 1)
  have huser := OciUser.recovers.restores (Nat.le_refl 1)
  have htexts := recovers_strings.restores (Nat.le_refl 1)
  have hcwd := recovers_string.restores (Nat.zero_le 1)
  exact recovers_record (by decide) fun _ ↦ .field (hterminal _) <| .field (huser _) <|
    .field (htexts _) <| .field (htexts _) <| .field (hcwd _) <| .done _

theorem OciRoot.recovers : Recovers OciRoot.reader OciRoot.toJson 1 :=
  recovers_record (by decide) fun _ ↦ .field (recovers_string.restores (Nat.le_refl 0) _) <|
    .field (recovers_bool.restores (Nat.le_refl 0) _) <| .done _

theorem OciSpec.recovers : Recovers OciSpec.reader OciSpec.toJson 3 := by
  have hversion := recovers_string.restores (Nat.zero_le 2)
  have hprocess := (recovers_optional OciProcess.recovers fun _ ↦ nofun).restores (Nat.le_refl 2)
  have hroot := (recovers_optional OciRoot.recovers fun _ ↦ nofun).restores (Nat.le_succ 1)
  have hhostname := (recovers_optional recovers_string fun _ ↦ nofun).restores (Nat.zero_le 2)
  exact recovers_record (by decide) fun _ ↦ .field (hversion _) <| .field (hprocess _) <|
    .field (hroot _) <| .field (hhostname _) <| .done _

theorem OciConfig.recovers : Recovers OciConfig.reader OciConfig.toJson 4 := by
  have hbundle := recovers_string.restores (Nat.zero_le 3)
  have hspec := (recovers_optional OciSpec.recovers fun _ ↦ nofun).restores (Nat.le_refl 3)
  exact recovers_record (by decide) fun _ ↦ .field (hbundle _) <| .field (hspec _) <| .done _

theorem BuildConfig.recovers : Recovers BuildConfig.reader BuildConfig.toJson 2 := by
  have htext := recovers_string.restores (Nat.zero_le 1)
  have htexts := recovers_strings.restores (Nat.le_refl 1)
  have hflag := recovers_bool.restores (Nat.zero_le 1)
  have hscript := (recovers_optional recovers_string fun _ ↦ nofun).restores (Nat.zero_le 1)
  exact recovers_record (by decide) fun _ ↦ .field (htext _) <| .field (htexts _) <| .field (hflag _) <|
    .field (htexts _) <| .field (hscript _) <| .field (hscript _) <| .done _

/-! ## Values with a payload -/

/-- A container is restored at any place where its payload is. -/
theorem ContainerConfig.restores {config : ContainerConfig} {depth : Nat} (hdepth : 1 ≤ depth)
    (hpayload : config.engineConfig.IsPayload depth) (freshId : String) :
    Restores (ContainerConfig.reader freshId) config.toJson (depth + 1) config := by
  have htext := recovers_string.restores (Nat.zero_le depth)
  have hnamespaces := NamespaceRequest.recovers.restores hdepth
  have hidentity := (recovers_optional ProcessIdentity.recovers fun _ ↦ nofun).restores hdepth
  exact restores_record (by decide) <| .field (htext _) <| .field (htext _) <| .field (hnamespaces _) <|
    .field (hidentity _) <| .field (restores_json hpayload) <| .done _

theorem RunConfig.restores {config : RunConfig} {depth : Nat} (hdepth : 3 ≤ depth)
    (hpayload : config.container.engineConfig.IsPayload depth) (freshId : String) :
    Restores (RunConfig.reader freshId) config.toJson (depth + 2) config := by
  have hcontainer := ContainerConfig.restores (Nat.le_trans (by decide) hdepth) hpayload freshId
  have hplan := ConstructionPlan.recovers.restores (Nat.succ_le_succ hdepth) config.plan
  exact restores_record (by decide) <| .field hcontainer <| .field hplan <| .done _

/-- A payload that is given or left out is kept as it stands. -/
theorem isPayload_of_supplies {inside : Position} {part : Option Document} {payload : Json}
    (hwords : ∀ document ∈ part, document.HasWords)
    (h : Supplies inside Json.Reader.json (some .null) part payload) (hintegral : payload.IsIntegral) :
    payload.IsPayload inside.depth := by
  cases part with
  | none =>
    cases h
    exact Json.isPayload_null inside.depth
  | some document =>
    simp only [Supplies, Json.Reader.json] at h
    split at h <;> cases h
    rename_i hvalue
    exact (hwords document rfl).isPayload hvalue hintegral

/-- The payload of a container that was read is kept as it stands. -/
theorem ContainerConfig.isPayload_of_read {freshId : String} {position : Position} {document : Document}
    {config : ContainerConfig} (h : ContainerConfig.reader freshId position document = .ok config)
    (hwords : document.HasWords) (hintegral : config.engineConfig.IsIntegral) :
    ∃ inside, position.enter = .ok inside ∧ config.engineConfig.IsPayload inside.depth := by
  obtain ⟨inside, henter, hbuilt⟩ := built_of_record
    (.field <| .field <| .field <| .field <| .field <| .done _) (by decide) h
  obtain ⟨_, _, rfl, -, hbuilt⟩ := hbuilt.exists_field
  obtain ⟨_, _, rfl, -, hbuilt⟩ := hbuilt.exists_field
  obtain ⟨_, _, rfl, -, hbuilt⟩ := hbuilt.exists_field
  obtain ⟨_, _, rfl, -, hbuilt⟩ := hbuilt.exists_field
  obtain ⟨payload, _, rfl, hpayload, hbuilt⟩ := hbuilt.exists_field
  cases hbuilt
  refine ⟨inside, henter, isPayload_of_supplies (fun part hpart ↦ ?_) hpayload hintegral⟩
  exact hwords.part (Document.part_of_part? hpart)

/-- So is that of the container that is run. -/
theorem RunConfig.isPayload_of_read {freshId : String} {position : Position} {document : Document}
    {config : RunConfig} (h : RunConfig.reader freshId position document = .ok config)
    (hwords : document.HasWords) (hintegral : config.container.engineConfig.IsIntegral) :
    ∃ inside further, position.enter = .ok inside ∧ inside.enter = .ok further ∧
      config.container.engineConfig.IsPayload further.depth := by
  obtain ⟨inside, henter, hbuilt⟩ := built_of_record (.field <| .field <| .done _) (by decide) h
  obtain ⟨container, _, rfl, hcontainer, hbuilt⟩ := hbuilt.exists_field
  obtain ⟨plan, _, rfl, -, hbuilt⟩ := hbuilt.exists_field
  cases hbuilt
  cases hpart : document.part? _ "common" with
  | none =>
    rw [hpart] at hcontainer
    cases hcontainer
  | some part =>
    rw [hpart] at hcontainer
    obtain ⟨further, hfurther, hpayload⟩ := ContainerConfig.isPayload_of_read hcontainer
      (hwords.part (Document.part_of_part? hpart)) hintegral
    exact ⟨inside, further, henter, hfurther, hpayload⟩

/-! ## Texts -/

def documentOf (text : String) : Document := (Document.scan (text.toList.map some)).1

/-- A text that was read, written again. -/
def rewritten {α : Type} (read : Reader α) (write : α → Json) (text : String) : Except Json.ReadError String :=
  (read.ofText text).map fun value ↦ (write value).render

/-- What holds of a type of configurations.  A reader is given the name that a container gets if it has none,
and `payload?` is the part of a value that nobody but an engine looks into. -/
structure RoundTripLaws {α : Type} (read : String → Reader α) (write : α → Json) (payload? : α → Option Json)
    (complete : String → Completion) : Prop where
  /-- A value is read back from its text if no more containers are nested than may be opened, and its payload
  is sorted and has no other numbers than 64-bit integers. -/
  recovers (value : α) (hnesting : (write value).nesting ≤ Position.maximalDepth)
    (hpayload : ∀ payload ∈ payload? value, payload.IsSorted ∧ payload.IsExact) (freshId : String) :
    (read freshId).ofText (write value).render = .ok value
  /-- What is written for an accepted text is accepted, gives the same value and is written as the same text,
  whatever other name is fresh by then.  Only decimals in the payload are left out of this. -/
  settles {freshId text : String} {value : α} (h : (read freshId).ofText text = .ok value)
    (hpayload : ∀ payload ∈ payload? value, payload.IsIntegral) (other : String) :
    (read other).ofText (write value).render = .ok value ∧
      rewritten (read other) write (write value).render = .ok (write value).render
  /-- What is written for an accepted text is the completion of its document. -/
  completes {freshId text : String} {value : α} (h : (read freshId).ofText text = .ok value) :
    write value = complete freshId (documentOf text)

section

variable {α : Type} {read : Reader α} {write : α → Json}

/-- What was rendered is read as it was. -/
theorem ofText_render {json : Json} {value : α} (h : Restores read json Position.maximalDepth value) :
    read.ofText json.render = .ok value := by
  have hscan := Document.scan_print h.exact
  have hread : read .top (Document.ofJson json) = .ok value := h.read_eq (Nat.le_refl _)
  rw [Json.Reader.ofText, Json.render, String.toList_ofList, Json.Reader.ofInput, hscan]
  simp only [hread, if_true]

theorem read_of_ofText {text : String} {value : α} (h : read.ofText text = .ok value) :
    read .top (documentOf text) = .ok value := by
  unfold Json.Reader.ofText Json.Reader.ofInput at h
  dsimp only at h
  cases hread : read .top (Document.scan (text.toList.map some)).1 with
  | error error => simp [hread] at h
  | ok given =>
    simp only [hread] at h
    split_ifs at h
    cases h
    exact hread

/-- A value that is read back from its text is written as that text again. -/
theorem rewritten_render {value : α} (h : read.ofText (write value).render = .ok value) :
    rewritten read write (write value).render = .ok (write value).render := by
  rw [rewritten, h, Except.map]

/-- The laws of the round trip hold of a type without a payload. -/
theorem roundTripLaws_of_recovers {depth : Nat} {complete : Completion} (h : Recovers read write depth)
    (hdepth : depth ≤ Position.maximalDepth) (hcompletes : Completes Position.maximalDepth read write complete) :
    RoundTripLaws (fun _ ↦ read) write (fun _ ↦ none) fun _ ↦ complete where
  recovers value _ _ _ := ofText_render (h.restores hdepth value)
  settles {_ _ value} _ _ _ := by
    have hread := ofText_render (h.restores hdepth value)
    exact ⟨hread, rewritten_render hread⟩
  completes hread := hcompletes.write_eq (Nat.le_refl _) (read_of_ofText hread)

end

/-- The payload of a container has to be one that a document can hold. -/
theorem ContainerConfig.roundTripLaws :
    RoundTripLaws ContainerConfig.reader ContainerConfig.toJson (fun config ↦ some config.engineConfig)
      ContainerConfig.completion where
  recovers config hnesting hpayload freshId := by
    obtain ⟨hsorted, hexact⟩ := hpayload _ rfl
    have hdepth : config.engineConfig.nesting ≤ 126 :=
      Json.nesting_object_le.mp hnesting ("engine_config", config.engineConfig) (by simp)
    exact ofText_render (ContainerConfig.restores (by decide) ⟨hsorted, hexact, hdepth⟩ freshId)
  settles {freshId text config} h hpayload other := by
    obtain ⟨inside, henter, hkept⟩ := ContainerConfig.isPayload_of_read (read_of_ofText h)
      (Document.hasWords_scan _) (hpayload _ rfl)
    cases henter
    have hread := ofText_render (ContainerConfig.restores (by decide) hkept other)
    exact ⟨hread, rewritten_render hread⟩
  completes {freshId text config} h :=
    (ContainerConfig.completes freshId).write_eq (Nat.le_refl _) (read_of_ofText h)

theorem RunConfig.roundTripLaws :
    RoundTripLaws RunConfig.reader RunConfig.toJson (fun config ↦ some config.container.engineConfig)
      RunConfig.completion where
  recovers config hnesting hpayload freshId := by
    obtain ⟨hsorted, hexact⟩ := hpayload _ rfl
    have hcontainer : config.container.toJson.nesting ≤ 126 :=
      Json.nesting_object_le.mp hnesting ("common", config.container.toJson) (by simp)
    have hdepth : config.container.engineConfig.nesting ≤ 125 :=
      Json.nesting_object_le.mp hcontainer ("engine_config", config.container.engineConfig) (by simp)
    exact ofText_render (RunConfig.restores (by decide) ⟨hsorted, hexact, hdepth⟩ freshId)
  settles {freshId text config} h hpayload other := by
    obtain ⟨inside, further, henter, hfurther, hkept⟩ := RunConfig.isPayload_of_read (read_of_ofText h)
      (Document.hasWords_scan _) (hpayload _ rfl)
    cases henter
    cases hfurther
    have hread := ofText_render (RunConfig.restores (by decide) hkept other)
    exact ⟨hread, rewritten_render hread⟩
  completes {freshId text config} h :=
    (RunConfig.completes freshId).write_eq (Nat.le_refl _) (read_of_ofText h)

/-- Every type of configuration is read back, settles and is completed. -/
theorem configuration_round_trip :
    RoundTripLaws (fun _ ↦ RuntimeConfig.reader) RuntimeConfig.toJson (fun _ ↦ none)
      (fun _ ↦ RuntimeConfig.completion) ∧
    RoundTripLaws (fun _ ↦ NamespaceRequest.reader) NamespaceRequest.toJson (fun _ ↦ none)
      (fun _ ↦ NamespaceRequest.completion) ∧
    RoundTripLaws ContainerConfig.reader ContainerConfig.toJson (fun config ↦ some config.engineConfig)
      ContainerConfig.completion ∧
    RoundTripLaws (fun _ ↦ ConstructionPlan.reader) ConstructionPlan.toJson (fun _ ↦ none)
      (fun _ ↦ ConstructionPlan.completion) ∧
    RoundTripLaws RunConfig.reader RunConfig.toJson (fun config ↦ some config.container.engineConfig)
      RunConfig.completion ∧
    RoundTripLaws (fun _ ↦ StandardConfig.reader) StandardConfig.toJson (fun _ ↦ none)
      (fun _ ↦ StandardConfig.completion) ∧
    RoundTripLaws (fun _ ↦ OciSpec.reader) OciSpec.toJson (fun _ ↦ none) (fun _ ↦ OciSpec.completion) ∧
    RoundTripLaws (fun _ ↦ OciConfig.reader) OciConfig.toJson (fun _ ↦ none) (fun _ ↦ OciConfig.completion) ∧
    RoundTripLaws (fun _ ↦ BuildConfig.reader) BuildConfig.toJson (fun _ ↦ none)
      (fun _ ↦ BuildConfig.completion) :=
  ⟨roundTripLaws_of_recovers RuntimeConfig.recovers (by decide) RuntimeConfig.completes,
    roundTripLaws_of_recovers NamespaceRequest.recovers (by decide) NamespaceRequest.completes,
    ContainerConfig.roundTripLaws,
    roundTripLaws_of_recovers ConstructionPlan.recovers (by decide) ConstructionPlan.completes,
    RunConfig.roundTripLaws,
    roundTripLaws_of_recovers StandardConfig.recovers (by decide) StandardConfig.completes,
    roundTripLaws_of_recovers OciSpec.recovers (by decide) OciSpec.completes,
    roundTripLaws_of_recovers OciConfig.recovers (by decide) OciConfig.completes,
    roundTripLaws_of_recovers BuildConfig.recovers (by decide) BuildConfig.completes⟩

/-- A container with a payload that holds the largest integer is read back although another name is fresh, and
its text settles. -/
theorem configuration_round_trip_container :
    let payload : Json := .object [("args", .strings ["/bin/true"]), ("limit", .integer 18446744073709551615)]
    let config : ContainerConfig := ⟨"standard", "one", .shared, some ⟨0, 0⟩, payload⟩
    (ContainerConfig.reader "two").ofText config.toJson.render = .ok config ∧
      rewritten (ContainerConfig.reader "two") ContainerConfig.toJson config.toJson.render =
        .ok config.toJson.render := by
  intro payload config
  have hsorted : payload.IsSorted :=
    Document.isSorted_of_toJson? (show (Document.ofJson payload).toJson? 2 = some payload by rfl)
  have hexact : payload.IsExact := ⟨⟨trivial, trivial⟩, ⟨by decide, by decide⟩, trivial⟩
  have hlaws := configuration_round_trip.2.2.1
  have hread := hlaws.recovers config (by decide) (by rintro _ ⟨⟩; exact ⟨hsorted, hexact⟩) "two"
  exact hlaws.settles hread (by rintro _ ⟨⟩; exact hexact.isIntegral) "two"

end ContainerConstruction
