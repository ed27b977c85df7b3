import ContainerConstruction.Proofs.Config.RoundTrip
import ContainerConstruction.Proofs.Engine.Init
import ContainerConstruction.Proofs.Json.Extensional

/-!
# Payloads that come to the same

The spec of a bundle may stand in the payload or in the bundle.  It is read from a value in the one case and
from a text in the other, and means the same in both.

What an engine reports as its configuration is again a payload, and a normal form of the one it was given: it is
accepted, needs no file, and is reported as it is.
-/

namespace ContainerConstruction

open Json (Document Position Reader)
open Json.Document (Alike alike_ofJson)
open Json.Reader.Fields (defaulting put putAll required)
open Json.Reader (Extensional Recovers extensional_bool extensional_record extensional_string extensional_uint32)

/-! ## Extensional readers -/

theorem OciUser.extensional : Extensional OciUser.reader :=
  extensional_record (.field extensional_uint32 <| .field extensional_uint32 <| .done _) (by decide)

theorem OciProcess.extensional : Extensional OciProcess.reader :=
  extensional_record (.field extensional_bool <| .field OciUser.extensional <|
    .field extensional_string.list <| .field extensional_string.list <| .field extensional_string <|
    .done _) (by decide)

theorem OciRoot.extensional : Extensional OciRoot.reader :=
  extensional_record (.field extensional_string <| .field extensional_bool <| .done _) (by decide)

theorem OciSpec.extensional : Extensional OciSpec.reader :=
  extensional_record (.field extensional_string <| .field OciProcess.extensional.optional <|
    .field OciRoot.extensional.optional <| .field extensional_string.optional <| .done _) (by decide)

theorem OciConfig.extensional : Extensional OciConfig.reader :=
  extensional_record (.field extensional_string <| .field OciSpec.extensional.optional <| .done _) (by decide)

theorem StandardConfig.extensional : Extensional StandardConfig.reader :=
  extensional_record (.field extensional_string.list <| .field extensional_string.list <|
    .field extensional_string.optional <| .done _) (by decide)

theorem BuildConfig.extensional : Extensional BuildConfig.reader :=
  extensional_record (.field extensional_string <| .field extensional_string.list <|
    .field extensional_bool <| .field extensional_string.list <| .field extensional_string.optional <|
    .field extensional_string.optional <| .done _) (by decide)

/-! ## The spec of a bundle -/

section

variable {α : Type} {read : Reader α} {text : String} {value : α}

/-- A text is read if its document is, and there is nothing behind it. -/
theorem ofText_eq_ok_iff : read.ofText text = .ok value ↔
    read .top (documentOf text) = .ok value ∧ (Document.scan (text.toList.map some)).2 = true := by
  constructor
  · intro h
    refine ⟨read_of_ofText h, ?_⟩
    have hread : read .top (Document.scan (text.toList.map some)).1 = .ok value := read_of_ofText h
    simp only [Json.Reader.ofText, Json.Reader.ofInput, hread] at h
    by_contra hincomplete
    simp [hincomplete] at h
  · rintro ⟨hread, hcomplete⟩
    simp only [documentOf] at hread
    simp only [Json.Reader.ofText, Json.Reader.ofInput, hread, hcomplete, if_true]

/-- A value that is printed exactly is the document of its text. -/
theorem documentOf_render {value : Json} (h : value.IsExact) : documentOf value.render = Document.ofJson value := by
  rw [documentOf, Json.render, String.toList_ofList, Document.scan_print h]

/-- An extensional reader gives the same for a text and for the value of the text. -/
theorem ofText_eq_ok_iff_ofJson {spec : Json} (hread : Extensional read)
    (hspec : Json.Reader.json.ofText text = .ok spec) (hunrepeated : (documentOf text).IsUnrepeated) :
    read.ofText text = .ok value ↔ read.ofJson spec = .ok value := by
  obtain ⟨hvalue, hcomplete⟩ := ofText_eq_ok_iff.mp hspec
  have halike : Alike Position.maximalDepth (documentOf text) (Document.ofJson spec) := by
    refine alike_ofJson hunrepeated ?_
    unfold Json.Reader.json at hvalue
    split at hvalue
    · rename_i given hgiven
      cases hvalue
      exact hgiven
    · cases hvalue
  calc
    read.ofText text = .ok value ↔ read .top (documentOf text) = .ok value := by
      rw [ofText_eq_ok_iff, hcomplete, eq_self, and_true]
    _ ↔ read.ofJson spec = .ok value :=
      ⟨hread.read_eq halike (Nat.le_refl _), hread.read_eq halike.symm (Nat.le_refl _)⟩

end

def bundlePayload (bundle : String) : Json := .object [("bundle", .string bundle)]

def specPayload (bundle : String) (spec : Json) : Json := .object [("bundle", .string bundle), ("spec", spec)]

theorem ofJson_bundlePayload (bundle : String) :
    OciConfig.reader.ofJson (bundlePayload bundle) = .ok ⟨bundle, none⟩ := rfl

theorem ofJson_specPayload (bundle : String) {spec : Json} (hnull : spec ≠ .null) :
    OciConfig.reader.ofJson (specPayload bundle spec) =
      (OciSpec.reader.ofJson spec).map fun spec ↦ ⟨bundle, some spec⟩ := by
  have hdocument := Json.Reader.ofJson_ne_null hnull
  have hspec : Json.Reader.optional OciSpec.reader .memory (Document.ofJson spec) =
      (OciSpec.reader .memory (Document.ofJson spec)).map some := by
    unfold Json.Reader.optional
    split
    · contradiction
    · rfl
  have henter : Position.memory.enter = .ok .memory := rfl
  have hname : ("spec" : String) ≠ "bundle" := by decide
  simp only [Json.Reader.ofJson, specPayload, Document.ofJson, Document.ofMembers, OciConfig.reader,
    Json.Reader.record, required, defaulting, henter, putAll, put, Json.Reader.string, hname, hspec, if_true,
    if_false]
  cases OciSpec.reader .memory (Document.ofJson spec) <;> rfl

namespace Engine

variable {readText : ReadText} {container : ContainerConfig} {attempt : InitAttempt} {config : OciConfig}
  {bundle text : String}

theorem ociConfig_bundlePayload (hpayload : container.engineConfig = bundlePayload bundle)
    (hfile : readText (Path.join bundle OciSpec.fileName) = .ok text) :
    ociConfig readText container = .ok config ↔
      ∃ spec, OciSpec.reader.ofText text = .ok spec ∧ config = ⟨bundle, some spec⟩ := by
  simp only [ociConfig, ContainerConfig.ofPayload, hpayload, ofJson_bundlePayload, OciSpec.ofBundle, hfile,
    OciSpec.ofText]
  cases OciSpec.reader.ofText text <;> simp [Except.map, eq_comm]

theorem ociConfig_specPayload {spec : Json} (hnull : spec ≠ .null)
    (hpayload : container.engineConfig = specPayload bundle spec) :
    ociConfig readText container = .ok config ↔
      ∃ given, OciSpec.reader.ofJson spec = .ok given ∧ config = ⟨bundle, some given⟩ := by
  simp only [ociConfig, ContainerConfig.ofPayload, hpayload, ofJson_specPayload bundle hnull]
  cases OciSpec.reader.ofJson spec <;> simp [Except.map, eq_comm]

/-- What a bundle that was read comes to depends on its defect alone. -/
theorem verdict_oci (h : ociConfig attempt.readText attempt.container = .ok config) :
    (fresh .oci).verdict attempt = ociDefect config := by
  simp only [verdict, fresh, init, h]

theorem attempted_oci (h : ociConfig attempt.readText attempt.container = .ok config) :
    (fresh .oci).attempted attempt = .oci config := by
  simp only [attempted, fresh, init, h]

/-- A bundle that is taken over has been read. -/
theorem exists_of_verdict_oci (h : (fresh .oci).verdict attempt = .ok ()) :
    ∃ config, ociConfig attempt.readText attempt.container = .ok config ∧ ociDefect config = .ok () := by
  cases hread : ociConfig attempt.readText attempt.container with
  | error failure => simp [verdict, fresh, init, hread] at h
  | ok config => exact ⟨config, rfl, verdict_oci hread ▸ h⟩

/-- A spec means the same in the payload and in the bundle: it is accepted in both or in neither, and then the
configuration and the process are the same.  What the spec leaves out has its default. -/
theorem spec_inline_or_bundled {spec : Json} (hspec : Json.Reader.json.ofText text = .ok spec)
    (hnull : spec ≠ .null) (hunrepeated : (documentOf text).IsUnrepeated) (bundled inline : InitAttempt)
    (hbundled : bundled.container.engineConfig = bundlePayload bundle)
    (hfile : bundled.readText (Path.join bundle OciSpec.fileName) = .ok text)
    (hinline : inline.container.engineConfig = specPayload bundle spec) :
    let first := (fresh .oci).attempted bundled
    let second := (fresh .oci).attempted inline
    ((fresh .oci).verdict bundled = .ok () ↔ (fresh .oci).verdict inline = .ok ()) ∧
      ((fresh .oci).verdict bundled = .ok () → second.config = first.config ∧
        (∀ control, second.start control = first.start control) ∧
        first.config = specPayload bundle (OciSpec.completion (documentOf text))) := by
  -- Only the reading differs: what is checked after it depends on the configuration alone.
  have hsame (config : OciConfig) : ociConfig bundled.readText bundled.container = .ok config ↔
      ociConfig inline.readText inline.container = .ok config := by
    rw [ociConfig_bundlePayload hbundled hfile, ociConfig_specPayload hnull hinline]
    simp only [ofText_eq_ok_iff_ofJson OciSpec.extensional hspec hunrepeated]
  intro first second
  constructor
  · constructor
    · intro hverdict
      obtain ⟨config, hread, hdefect⟩ := exists_of_verdict_oci hverdict
      rw [verdict_oci ((hsame config).mp hread), hdefect]
    · intro hverdict
      obtain ⟨config, hread, hdefect⟩ := exists_of_verdict_oci hverdict
      rw [verdict_oci ((hsame config).mpr hread), hdefect]
  · intro hverdict
    obtain ⟨config, hread, -⟩ := exists_of_verdict_oci hverdict
    have hfirst : first = .oci config := attempted_oci hread
    have hsecond : second = .oci config := attempted_oci ((hsame config).mp hread)
    obtain ⟨given, hgiven, rfl⟩ := (ociConfig_bundlePayload hbundled hfile).mp hread
    have hwritten : given.toJson = OciSpec.completion (documentOf text) :=
      OciSpec.completes.write_eq (Nat.le_refl _) (read_of_ofText hgiven)
    refine ⟨by rw [hfirst, hsecond], fun control ↦ by rw [hfirst, hsecond], ?_⟩
    rw [hfirst, ← hwritten]
    rfl

/-- A spec that says no more than what to run. -/
def minimalSpec : Json := .object [("process", .object [("args", .strings ["/bin/true"])])]

theorem isPayload_minimalSpec : minimalSpec.IsPayload Position.maximalDepth where
  sorted := Document.isSorted_of_toJson? (show (Document.ofJson minimalSpec).toJson? 3 = some minimalSpec by rfl)
  exact := ⟨⟨⟨trivial, trivial⟩, trivial⟩, trivial⟩
  nesting_le := by decide

/-- An attempt to configure a bundle that holds this spec. -/
def minimalAttempt : InitAttempt := ⟨fun _ ↦ .ok minimalSpec.render, speclessAttempt.container⟩

/-- The file is read in the one case only, and the process is the same. -/
theorem spec_inline_or_bundled_minimal :
    let inline : InitAttempt := bundleAttempt [("bundle", .string "/second"), ("spec", minimalSpec)]
    let first := (fresh .oci).attempted minimalAttempt
    (fresh .oci).verdict minimalAttempt = .ok () ∧
      first.start (.ok [goByte]) = .ok (.run ⟨["/bin/true"], [], some "/", some 0, some 0⟩) ∧
      ((fresh .oci).attempted inline).config = first.config := by
  intro inline first
  have hunrepeated : (documentOf minimalSpec.render).IsUnrepeated := by
    rw [documentOf_render isPayload_minimalSpec.exact]
    exact Document.isUnrepeated_ofJson isPayload_minimalSpec.sorted.isUnrepeated
  obtain ⟨hverdict, hsame⟩ := spec_inline_or_bundled
    (ofText_render (Json.Reader.restores_json isPayload_minimalSpec)) nofun hunrepeated minimalAttempt inline
    rfl rfl rfl
  have haccepted : (fresh .oci).verdict minimalAttempt = .ok () := hverdict.mpr rfl
  obtain ⟨hconfig, hstart, -⟩ := hsame haccepted
  refine ⟨haccepted, ?_, hconfig⟩
  rw [← hstart]
  rfl

end Engine

/-! ## Payloads that were reported -/

@[simp]
theorem StandardConfig.isUnrepeated (config : StandardConfig) : config.toJson.IsUnrepeated := by
  simp [toJson]

@[simp]
theorem OciUser.isUnrepeated (user : OciUser) : user.toJson.IsUnrepeated := by
  simp [toJson]

@[simp]
theorem OciProcess.isUnrepeated (process : OciProcess) : process.toJson.IsUnrepeated := by
  simp [toJson]

@[simp]
theorem OciRoot.isUnrepeated (root : OciRoot) : root.toJson.IsUnrepeated := by
  simp [toJson]

@[simp]
theorem OciSpec.isUnrepeated (spec : OciSpec) : spec.toJson.IsUnrepeated := by
  simp [toJson]

@[simp]
theorem OciConfig.isUnrepeated (config : OciConfig) : config.toJson.IsUnrepeated := by
  simp [toJson]

@[simp]
theorem BuildConfig.isUnrepeated (config : BuildConfig) : config.toJson.IsUnrepeated := by
  simp [toJson]

/-- A payload that was reported, as it was written or with its members sorted. -/
def IsReport (payload report : Json) : Prop :=
  payload = report ∨ (Document.ofJson report).toJson? Position.maximalDepth = some payload

/-- What is written for a value is read as that value again, also when its members were sorted. -/
theorem ofPayload_of_isReport {α : Type} {read : Reader α} {write : α → Json} {depth : Nat}
    (hrecovers : Recovers read write depth) (hdepth : depth ≤ Position.maximalDepth) (hread : Extensional read)
    {value : α} (hunrepeated : (write value).IsUnrepeated) {container : ContainerConfig}
    (h : IsReport container.engineConfig (write value)) : container.ofPayload read = .ok value := by
  have hwritten : read .memory (Document.ofJson (write value)) = .ok value := hrecovers.read_eq value hdepth
  have hpayload : read.ofJson container.engineConfig = .ok value := by
    obtain hsame | hsorted := h
    · rw [hsame]
      exact hwritten
    · have halike := alike_ofJson (Document.isUnrepeated_ofJson hunrepeated) hsorted
      exact hread.read_eq halike (Nat.le_refl _) hwritten
  rw [ContainerConfig.ofPayload, hpayload]

namespace Engine

variable {attempt again : InitAttempt}

/-- An accepted bundle has a spec, and with it no file is needed. -/
theorem ociConfig_of_ofPayload {config : OciConfig} (hdefect : ociDefect config = .ok ())
    (h : again.container.ofPayload OciConfig.reader = .ok config) :
    ociConfig again.readText again.container = .ok config := by
  cases hspec : config.spec with
  | none => simp [ociDefect, OciConfig.process, hspec] at hdefect
  | some spec => simp only [ociConfig, h, hspec]

/-- What makes an attempt acceptable, and the engine after it. -/
inductive Accepts (attempt : InitAttempt) : Engine → Prop where
  | standard (config : StandardConfig) (hpayload : attempt.container.ofPayload StandardConfig.reader = .ok config)
    (hargs : config.args.isEmpty = false) : Accepts attempt (.standard config attempt.container.identity)
  | oci (config : OciConfig) (hread : ociConfig attempt.readText attempt.container = .ok config)
    (hdefect : ociDefect config = .ok ()) : Accepts attempt (.oci config)
  | imageBuild (config : BuildConfig) (hpayload : attempt.container.ofPayload BuildConfig.reader = .ok config) :
    Accepts attempt (.imageBuild config)

/-- An attempt that succeeds is acceptable. -/
theorem accepts_of_verdict {kind : EngineKind} (h : (fresh kind).verdict attempt = .ok ()) :
    Accepts attempt ((fresh kind).attempted attempt) := by
  cases kind with
  | standard =>
    cases hpayload : attempt.container.ofPayload StandardConfig.reader with
    | error failure => simp [verdict, fresh, init, initStandard, hpayload] at h
    | ok config =>
      cases hargs : config.args.isEmpty with
      | true => simp [verdict, fresh, init, initStandard, hpayload, hargs] at h
      | false =>
        have hengine : (fresh .standard).attempted attempt = .standard config attempt.container.identity := by
          simp [attempted, fresh, init, initStandard, hpayload, hargs]
        rw [hengine]
        exact .standard config hpayload hargs
  | oci =>
    obtain ⟨config, hread, hdefect⟩ := exists_of_verdict_oci h
    rw [attempted_oci hread]
    exact .oci config hread hdefect
  | imageBuild =>
    cases hpayload : attempt.container.ofPayload BuildConfig.reader with
    | error failure => simp [verdict, fresh, init, hpayload] at h
    | ok config =>
      have hengine : (fresh .imageBuild).attempted attempt = .imageBuild config := by
        simp [attempted, fresh, init, hpayload]
      rw [hengine]
      exact .imageBuild config hpayload

theorem Accepts.verdict_eq {engine : Engine} (h : Accepts attempt engine) :
    (fresh engine.kind).verdict attempt = .ok () ∧ (fresh engine.kind).attempted attempt = engine := by
  cases h with
  | standard config hpayload hargs =>
    simp [verdict, attempted, kind, fresh, init, initStandard, hpayload, hargs]
  | oci config hread hdefect => exact ⟨(verdict_oci hread).trans hdefect, attempted_oci hread⟩
  | imageBuild config hpayload => simp [verdict, attempted, kind, fresh, init, hpayload]

/-- What has been reported is accepted again, whatever files there are. -/
theorem Accepts.of_report {engine : Engine} (h : Accepts attempt engine)
    (hreport : IsReport again.container.engineConfig engine.config) :
    ∃ other, Accepts again other ∧ other.kind = engine.kind ∧ other.config = engine.config ∧
      (again.container.identity = attempt.container.identity → other = engine) := by
  cases h with
  | standard config hpayload hargs =>
    have hagain := ofPayload_of_isReport StandardConfig.recovers (by decide) StandardConfig.extensional
      config.isUnrepeated hreport
    exact ⟨_, .standard config hagain hargs, rfl, rfl, fun hidentity ↦ by rw [hidentity]⟩
  | oci config hread hdefect =>
    have hagain := ofPayload_of_isReport OciConfig.recovers (by decide) OciConfig.extensional
      config.isUnrepeated hreport
    exact ⟨_, .oci config (ociConfig_of_ofPayload hdefect hagain) hdefect, rfl, rfl, fun _ ↦ rfl⟩
  | imageBuild config hpayload =>
    have hagain := ofPayload_of_isReport BuildConfig.recovers (by decide) BuildConfig.extensional
      config.isUnrepeated hreport
    exact ⟨_, .imageBuild config hagain, rfl, rfl, fun _ ↦ rfl⟩

/-- A reported configuration is a normal form of the payload: it is accepted without any file and is reported as
it is, and under the same identity the engine starts the same. -/
theorem config_normal (kind : EngineKind) (attempt again : InitAttempt)
    (h : (fresh kind).verdict attempt = .ok ())
    (hreport : IsReport again.container.engineConfig ((fresh kind).attempted attempt).config) :
    let first := (fresh kind).attempted attempt
    let second := (fresh kind).attempted again
    (fresh kind).verdict again = .ok () ∧ second.config = first.config ∧
      (again.container.identity = attempt.container.identity →
        ∀ control, second.start control = first.start control) := by
  intro first second
  obtain ⟨other, haccepts, hkind, hconfig, hsame⟩ := (accepts_of_verdict h).of_report hreport
  have hother : other.kind = kind := by rw [hkind, kind_attempted, kind_fresh]
  obtain ⟨hverdict, hsecond⟩ := haccepts.verdict_eq
  rw [hother] at hverdict hsecond
  have hengine : second = other := hsecond
  refine ⟨hverdict, by rw [hengine, hconfig], fun hidentity control ↦ ?_⟩
  rw [hengine, hsame hidentity]

/-- An attempt with a payload, where no file can be read. -/
def payloadAttempt (payload : Json) : InitAttempt :=
  ⟨fun _ ↦ .error (.errno .noEntry), "oci", "container", .shared, none, payload⟩

theorem isReport_payloadAttempt (report : Json) :
    IsReport (payloadAttempt report).container.engineConfig report := .inl rfl

theorem minimalSpec_ofText : OciSpec.reader.ofText minimalSpec.render =
    .ok ⟨"", some ⟨false, .root, ["/bin/true"], [], "/"⟩, none, none⟩ := by
  have hdocument := documentOf_render isPayload_minimalSpec.exact
  have hscan : (Document.scan (minimalSpec.render.toList.map some)).2 = true := by
    rw [Json.render, String.toList_ofList, Document.scan_print isPayload_minimalSpec.exact]
  refine ofText_eq_ok_iff.mpr ⟨?_, hscan⟩
  rw [hdocument]
  rfl

theorem verdict_minimalAttempt : (fresh .oci).verdict minimalAttempt = .ok () := by
  have hpayload : minimalAttempt.container.engineConfig = bundlePayload "/second" := rfl
  have hfile : minimalAttempt.readText (Path.join "/second" OciSpec.fileName) = .ok minimalSpec.render := rfl
  have hread := (ociConfig_bundlePayload hpayload hfile).mpr ⟨_, minimalSpec_ofText, rfl⟩
  exact (verdict_oci hread).trans rfl

/-- A bundle whose spec was read from a file is taken over again from its report where there is no file. -/
theorem config_normal_minimal :
    let first := (fresh .oci).attempted minimalAttempt
    let second := (fresh .oci).attempted (payloadAttempt first.config)
    (fresh .oci).verdict minimalAttempt = .ok () ∧
      (fresh .oci).verdict (payloadAttempt first.config) = .ok () ∧ second.config = first.config ∧
        ∀ control, second.start control = first.start control := by
  intro first second
  obtain ⟨hverdict, hconfig, hstart⟩ := config_normal .oci minimalAttempt (payloadAttempt first.config)
    verdict_minimalAttempt (isReport_payloadAttempt first.config)
  exact ⟨verdict_minimalAttempt, hverdict, hconfig, hstart rfl⟩

end Engine

end ContainerConstruction
