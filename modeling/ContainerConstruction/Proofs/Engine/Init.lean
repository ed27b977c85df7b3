import ContainerConstruction.Engine.Basic
import Mathlib.Data.List.Induction

/-!
# Attempts to configure an engine

What an attempt leaves behind depends on the configuration that was there before in one way only: it stays
if nothing new is taken over.  An engine is therefore always as its last attempt that took something over has
left it, and an attempt that fails leaves it as it was.

There is one exception.  A bundle is taken over before it is known whether it can be run, so that a bundle
without a process, or with one that has no arguments, takes the place of the earlier one.
-/

namespace ContainerConstruction

/-- An attempt to configure an engine, with the files as they are at that time. -/
structure InitAttempt where
  readText : ReadText
  container : ContainerConfig

namespace Engine

def kind : Engine → EngineKind
  | .standard .. => .standard
  | .oci _ => .oci
  | .imageBuild _ => .imageBuild

@[simp]
theorem kind_fresh (kind : EngineKind) : (fresh kind).kind = kind := by
  cases kind <;> rfl

/-! ## One attempt -/

def verdict (attempt : InitAttempt) (engine : Engine) : Except Failure Unit :=
  (engine.init attempt.readText attempt.container).1

def attempted (attempt : InitAttempt) (engine : Engine) : Engine :=
  (engine.init attempt.readText attempt.container).2

/-- What an engine of a kind takes over, if it comes to that. -/
def takenOver (attempt : InitAttempt) : EngineKind → Option Engine
  | .standard => (initStandard attempt.container).toOption
  | .oci => (ociConfig attempt.readText attempt.container).toOption.map .oci
  | .imageBuild => (attempt.container.ofPayload BuildConfig.reader).toOption.map .imageBuild

theorem kind_initStandard {container : ContainerConfig} {engine : Engine}
    (h : initStandard container = .ok engine) : engine.kind = .standard := by
  unfold initStandard at h
  split at h
  · cases h
  · split at h
    · cases h
    · cases h
      rfl

theorem kind_takenOver {attempt : InitAttempt} {kind : EngineKind} {engine : Engine}
    (h : takenOver attempt kind = some engine) : engine.kind = kind := by
  cases kind with
  | standard =>
    cases hinit : initStandard attempt.container with
    | error failure => simp [takenOver, hinit, Except.toOption] at h
    | ok found =>
      have hfound : found = engine := by simpa [takenOver, hinit, Except.toOption] using h
      rw [← hfound]
      exact kind_initStandard hinit
  | oci =>
    obtain ⟨config, -, rfl⟩ := Option.map_eq_some_iff.mp h
    rfl
  | imageBuild =>
    obtain ⟨config, -, rfl⟩ := Option.map_eq_some_iff.mp h
    rfl

/-- An attempt replaces the configuration as a whole, or else not at all. -/
theorem attempted_eq (attempt : InitAttempt) (engine : Engine) :
    engine.attempted attempt = (takenOver attempt engine.kind).getD engine := by
  cases engine with
  | standard config identity =>
    cases hinit : initStandard attempt.container <;>
      simp [attempted, init, takenOver, kind, hinit, Except.toOption]
  | oci config =>
    cases hread : ociConfig attempt.readText attempt.container <;>
      simp [attempted, init, takenOver, kind, hread, Except.toOption]
  | imageBuild config =>
    cases hread : attempt.container.ofPayload BuildConfig.reader <;>
      simp [attempted, init, takenOver, kind, hread, Except.toOption]

/-- No attempt makes an engine one of another kind. -/
@[simp]
theorem kind_attempted (attempt : InitAttempt) (engine : Engine) :
    (engine.attempted attempt).kind = engine.kind := by
  rw [attempted_eq]
  cases htaken : takenOver attempt engine.kind with
  | none => rfl
  | some next => exact kind_takenOver htaken

/-- A bundle was read, and it is not one that can be run. -/
structure IsUnrunnableBundle (attempt : InitAttempt) (failure : Failure) (config : OciConfig) : Prop where
  read : ociConfig attempt.readText attempt.container = .ok config
  defect : ociDefect config = .error failure

/-- Nothing is taken over by an attempt that fails, apart from a bundle that cannot be run. -/
theorem takenOver_of_failed {attempt : InitAttempt} {engine : Engine} {failure : Failure}
    (h : engine.verdict attempt = .error failure) :
    takenOver attempt engine.kind = none ∨
      engine.kind = .oci ∧ ∃ config, IsUnrunnableBundle attempt failure config ∧
        takenOver attempt engine.kind = some (.oci config) := by
  cases engine with
  | standard config identity =>
    cases hinit : initStandard attempt.container with
    | error other => exact .inl (by simp [takenOver, kind, hinit, Except.toOption])
    | ok next => simp [verdict, init, hinit] at h
  | oci config =>
    cases hread : ociConfig attempt.readText attempt.container with
    | error other => exact .inl (by simp [takenOver, kind, hread, Except.toOption])
    | ok next =>
      have hdefect : ociDefect next = .error failure := by simpa [verdict, init, hread] using h
      exact .inr ⟨rfl, next, ⟨hread, hdefect⟩, by simp [takenOver, kind, hread, Except.toOption]⟩
  | imageBuild config =>
    cases hread : attempt.container.ofPayload BuildConfig.reader with
    | error other => exact .inl (by simp [takenOver, kind, hread, Except.toOption])
    | ok next => simp [verdict, init, hread] at h

/-- There is no program to become in a bundle that cannot be run. -/
theorem launch?_of_unrunnable {attempt : InitAttempt} {failure : Failure} {config : OciConfig}
    (h : IsUnrunnableBundle attempt failure config) {control : Engine.ControlRead} {start : Start}
    (hstart : (Engine.oci config).start control = .ok start) :
    ∃ spec, start = .run spec ∧
      ∀ credentials, spec.launch? credentials = .error (.config "process has no arguments") := by
  have hreleased := released_of_start hstart
  cases hprocess : config.process with
  | error other => simp [released, hprocess, Except.map] at hreleased
  | ok process =>
    have hargs : process.args = [] := by
      have hdefect := h.defect
      cases hargs : process.args with
      | nil => rfl
      | cons program arguments => simp [ociDefect, hprocess, hargs] at hdefect
    have hspec : Start.run ⟨process.args, process.env, some process.cwd, some process.user.uid,
        some process.user.gid⟩ = start := by
      simpa [released, hprocess, Except.map] using hreleased
    refine ⟨_, hspec.symm, fun credentials ↦ ?_⟩
    simp [ProcessSpec.launch?, hargs]

/-! ## Any number of attempts -/

def afterAttempts (attempts : List InitAttempt) (engine : Engine) : Engine :=
  attempts.foldl (fun engine attempt ↦ engine.attempted attempt) engine

@[simp]
theorem kind_afterAttempts (attempts : List InitAttempt) (engine : Engine) :
    (engine.afterAttempts attempts).kind = engine.kind := by
  induction attempts generalizing engine with
  | nil => rfl
  | cons attempt later ih => exact (ih (engine.attempted attempt)).trans (kind_attempted attempt engine)

/-- An engine is as the last attempt that took something over has left it. -/
theorem afterAttempts_eq (attempts : List InitAttempt) (engine : Engine) :
    engine.afterAttempts attempts =
      ((attempts.filterMap fun attempt ↦ takenOver attempt engine.kind).getLast?).getD engine := by
  induction attempts using List.reverseRecOn with
  | nil => rfl
  | append_singleton earlier attempt ih =>
    calc
      engine.afterAttempts (earlier ++ [attempt]) = (engine.afterAttempts earlier).attempted attempt := by
        rw [afterAttempts, List.foldl_append]
        rfl
      _ = (takenOver attempt engine.kind).getD (engine.afterAttempts earlier) := by
        rw [attempted_eq, kind_afterAttempts]
      _ = _ := by
        rw [ih, List.filterMap_append]
        cases htaken : takenOver attempt engine.kind <;> simp [htaken]

/-! ## Attempts that fail -/

/-- An attempt that fails leaves the engine as it was, unless it has read a bundle that cannot be run.  Such
a bundle takes the place of the earlier one, and there is no program in it. -/
theorem unchanged_or_unrunnable (kind : EngineKind) (attempts : List InitAttempt) (attempt : InitAttempt)
    {failure : Failure}
    (h : ((fresh kind).afterAttempts attempts).verdict attempt = .error failure) :
    let before := (fresh kind).afterAttempts attempts
    let after := before.attempted attempt
    (after.config = before.config ∧ ∀ control, after.start control = before.start control) ∨
      kind = .oci ∧ ∃ config, IsUnrunnableBundle attempt failure config ∧ after = .oci config ∧
        ∀ control start, after.start control = .ok start → ∃ spec, start = .run spec ∧
          ∀ credentials, spec.launch? credentials = .error (.config "process has no arguments") := by
  intro before after
  have hkind : before.kind = kind := by
    rw [kind_afterAttempts, kind_fresh]
  have hafter : after = (takenOver attempt before.kind).getD before := attempted_eq attempt before
  obtain hnone | ⟨hoci, config, hbundle, hsome⟩ := takenOver_of_failed h
  · have hsame : after = before := by rw [hafter, hnone, Option.getD_none]
    exact .inl ⟨by rw [hsame], fun control ↦ by rw [hsame]⟩
  · have hconfig : after = .oci config := by rw [hafter, hsome, Option.getD_some]
    refine .inr ⟨hkind.symm.trans hoci, config, hbundle, hconfig, fun control start hstart ↦ ?_⟩
    rw [hconfig] at hstart
    exact launch?_of_unrunnable hbundle hstart

/-- An attempt to configure a bundle with the given members, where no file can be read. -/
def bundleAttempt (members : List (String × Json)) : InitAttempt :=
  ⟨fun _ ↦ .error (.errno .noEntry), "oci", "container", .shared, none, .object members⟩

def runnableAttempt : InitAttempt :=
  bundleAttempt [("bundle", .string "/first"),
    ("spec", .object [("process", .object [("args", .strings ["/bin/true"])])])]

def speclessAttempt : InitAttempt := bundleAttempt [("bundle", .string "/second")]

def processlessAttempt : InitAttempt :=
  bundleAttempt [("bundle", .string "/second"), ("spec", .object [("ociVersion", .string "1.0.2")])]

theorem unchanged_or_unrunnable_specless :
    ((fresh .oci).afterAttempts [runnableAttempt]).verdict speclessAttempt =
        .error (.io "/second/config.json" (.errno .noEntry)) ∧
      let before := (fresh .oci).afterAttempts [runnableAttempt]
      let after := before.attempted speclessAttempt
      (after.config = before.config ∧ ∀ control, after.start control = before.start control) ∨
        EngineKind.oci = .oci ∧ ∃ config, IsUnrunnableBundle speclessAttempt
            (.io "/second/config.json" (.errno .noEntry)) config ∧ after = .oci config ∧
          ∀ control start, after.start control = .ok start → ∃ spec, start = .run spec ∧
            ∀ credentials, spec.launch? credentials = .error (.config "process has no arguments") :=
  ⟨rfl, unchanged_or_unrunnable .oci [runnableAttempt] speclessAttempt rfl⟩

/-- A failed attempt can cost an engine its configuration: here a bundle that could be run gives way to one
that has no process. -/
theorem config_lost :
    let before := (fresh .oci).afterAttempts [runnableAttempt]
    let after := before.attempted processlessAttempt
    before.verdict processlessAttempt = .error (.config "OCI spec has no process section") ∧
      before.config.member? "bundle" = some (.string "/first") ∧
      after.config.member? "bundle" = some (.string "/second") ∧
      before.start (.ok [goByte]) = .ok (.run ⟨["/bin/true"], [], some "/", some 0, some 0⟩) ∧
      after.start (.ok [goByte]) = .error (.config "OCI spec has no process section") :=
  ⟨rfl, rfl, rfl, rfl, rfl⟩

end Engine

end ContainerConstruction
