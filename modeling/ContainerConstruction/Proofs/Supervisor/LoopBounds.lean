import ContainerConstruction.Proofs.Config.RoundTrip
import ContainerConstruction.Proofs.Supervisor.Phases
import Mathlib

/-!
# How many loop devices are tried

A request may leave open how many loop devices are tried.  Settings of a machine are accepted only if they try one at
least, so a plan that was settled from them leaves nothing open, and from then on no settings change it.  What is
said here of a plan carries over to a run, which makes no other requests than those of its plan.
-/

namespace ContainerConstruction

/-! ## Accepted settings -/

namespace RuntimeConfig

variable {readText : ReadText} {path : String} {config : RuntimeConfig}

/-- Settings come from a file that says them, or are the standard ones of a file that is not there. -/
theorem load_eq_ok_iff : load readText path = .ok config ↔
    readText path = .error (.errno .noEntry) ∧ config = standard ∨
      ∃ text, readText path = .ok text ∧ reader.ofText text = .ok config ∧ config.maxLoopDevices ≠ 0 := by
  unfold load ofText
  constructor
  · intro h
    split at h
    next text htext =>
      split at h
      · cases h
      · split_ifs at h with hzero
        cases h
        exact .inr ⟨text, htext, ‹_›, hzero⟩
    next habsent =>
      cases h
      exact .inl ⟨habsent, rfl⟩
    next => cases h
  · rintro (⟨habsent, rfl⟩ | ⟨text, htext, hread, hzero⟩)
    · rw [habsent]
      rfl
    · simp only [htext, hread, if_neg hzero]

/-- Settings without a loop device to try are not loaded. -/
theorem maxLoopDevices_of_load (h : load readText path = .ok config) : config.maxLoopDevices ≠ 0 := by
  obtain ⟨-, rfl⟩ | ⟨_, -, -, hpositive⟩ := load_eq_ok_iff.mp h
  · decide
  · exact hpositive

/-- Settings that try a device are accepted from a file that they were written to, and no others are accepted. -/
theorem exists_load_iff : (∃ readText path, load readText path = .ok config) ↔ config.maxLoopDevices ≠ 0 := by
  constructor
  · rintro ⟨readText, path, h⟩
    exact maxLoopDevices_of_load h
  · intro h
    have hread : reader.ofText config.toJson.render = .ok config :=
      ofText_render (recovers.restores (by decide) config)
    exact ⟨fun _ ↦ .ok config.toJson.render, defaultPath, load_eq_ok_iff.mpr (.inr ⟨_, rfl, hread, h⟩)⟩

end RuntimeConfig

/-! ## Settled plans -/

namespace ConstructionPlan

/-- A step, and what becomes of it if `bound` loop devices are tried where it does not say how many. -/
inductive Fills (bound : UInt32) : Request → Request → Prop where
  | other {request : Request} (hother : ∀ args, request ≠ .loopDevice args) : Fills bound request request
  | said {args : LoopArgs} (hsaid : args.maxDevices ≠ 0) : Fills bound (.loopDevice args) (.loopDevice args)
  | unsaid {args : LoopArgs} (hunsaid : args.maxDevices = 0) :
    Fills bound (.loopDevice args) (.loopDevice { args with maxDevices := bound })

/-- A step that leaves nothing open. -/
def IsSettled (request : Request) : Prop := ∀ args, request = .loopDevice args → args.maxDevices ≠ 0

variable (config : RuntimeConfig)

/-- Settling a step fills in the bound where it is open. -/
theorem fills_settle (request : Request) : Fills config.maxLoopDevices request (settle config request) := by
  cases request with
  | loopDevice args =>
    by_cases hsaid : args.maxDevices = 0
    · rw [settle, if_pos hsaid]
      exact .unsaid hsaid
    · rw [settle, if_neg hsaid]
      exact .said hsaid
  | _ => exact .other nofun

theorem forall₂_fills_applyDefaults (plan : ConstructionPlan) :
    List.Forall₂ (Fills config.maxLoopDevices) plan.steps (plan.applyDefaults config).steps :=
  List.forall₂_map_right_iff.mpr (List.forall₂_same.mpr fun step _ ↦ fills_settle config step)

variable {config}

theorem Fills.isSettled {bound : UInt32} {request filled : Request} (h : Fills bound request filled)
    (hbound : bound ≠ 0) : IsSettled filled := by
  rintro args rfl
  cases h with
  | other hother => exact absurd rfl (hother args)
  | said hsaid => exact hsaid
  | unsaid _ => exact hbound

/-- No step of a settled plan leaves anything open. -/
theorem isSettled_of_mem (h : config.maxLoopDevices ≠ 0) {plan : ConstructionPlan} {step : Request}
    (hstep : step ∈ (plan.applyDefaults config).steps) : IsSettled step := by
  obtain ⟨request, -, rfl⟩ := List.mem_map.mp hstep
  exact (fills_settle config request).isSettled h

theorem settle_of_isSettled {request : Request} (h : IsSettled request) : settle config request = request := by
  cases request with
  | loopDevice args => exact if_neg (h args rfl)
  | _ => rfl

/-- A plan that leaves nothing open stays as it is, whatever the settings. -/
theorem applyDefaults_of_isSettled {plan : ConstructionPlan} (h : ∀ step ∈ plan.steps, IsSettled step) :
    plan.applyDefaults config = plan := by
  have hsteps : plan.steps.map (settle config) = plan.steps.map id :=
    List.map_congr_left fun step hstep ↦ settle_of_isSettled (h step hstep)
  rw [applyDefaults, hsteps, List.map_id]

end ConstructionPlan

/-! ## Requests of a run -/

namespace Phase

def request? : Phase → Option Request
  | .step request => some request
  | _ => none

theorem request?_recovery (pid : Nat) (failure : Failure) (phase : Phase) :
    ∀ other ∈ phase.recovery pid failure, other.request? = none := by
  cases phase <;> simp [recovery, request?]

end Phase

namespace Supervisor

/-- The requests of a course are the steps of its plan. -/
theorem filterMap_request?_course (config : RunConfig) (pid : Nat) (status : WaitStatus) :
    (course config pid status).filterMap Phase.request? = config.plan.steps := by
  have hsteps : (config.plan.steps.map Phase.step).filterMap Phase.request? = config.plan.steps := by
    rw [List.filterMap_map]
    exact List.filterMap_some
  simp [course, courseOfConstruction, courseOfLaunch, courseOfProcess, Phase.request?, List.filterMap_cons,
    List.filterMap_append, hsteps]

/-- Whatever the phases come to, a run makes the requests of its plan in their order, up to some point. -/
theorem requests_isPrefix {σ : Type} (machine : Machine Lifecycle σ) (config : RunConfig) (state : σ) :
    ((run config).run.trace machine state).filterMap (·.call.request?) <+: config.plan.steps := by
  obtain ⟨events, result, after, hruns, pid, status, hunfolds⟩ := follows_run config machine state
  rw [hruns.trace_eq, ← filterMap_request?_course config pid status]
  exact hunfolds.filterMap_prefix (fun _ _ ↦ rfl) (fun _ ↦ .inl rfl) Phase.request?_recovery

theorem mem_steps_of_trace {σ : Type} {machine : Machine Lifecycle σ} {config : RunConfig} {state : σ}
    {event : Event Lifecycle} {request : Request} (h : event ∈ (run config).run.trace machine state)
    (hcall : event.call = .step request) : request ∈ config.plan.steps := by
  refine (requests_isPrefix machine config state).subset (List.mem_filterMap.mpr ⟨event, h, ?_⟩)
  rw [hcall, Phase.request?]

end Supervisor

/-! ## Plans settled from accepted settings -/

/-- What holds of a plan that was settled from settings of a machine. -/
structure LoopBoundLaws (config : RuntimeConfig) (plan settled : ConstructionPlan) : Prop where
  /-- Step by step, the number of devices is all that was filled in, and only where it was not said. -/
  filled : List.Forall₂ (ConstructionPlan.Fills config.maxLoopDevices) plan.steps settled.steps
  /-- Every request for a loop device tries at least one. -/
  bounded {args : LoopArgs} (h : .loopDevice args ∈ settled.steps) : 1 ≤ args.maxDevices
  /-- No settings change the plan any more, be they the same or others. -/
  stable (other : RuntimeConfig) : settled.applyDefaults other = settled

/-- Whatever the plan, settling it from accepted settings fills in every number of loop devices that is open and
nothing else, for good.  So every request for a loop device in a run tries at least one. -/
theorem RuntimeConfig.settles_loopDevices {readText : ReadText} {path : String} {config : RuntimeConfig}
    (hload : load readText path = .ok config) :
    (∀ plan : ConstructionPlan, LoopBoundLaws config plan (plan.applyDefaults config)) ∧
    ∀ {σ : Type} (machine : Machine Lifecycle σ) (run : RunConfig) (state : σ),
      ∀ event ∈ (Supervisor.run (run.applyDefaults config)).run.trace machine state,
        ∀ args, event.call = .step (.loopDevice args) → 1 ≤ args.maxDevices := by
  have hpositive := maxLoopDevices_of_load hload
  have hbounded {plan : ConstructionPlan} {args : LoopArgs}
      (h : .loopDevice args ∈ (plan.applyDefaults config).steps) : 1 ≤ args.maxDevices := by
    have hargs : args.maxDevices.toNat ≠ 0 := fun hzero ↦
      ConstructionPlan.isSettled_of_mem hpositive h args rfl (UInt32.toNat_inj.mp hzero)
    exact UInt32.le_iff_toNat_le.mpr (Nat.one_le_iff_ne_zero.mpr hargs)
  constructor
  · intro plan
    exact ⟨ConstructionPlan.forall₂_fills_applyDefaults config plan, hbounded,
      fun _ ↦ ConstructionPlan.applyDefaults_of_isSettled fun _ ↦ ConstructionPlan.isSettled_of_mem hpositive⟩
  · intro σ machine run state event hevent args hcall
    exact hbounded (Supervisor.mem_steps_of_trace hevent hcall)

/-- A file that says the number of devices alone, and a plan with a request for each way to be settled. -/
theorem RuntimeConfig.settles_loopDevices_partly :
    let readText : ReadText := fun _ ↦ .ok "\x7b\"max_loop_devices\": 64\x7d"
    let config : RuntimeConfig := ⟨defaultStateDir, 64⟩
    let mkdir : Request := .mkdir ⟨"/mnt", 0o755⟩
    let request (maxDevices : UInt32) : Request := .loopDevice ⟨"/image", 0, maxDevices, true, .whole⟩
    load readText defaultPath = .ok config ∧
      LoopBoundLaws config ⟨[request 0, mkdir, request 4]⟩ ⟨[request 64, mkdir, request 4]⟩ := by
  intro readText config mkdir request
  have hload : load readText defaultPath = .ok config := by cbv
  exact ⟨hload, (settles_loopDevices hload).1 ⟨[request 0, mkdir, request 4]⟩⟩

end ContainerConstruction
