import ContainerConstruction.Config
import ContainerConstruction.Request.Document
import ContainerConstruction.Request.Shown

/-!
# Construction plans

A plan is the list of requests that construct a container, and a `RunConfig` is a container with its
plan.  A loop request may leave open how many devices are tried; `applyDefaults` settles that from the
settings of the machine.
-/

namespace ContainerConstruction

open Json (Reader)
open Json.Reader (list record)
open Json.Reader.Fields (required defaulting)

/-- The requests that construct a container, in order. -/
structure ConstructionPlan where
  steps : List Request
  deriving DecidableEq, Repr

namespace ConstructionPlan

/-- Fills in the number of loop devices to try where a request leaves it open. -/
def settle (config : RuntimeConfig) : Request → Request
  | .loopDevice args =>
    if args.maxDevices = 0 then .loopDevice { args with maxDevices := config.maxLoopDevices }
    else .loopDevice args
  | request => request

def applyDefaults (config : RuntimeConfig) (plan : ConstructionPlan) : ConstructionPlan :=
  ⟨plan.steps.map (settle config)⟩

/-- The form in which a diagnostic shows a plan. -/
def shown (plan : ConstructionPlan) : String :=
  shownRecord "ConstructionPlan" [("steps", shownList (plan.steps.map Request.shown))]

def toJson (plan : ConstructionPlan) : Json := .array (plan.steps.map Request.toJson)

def reader : Reader ConstructionPlan := fun position document ↦
  (list Request.reader position document).map ConstructionPlan.mk

end ConstructionPlan

/-- A container and the plan that constructs it. -/
structure RunConfig where
  container : ContainerConfig
  plan : ConstructionPlan
  deriving Repr

namespace RunConfig

def toJson (config : RunConfig) : Json :=
  .object [("common", config.container.toJson), ("plan", config.plan.toJson)]

def reader (freshId : String) : Reader RunConfig :=
  record <| required "common" (ContainerConfig.reader freshId) <|
    defaulting "plan" ConstructionPlan.reader ⟨[]⟩ <|
    .done fun plan container ↦ ⟨container, plan⟩

/-- The configuration in the text of the file `path`. -/
def ofText (freshId path text : String) : Except Failure RunConfig :=
  match (reader freshId).ofText text with
  | .ok config => .ok config
  | .error error => .error (.config s!"{path}: {error.message}")

def load (readText : ReadText) (freshId path : String) : Except Failure RunConfig :=
  match readText path with
  | .error cause => .error (.io path cause)
  | .ok text => ofText freshId path text

def applyDefaults (config : RuntimeConfig) (run : RunConfig) : RunConfig :=
  { run with plan := run.plan.applyDefaults config }

end RunConfig

end ContainerConstruction
