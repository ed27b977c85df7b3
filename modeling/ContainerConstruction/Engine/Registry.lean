import ContainerConstruction.Engine.Basic

/-!
# Registry

A table of engines by name, kept in the order of the names.  A registration holds the way to make an
engine and the methods it offers; a later registration of a name takes the place of the earlier one.
-/

namespace ContainerConstruction

/-- An engine under a name. -/
structure Registration (φ μ : Type) where
  name : String
  factory : φ
  methods : μ
  deriving DecidableEq, Repr

/-- Registrations in the order of their names, one for each name. -/
structure Registry (φ μ : Type) where
  registrations : List (Registration φ μ)
  deriving Repr

namespace Registry

variable {φ μ : Type}

def empty : Registry φ μ := ⟨[]⟩

/-- Puts a registration into an ordered list, in place of one with the same name. -/
def insert (registration : Registration φ μ) : List (Registration φ μ) → List (Registration φ μ)
  | [] => [registration]
  | other :: rest =>
    if registration.name < other.name then registration :: other :: rest
    else if registration.name = other.name then registration :: rest
    else other :: insert registration rest

def find? (registry : Registry φ μ) (name : String) : Option (Registration φ μ) :=
  registry.registrations.find? (·.name = name)

/-- Registers an engine, and gives the registration that it replaces. -/
def register (name : String) (factory : φ) (methods : μ) (registry : Registry φ μ) :
    Option (Registration φ μ) × Registry φ μ :=
  (registry.find? name, ⟨insert ⟨name, factory, methods⟩ registry.registrations⟩)

def notFound (name : String) : Failure := .notFound "engine" name

/-- Looks an engine up. -/
def lookup (registry : Registry φ μ) (name : String) : Except Failure (Registration φ μ) :=
  match registry.find? name with
  | some registration => .ok registration
  | none => .error (notFound name)

/-- The names of all engines, ascending. -/
def names (registry : Registry φ μ) : List String := registry.registrations.map (·.name)

/-- The three engines, all with the same methods. -/
def builtin (methods : μ) : Registry EngineKind μ :=
  EngineKind.all.foldl (fun registry kind ↦ (registry.register kind.name kind methods).2) empty

end Registry

end ContainerConstruction
