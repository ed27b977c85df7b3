import ContainerConstruction.Engine.Registry
import ContainerConstruction.Program

/-!
# Instances of engines

A registry in use: engines are registered and looked up, and instances are made of those that are there.
From then on an instance lives on its own, whatever becomes of the name it was made under, and a
configuration is taken over by the one instance it is meant for.

What an instance is, and how it takes over a configuration, is up to an `EngineMaker`; the three engines
have one.
-/

namespace ContainerConstruction

/-- How instances are made of what is registered, and how they take over a configuration. -/
structure EngineMaker (φ ε : Type) where
  make : φ → ε
  init : ReadText → ContainerConfig → ε → Except Failure Unit × ε

/-- The three engines. -/
def Engine.maker : EngineMaker EngineKind Engine := ⟨fresh, init⟩

/-- A registry with the instances that were made of its engines, in the order in which they were made. -/
structure EngineRoom (φ μ ε : Type) where
  registry : Registry φ μ
  instances : List ε

/-- What a registry and its instances can be asked to do. -/
inductive EngineCall (φ μ : Type) where
  | register (name : String) (factory : φ) (methods : μ)
  | lookUp (name : String)
  | listNames
  /-- Makes an instance of the engine under a name. -/
  | instantiate (name : String)
  /-- Has an instance take over a configuration, with the files as they are at that time. -/
  | configure (index : Nat) (readText : ReadText) (container : ContainerConfig)

namespace EngineCall

/-- The form of the answer to a call.  An instance is known by its number, and one that is not there does
not answer. -/
abbrev Answer {φ μ : Type} : EngineCall φ μ → Type
  | register .. => Option (Registration φ μ)
  | lookUp _ => Except Failure (Registration φ μ)
  | listNames => List String
  | instantiate _ => Except Failure Nat
  | configure .. => Option (Except Failure Unit)

end EngineCall

/-- A registry and its instances as an interface. -/
abbrev Engines (φ μ : Type) : Interface := ⟨EngineCall φ μ, EngineCall.Answer⟩

namespace EngineRoom

variable {φ μ ε : Type}

/-- A registry of which no instance has been made. -/
def ofRegistry (registry : Registry φ μ) : EngineRoom φ μ ε := ⟨registry, []⟩

def instantiate (maker : EngineMaker φ ε) (name : String) (room : EngineRoom φ μ ε) :
    Except Failure Nat × EngineRoom φ μ ε :=
  match room.registry.lookup name with
  | .error failure => (.error failure, room)
  | .ok registration =>
    (.ok room.instances.length,
      { room with instances := room.instances ++ [maker.make registration.factory] })

def configure (maker : EngineMaker φ ε) (index : Nat) (readText : ReadText) (container : ContainerConfig)
    (room : EngineRoom φ μ ε) : Option (Except Failure Unit) × EngineRoom φ μ ε :=
  match room.instances[index]? with
  | none => (none, room)
  | some engine =>
    let (result, next) := maker.init readText container engine
    (some result, { room with instances := room.instances.set index next })

/-- Answers the calls to a registry and its instances. -/
def machine (maker : EngineMaker φ ε) : Machine (Engines φ μ) (EngineRoom φ μ ε) where
  answer
    | .register name factory methods, room =>
      let (replaced, registry) := room.registry.register name factory methods
      (replaced, { room with registry })
    | .lookUp name, room => (room.registry.lookup name, room)
    | .listNames, room => (room.registry.names, room)
    | .instantiate name, room => room.instantiate maker name
    | .configure index readText container, room => room.configure maker index readText container

end EngineRoom

end ContainerConstruction
