import ContainerConstruction.Failure
import ContainerConstruction.Program
import ContainerConstruction.Request.Basic

/-!
# Methods

What an engine offers to do: one method for each operation, as a transition of the state it works on.
A method returns a reply or a failure, or it panics.  `dispatch` sends a request to its method.

With the methods goes the wording of the decoder that stands in front of them.  What it says of a payload
without a request quotes parts of the payload and is as long as these are; no more is assumed of it.
-/

namespace ContainerConstruction

/-- A method over a state: it may return, fail or panic. -/
abbrev Method (σ ι ο : Type) : Type := ι → σ → Outcome (Except Failure ο) × σ

/-- One method for each operation, behind a decoder of requests. -/
structure Methods (σ : Type) where
  mount : Method σ MountArgs Unit
  decrypt : Method σ CryptArgs CryptReply
  mkdir : Method σ MkdirArgs Unit
  chroot : Method σ ChrootArgs Unit
  loopDevice : Method σ LoopArgs LoopReply
  setHostname : Method σ HostnameArgs Unit
  setFsId : Method σ SetFsIdArgs Unit
  chdir : Method σ ChdirArgs Unit
  /-- What the decoder says of a payload that it cannot read. -/
  wording : List UInt8 → Json.ReadError → String := fun _ error ↦ error.message

namespace Methods

/-- The reply made of what a method returned. -/
def reply {σ α : Type} (make : α → Reply) :
    Outcome (Except Failure α) × σ → Outcome (Except Failure Reply) × σ
  | (outcome, state) => (outcome.map fun result ↦ result.map make, state)

def dispatch {σ : Type} (methods : Methods σ) (request : Request) (state : σ) :
    Outcome (Except Failure Reply) × σ :=
  match request with
  | .mount args => reply (fun _ ↦ .unit) (methods.mount args state)
  | .decrypt args => reply .crypt (methods.decrypt args state)
  | .mkdir args => reply (fun _ ↦ .unit) (methods.mkdir args state)
  | .chroot args => reply (fun _ ↦ .unit) (methods.chroot args state)
  | .loopDevice args => reply .loop (methods.loopDevice args state)
  | .setHostname args => reply (fun _ ↦ .unit) (methods.setHostname args state)
  | .setFsId args => reply (fun _ ↦ .unit) (methods.setFsId args state)
  | .chdir args => reply (fun _ ↦ .unit) (methods.chdir args state)

end Methods

end ContainerConstruction
