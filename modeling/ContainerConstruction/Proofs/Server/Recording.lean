import ContainerConstruction.Server.Basic

/-!
# Which methods are called

`Methods.recording` are the same methods, which also note every call with its arguments.  The note is
made by the method itself, so a request that reaches no method leaves none.
-/

namespace ContainerConstruction

/-- A method that notes its calls, each as the request it belongs to. -/
def Method.recording {σ ι ο : Type} (call : ι → Request) (method : Method σ ι ο) :
    Method (σ × List Request) ι ο := fun args noted ↦
  let (outcome, state) := method args noted.1
  (outcome, state, noted.2 ++ [call args])

/-- Methods that note their calls, in order. -/
def Methods.recording {σ : Type} (methods : Methods σ) : Methods (σ × List Request) where
  mount := methods.mount.recording .mount
  decrypt := methods.decrypt.recording .decrypt
  mkdir := methods.mkdir.recording .mkdir
  chroot := methods.chroot.recording .chroot
  loopDevice := methods.loopDevice.recording .loopDevice
  setHostname := methods.setHostname.recording .setHostname
  setFsId := methods.setFsId.recording .setFsId
  chdir := methods.chdir.recording .chdir
  wording := methods.wording

/-- An example: methods that count their calls.  Changing the directory panics, and taking on an identity
loses the one before. -/
def Methods.fragile : Methods Nat where
  mount _ calls := (.returned (.ok ()), calls + 1)
  decrypt _ calls := (.returned (.ok ⟨"/dev/mapper/opened"⟩), calls + 1)
  mkdir _ calls := (.returned (.ok ()), calls + 1)
  chroot _ calls := (.returned (.ok ()), calls + 1)
  loopDevice _ calls := (.returned (.ok ⟨0⟩), calls + 1)
  setHostname _ calls := (.returned (.ok ()), calls + 1)
  setFsId _ calls := (.returned (.error (.identityRestore "gone")), calls + 1)
  chdir _ calls := (.panicked ⟨none⟩, calls + 1)

variable {σ : Type}

/-- A request is sent to the method of its own name, once and with its own arguments. -/
theorem Methods.dispatch_recording (methods : Methods σ) (request : Request) (state : σ)
    (calls : List Request) :
    methods.recording.dispatch request (state, calls) =
      ((methods.dispatch request state).1, (methods.dispatch request state).2, calls ++ [request]) := by
  cases request <;> rfl

namespace Server

/-- A server whose methods note their calls, after some calls. -/
def recorded (server : Server σ) (calls : List Request) : Server (σ × List Request) :=
  ⟨(server.state, calls), server.poisoned⟩

/-- The calls that answering a request adds: one, unless the request is refused. -/
theorem handle_recording (methods : Methods σ) (request : Request) (server : Server σ)
    (calls : List Request) :
    (server.recorded calls).handle methods.recording request =
      ((server.handle methods request).1,
        (server.handle methods request).2.recorded
          (calls ++ if server.poisoned then [] else [request])) := by
  cases hpoisoned : server.poisoned <;>
    simp [handle, recorded, hpoisoned, Methods.dispatch_recording]

end Server

end ContainerConstruction
