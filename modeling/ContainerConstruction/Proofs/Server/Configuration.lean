import ContainerConstruction.Proofs.Operation.Confinement
import ContainerConstruction.Proofs.Server.Stream

/-!
# Requests that ask for what cannot be

A request on the host is answered with a failure of configuration for its own defect and for nothing else, and
then it has done nothing: the operation of such a request makes no call to the kernel at all.  A frame that
holds no request does nothing either.
-/

namespace ContainerConstruction

variable {σ : Type} (worker caller : Machine Kernel σ)

/-! ## Operations -/

/-- An operation that a machine carries out to a failure of configuration was refused for its defect. -/
theorem Request.defect?_of_run {machine : Machine Kernel σ} {request : Request} {before after : σ}
    {failure : Failure}
    (h : Program.run machine request.operation.run before = (.returned (.error failure), after))
    (hkind : failure.kind = .config) : request.defect? = some failure := by
  obtain ⟨result, last, hrun, hblames⟩ := Program.Meets.run request.operation_blames machine before
  have hresult : result = .error failure := by
    have houtcome := congrArg Prod.fst (hrun.symm.trans h)
    exact Outcome.returned.inj houtcome
  exact hblames failure hresult hkind

/-- A request with a defect is answered by its method without a call. -/
theorem Request.dispatch_of_defect? {request : Request} {failure : Failure} (h : request.defect? = some failure)
    (state : σ) :
    (HostMethods.ofMachine worker caller).dispatch request state = (.returned (.error failure), state) := by
  rw [dispatch_ofMachine, operation_of_defect? h]
  cases request.isDecrypt <;> rfl

/-- The method of a request ends in a failure of configuration only if that is the defect of the request. -/
theorem Request.defect?_of_dispatch {request : Request} {failure : Failure} {before after : σ}
    (h : (HostMethods.ofMachine worker caller).dispatch request before = (.returned (.error failure), after))
    (hkind : failure.kind = .config) : request.defect? = some failure := by
  rw [dispatch_ofMachine] at h
  cases hdecrypt : request.isDecrypt with
  | true =>
    rw [hdecrypt, if_pos rfl] at h
    exact defect?_of_run h hkind
  | false =>
    obtain ⟨result, last, hrun, hblames⟩ := Program.Meets.run request.operation_blames worker before
    rw [hdecrypt, hrun] at h
    have hresult : result = .error failure := Outcome.returned.inj (congrArg Prod.fst h)
    exact hblames failure hresult hkind

namespace Server

variable {request : Request} {server : Server σ} {message : String}

/-! ## Answers -/

/-- A request with a defect is refused for it, and the server stays as it is. -/
theorem handle_of_defect? (hpoisoned : server.poisoned = false) {failure : Failure}
    (h : request.defect? = some failure) :
    server.handle (HostMethods.ofMachine worker caller) request = (.ofFailure failure, server) := by
  have hpoisons : poisons request (.error failure) = false := by
    rw [poisons, Failure.isUnsafe, Request.kind_of_defect? h]
    exact Bool.and_false _
  obtain ⟨state, poisoned⟩ := server
  cases hpoisoned
  simp only [handle, Request.dispatch_of_defect? worker caller h, resultOf, hpoisons]
  rfl

/-- An answer of a failure of configuration names the defect of the request. -/
theorem defect?_of_handle
    (h : (server.handle (HostMethods.ofMachine worker caller) request).1 = .error ⟨.config, message⟩) :
    server.poisoned = false ∧ ∃ failure, request.defect? = some failure ∧ failure.message = message := by
  cases hpoisoned : server.poisoned with
  | true =>
    rw [handle, if_pos hpoisoned] at h
    cases h
  | false =>
    rcases hdispatch : (HostMethods.ofMachine worker caller).dispatch request server.state with ⟨outcome, after⟩
    rw [handle, hpoisoned, hdispatch] at h
    -- A panic is answered as a failure of the server's own.
    rcases outcome with (failure | reply) | panic
    · obtain ⟨hkind, hmessage⟩ := RemoteError.mk.inj (Response.error.inj h)
      exact ⟨rfl, failure, Request.defect?_of_dispatch worker caller hdispatch hkind, hmessage⟩
    · cases h
    · have hkind : (taskFailure request.method panic).kind = .config :=
        congrArg RemoteError.kind (Response.error.inj h)
      rw [taskFailure_kind] at hkind
      cases hkind

end Server

/-- What a failure of configuration says of a request that is served on the host. -/
structure RefusalLaws : Prop where
  /-- Such an answer names the defect of the request. -/
  blames : ∀ (request : Request) (server : Server σ) (message : String),
    (server.handle (HostMethods.ofMachine worker caller) request).1 = .error ⟨.config, message⟩ →
      ∃ failure, request.defect? = some failure ∧ failure.message = message
  /-- Nothing has changed then. -/
  unchanged : ∀ (request : Request) (server : Server σ) (message : String),
    (server.handle (HostMethods.ofMachine worker caller) request).1 = .error ⟨.config, message⟩ →
      (server.handle (HostMethods.ofMachine worker caller) request).2 = server
  /-- Nothing changes on any kernel or between any other steps: the operation of a request with a defect is no
  more than the failure. -/
  idle : ∀ (request : Request) (failure : Failure), request.defect? = some failure →
    failure.kind = .config ∧ request.operation = throw failure
  /-- A frame that is answered so leaves the server as it is, whether or not it holds a request. -/
  frames : ∀ (payload : List UInt8) (server : Server σ) (message : String),
    (server.handleFrame (HostMethods.ofMachine worker caller) payload).1 = .error ⟨.config, message⟩ →
      (server.handleFrame (HostMethods.ofMachine worker caller) payload).2 = server

theorem refusalLaws : RefusalLaws worker caller := by
  have hunchanged (request : Request) (server : Server σ) (message : String)
      (h : (server.handle (HostMethods.ofMachine worker caller) request).1 = .error ⟨.config, message⟩) :
      (server.handle (HostMethods.ofMachine worker caller) request).2 = server := by
    obtain ⟨hpoisoned, failure, hdefect, -⟩ := Server.defect?_of_handle worker caller h
    rw [Server.handle_of_defect? worker caller hpoisoned hdefect]
  refine ⟨?_, hunchanged, fun request failure h ↦ ⟨request.kind_of_defect? h, request.operation_of_defect? h⟩, ?_⟩
  · intro request server message h
    exact (Server.defect?_of_handle worker caller h).2
  · intro payload server message h
    cases hrequest : Server.requestOf payload with
    | none =>
      obtain ⟨_, -, hanswer⟩ := Server.handleFrame_undecodable hrequest
      rw [hanswer]
    | some request =>
      rw [Server.handleFrame_decodable _ hrequest] at h ⊢
      exact hunchanged request server message h

end ContainerConstruction
