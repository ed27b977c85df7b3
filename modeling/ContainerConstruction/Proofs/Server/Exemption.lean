import ContainerConstruction.Proofs.Server.Identity

/-!
# Lost state and the exempt request

A server is poisoned by the first request that loses the identity or the namespaces of its thread, and from
then on it refuses everything.  What decides is the request and the class of the failure, and no more: a
request that opens an encrypted device is exempt from poisoning whatever it has lost.  The reason for the
exemption is that its namespaces are entered on a thread that is thrown away, but an identity that such a
request reports as lost is forgiven as well.
-/

namespace ContainerConstruction

variable {σ : Type}

/-- The method of a request returns an unsafe failure and leaves the given state. -/
structure Methods.Loses (methods : Methods σ) (request : Request) (before : σ) (failure : Failure)
    (after : σ) : Prop where
  dispatch_eq : methods.dispatch request before = (.returned (.error failure), after)
  isUnsafe : failure.isUnsafe = true

namespace Server

variable (methods : Methods σ) {request : Request} {server : Server σ} {failure : Failure} {state : σ}

/-! ## Servers that are poisoned -/

/-- A poisoned server refuses, and stays as it is. -/
theorem handle_of_poisoned (h : server.poisoned = true) (request : Request) :
    server.handle methods request = (.ofFailure (refusal request), server) := by
  rw [handle, if_pos h]

theorem afterRequests_of_poisoned (h : server.poisoned = true) (requests : List Request) :
    server.afterRequests methods requests = server := by
  induction requests with
  | nil => rfl
  | cons request rest ih =>
    calc
      server.afterRequests methods (request :: rest) =
          (server.handle methods request).2.afterRequests methods rest := rfl
      _ = server.afterRequests methods rest := by rw [handle_of_poisoned methods h]
      _ = server := ih

theorem answeredRequests_of_poisoned (h : server.poisoned = true) (requests : List Request) :
    server.answeredRequests methods requests =
      requests.map fun request ↦ ⟨request, .ofFailure (refusal request)⟩ := by
  induction requests with
  | nil => rfl
  | cons request rest ih =>
    rw [answeredRequests, handle_of_poisoned methods h, ih]
    rfl

/-! ## Requests that lose state -/

/-- The loss is answered, and it poisons unless the request is the exempt one. -/
theorem handle_of_loses (hpoisoned : server.poisoned = false)
    (h : methods.Loses request server.state failure state) :
    server.handle methods request = (.ofFailure failure, ⟨state, !request.isDecrypt⟩) := by
  have hpoisons : poisons request (.error failure) = !request.isDecrypt := by
    rw [poisons, h.isUnsafe, Bool.and_true]
  rw [handle, hpoisoned, h.dispatch_eq, ← hpoisons]
  rfl

theorem afterRequests_concat (requests : List Request) (request : Request) (server : Server σ) :
    server.afterRequests methods (requests ++ [request]) =
      ((server.afterRequests methods requests).handle methods request).2 :=
  List.foldl_concat ..

/-- What comes of a request that loses state, and of the requests after it. -/
structure LossLaws (request : Request) (failure : Failure) (state : σ) (before after : Server σ) : Prop where
  /-- The failure is the answer. -/
  answered : (before.handle methods request).1 = .ofFailure failure
  /-- The request alone decides whether the server is poisoned. -/
  after_eq : after = ⟨state, !request.isDecrypt⟩
  /-- A poisoned server refuses all later requests, calls no method for them and stays as it is. -/
  refused : request.isDecrypt = false → ∀ later calls,
    after.answeredRequests methods later = later.map (fun next ↦ ⟨next, .ofFailure (refusal next)⟩) ∧
      (after.recorded calls).afterRequests methods.recording later = after.recorded calls
  /-- After the exempt request the next one reaches its method, on the state that the loss has left. -/
  exempt : request.isDecrypt = true → ∀ next calls,
    ((after.recorded calls).handle methods.recording next).2.state =
      ((methods.dispatch next state).2, calls ++ [next])

/-- A request that loses state poisons the server for good, at any place in any sequence of requests, unless
it is the one that opens an encrypted device.  That one never poisons, whichever state it has lost. -/
theorem loss_poisons_unless_exempt (server : Server σ) (earlier : List Request)
    (hbefore : (server.afterRequests methods earlier).poisoned = false)
    (hloss : methods.Loses request (server.afterRequests methods earlier).state failure state) :
    LossLaws methods request failure state (server.afterRequests methods earlier)
      (server.afterRequests methods (earlier ++ [request])) := by
  have hhandle := handle_of_loses methods hbefore hloss
  have hafter : server.afterRequests methods (earlier ++ [request]) = ⟨state, !request.isDecrypt⟩ := by
    rw [afterRequests_concat, hhandle]
  refine ⟨congrArg Prod.fst hhandle, hafter, ?_, ?_⟩
  · intro hdecrypt later calls
    have hpoisoned : (server.afterRequests methods (earlier ++ [request])).poisoned = true := by
      rw [hafter, hdecrypt]
      rfl
    exact ⟨answeredRequests_of_poisoned methods hpoisoned later,
      afterRequests_of_poisoned methods.recording hpoisoned later⟩
  · intro hdecrypt next calls
    have hpoisoned : (server.afterRequests methods (earlier ++ [request])).poisoned = false := by
      rw [hafter, hdecrypt]
      rfl
    rw [handle_recording, hpoisoned, handle, hpoisoned, hafter]
    rfl

/-- An example: opening a device loses the identity, and the calls are counted. -/
def forgetfulMethods : Methods Nat :=
  { Methods.fragile with decrypt := fun _ calls ↦ (.returned (.error (.identityRestore "gone")), calls + 1) }

theorem loss_poisons_unless_exempt_forgetful :
    (afterRequests forgetfulMethods [.mkdir ⟨"/run", 493⟩] ⟨0, false⟩).poisoned = false ∧
      forgetfulMethods.Loses (.setFsId ⟨0, 0⟩) 1 (.identityRestore "gone") 2 ∧
      LossLaws forgetfulMethods (.setFsId ⟨0, 0⟩) (.identityRestore "gone") 2 ⟨1, false⟩ ⟨2, true⟩ :=
  ⟨rfl, ⟨rfl, rfl⟩,
    loss_poisons_unless_exempt forgetfulMethods ⟨0, false⟩ [.mkdir ⟨"/run", 493⟩] rfl ⟨rfl, rfl⟩⟩

/-- A lost identity does not always poison: here the request that opens a device reports one, and the next
request is carried out. -/
theorem identity_loss_unpunished :
    let request := Request.decrypt ⟨[], "/dev/loop0", 0⟩
    let next := Request.mkdir ⟨"/run", 493⟩
    let after := afterRequests forgetfulMethods [request] ⟨0, false⟩
    forgetfulMethods.Loses request 0 (.identityRestore "gone") 1 ∧ after = ⟨1, false⟩ ∧
      after.handle forgetfulMethods next = (.ok .unit, ⟨2, false⟩) :=
  ⟨⟨rfl, rfl⟩, rfl, rfl⟩

end Server

end ContainerConstruction
