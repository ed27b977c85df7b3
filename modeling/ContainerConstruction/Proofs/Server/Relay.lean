import ContainerConstruction.Proofs.Request.RoundTrip
import Mathlib.Logic.Function.Iterate

/-!
# Failures on their way through servers

A failure that is reported from server to server becomes a remote one and keeps its class; its message gains a
heading on each way but the first.  `Methods.proxy` are the methods of a server that hands its requests on to
another one, and `Server.chain` is any number of such servers, one behind the other.  Since the class is kept,
each of them is poisoned exactly if the failure at the far end is an unsafe one.
-/

namespace ContainerConstruction

variable {σ α : Type}

/-! ## Reports -/

/-- What a caller is told of a result: it is put into a response, which is written and read. -/
def told (result : Except Failure Reply) : Except Failure Reply :=
  Client.resultOf (Server.responsePayload (.ofResult result))

theorem told_error (failure : Failure) : told (.error failure) = .error (.remote failure.kind failure.message) :=
  Client.resultOf_responsePayload _

namespace ErrorKind

/-- What stands before the message of a remote failure. -/
def heading (kind : ErrorKind) : String := s!"remote {kind.displayName} error: "

/-- What stands before the message of a failure that has been remote for some time. -/
def headings (kind : ErrorKind) (count : Nat) : String := String.join (List.replicate count kind.heading)

theorem headings_zero_append (kind : ErrorKind) (message : String) : kind.headings 0 ++ message = message :=
  String.empty_append

theorem headings_succ_append (kind : ErrorKind) (count : Nat) (message : String) :
    kind.headings (count + 1) ++ message = kind.heading ++ (kind.headings count ++ message) := by
  rw [headings, List.replicate_succ, String.join_cons, String.append_assoc, headings]

end ErrorKind

theorem Failure.message_remote (kind : ErrorKind) (message : String) :
    (remote kind message).message = kind.heading ++ message := rfl

/-- By induction on the reports: the next one puts the heading of the same kind before the message. -/
theorem iterate_told (failure : Failure) (count : Nat) : told^[count + 1] (.error failure) =
    .error (.remote failure.kind (failure.kind.headings count ++ failure.message)) := by
  induction count with
  | zero => rw [Function.iterate_one, told_error, ErrorKind.headings_zero_append]
  | succ count ih =>
    rw [Function.iterate_succ_apply', ih, told_error, Failure.message_remote, ErrorKind.headings_succ_append]
    rfl

/-! ## Servers before servers -/

namespace Methods

/-- Hands a request on to a server and takes its reply for the result. -/
def handOn (methods : Methods σ) (expected : Reply → Option α) (request : Request) (server : Server σ) :
    Outcome (Except Failure α) × Server σ :=
  let (response, server) := server.handleFrame methods (Client.requestPayload request)
  let result := Client.resultOf (Server.responsePayload response)
  (.returned (result.bind fun reply ↦
    match expected reply with
    | some value => .ok value
    | none => .error (Client.unexpected request.method reply)), server)

/-- The methods of a server that hands its requests on to another one. -/
def proxy (methods : Methods σ) : Methods (Server σ) where
  mount args := methods.handOn Client.unit? (.mount args)
  decrypt args := methods.handOn (fun reply ↦ (Client.device? reply).map .mk) (.decrypt args)
  mkdir args := methods.handOn Client.unit? (.mkdir args)
  chroot args := methods.handOn Client.unit? (.chroot args)
  loopDevice args := methods.handOn (fun reply ↦ (Client.index? reply).map .mk) (.loopDevice args)
  setHostname args := methods.handOn Client.unit? (.setHostname args)
  setFsId args := methods.handOn Client.unit? (.setFsId args)
  chdir args := methods.handOn Client.unit? (.chdir args)

variable {methods : Methods σ} {request : Request} {server : Server σ} {failure : Failure}

theorem handOn_of_failure (expected : Reply → Option α)
    (h : (server.handle methods request).1 = .ofFailure failure) :
    methods.handOn expected request server =
      (.returned (.error (.remote failure.kind failure.message)), (server.handle methods request).2) := by
  have htold : Client.resultOf (Server.responsePayload (.ofFailure failure)) =
    .error (.remote failure.kind failure.message) := told_error failure
  simp only [handOn, Server.handleFrame_requestPayload, h, htold]
  rfl

theorem dispatch_proxy_of_failure (h : (server.handle methods request).1 = .ofFailure failure) :
    methods.proxy.dispatch request server =
      (.returned (.error (.remote failure.kind failure.message)), (server.handle methods request).2) := by
  cases request <;> simp only [dispatch, proxy, handOn_of_failure _ h] <;> rfl

end Methods

namespace Server

/-- What the methods of the first of `count + 1` servers work on, if each hands its requests on to the next one. -/
def Behind (σ : Type) : (count : Nat) → Type
  | 0 => σ
  | count + 1 => Server (Behind σ count)

/-- The methods of the first of `count + 1` servers. -/
def methodsOf (methods : Methods σ) : (count : Nat) → Methods (Behind σ count)
  | 0 => methods
  | count + 1 => (methodsOf methods count).proxy

/-- A server behind `count` others, none of which is poisoned. -/
def chain (server : Server σ) : (count : Nat) → Server (Behind σ count)
  | 0 => server
  | count + 1 => ⟨chain server count, false⟩

variable {methods : Methods σ} {request : Request} {server : Server σ} {failure : Failure}

/-- A server that hands a request on answers with the failure it was told. -/
theorem handle_proxy_of_failure (h : (server.handle methods request).1 = .ofFailure failure) :
    (⟨server, false⟩ : Server (Server σ)).handle methods.proxy request =
      (.ofFailure (.remote failure.kind failure.message),
        ⟨(server.handle methods request).2, !request.isDecrypt && failure.isUnsafe⟩) := by
  simp only [handle, Methods.dispatch_proxy_of_failure h]
  rfl

/-- By induction on the chain: the failure of the server behind is the one that the proxy reports. -/
theorem handle_chain (h : (server.handle methods request).1 = .ofFailure failure) (count : Nat) :
    ∃ reported, told^[count] (.error failure) = .error reported ∧
      ((server.chain count).handle (methodsOf methods count) request).1 = .ofFailure reported := by
  induction count with
  | zero => exact ⟨failure, rfl, h⟩
  | succ count ih =>
    obtain ⟨reported, htold, hanswer⟩ := ih
    refine ⟨.remote reported.kind reported.message, ?_, ?_⟩
    · rw [Function.iterate_succ_apply', htold, told_error]
    · exact congrArg Prod.fst (handle_proxy_of_failure hanswer)

end Server

/-- What holds of a failure on its way through servers. -/
structure RelayLaws (failure : Failure) : Prop where
  /-- After any number of reports it is a remote one of its own kind. -/
  remote (count : Nat) : told^[count + 1] (.error failure) =
    .error (.remote failure.kind (failure.kind.headings count ++ failure.message))
  /-- On none of them it becomes or ceases to be an unsafe one. -/
  isUnsafe (count : Nat) (reported : Failure) (hreported : told^[count] (.error failure) = .error reported) :
    reported.isUnsafe = failure.isUnsafe
  /-- It is what the first of any number of servers answers a request with if it is the answer of the last one. -/
  answered {σ : Type} (methods : Methods σ) (request : Request) (server : Server σ)
    (hanswer : (server.handle methods request).1 = .ofFailure failure) (count : Nat) :
    ((server.chain (count + 1)).handle (Server.methodsOf methods (count + 1)) request).1 =
      .ofFailure (.remote failure.kind (failure.kind.headings count ++ failure.message))
  /-- Every server before the last one is poisoned if it is unsafe, but not by opening a device. -/
  poisons {σ : Type} (methods : Methods σ) (request : Request) (server : Server σ)
    (hanswer : (server.handle methods request).1 = .ofFailure failure) (count : Nat) :
    ((server.chain (count + 1)).handle (Server.methodsOf methods (count + 1)) request).2 =
      ⟨((server.chain count).handle (Server.methodsOf methods count) request).2,
        !request.isDecrypt && failure.isUnsafe⟩

/-- Being told does not change whether a failure is unsafe. -/
theorem isUnsafe_of_told {failure reported : Failure} {count : Nat}
    (h : told^[count] (.error failure) = .error reported) : reported.isUnsafe = failure.isUnsafe := by
  cases count with
  | zero =>
    cases h
    rfl
  | succ count =>
    rw [iterate_told] at h
    cases h
    rfl

theorem relay_laws (failure : Failure) : RelayLaws failure where
  remote := iterate_told failure
  isUnsafe _ _ := isUnsafe_of_told
  answered methods request server hanswer count := by
    obtain ⟨reported, htold, hhandle⟩ := Server.handle_chain hanswer (count + 1)
    rw [iterate_told] at htold
    cases htold
    exact hhandle
  poisons methods request server hanswer count := by
    obtain ⟨reported, htold, hhandle⟩ := Server.handle_chain hanswer count
    rw [← isUnsafe_of_told htold]
    exact congrArg Prod.snd (Server.handle_proxy_of_failure hhandle)

end ContainerConstruction
