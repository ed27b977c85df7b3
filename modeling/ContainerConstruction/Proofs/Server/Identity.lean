import ContainerConstruction.Proofs.Operation.Identity
import ContainerConstruction.Proofs.Server.Poisoning
import ContainerConstruction.Server.HostTraffic

/-!
# The identity of a server

A server that is not poisoned has an identity that is known: whoever knows the identity at the start, the
requests and their answers knows the identity now.  It is the one that the last request for an identity was
granted, or the one that the answer names if that request was refused.

An identity that is asked for can be granted by half, one id and not the other.  Nothing is taken back then,
and the half that was granted stays in force.
-/

namespace ContainerConstruction

variable {σ : Type}

/-- The operations on the host, carried out on a kernel. -/
def IdentityKernel.methods (kernel : IdentityKernel σ) : Methods σ :=
  HostMethods.ofMachine kernel.worker kernel.caller

def SetFsIdArgs.identity (args : SetFsIdArgs) : FsIdentity := ⟨args.uid, args.gid⟩

/-- A request with its answer. -/
structure AnsweredRequest where
  request : Request
  response : Response

/-- The identity that was asked for, if the request succeeded. -/
def AnsweredRequest.granted? (answered : AnsweredRequest) : Option FsIdentity :=
  match answered.request, answered.response with
  | .setFsId args, .ok _ => some args.identity
  | _, _ => none

/-! ## What the answers tell -/

namespace FsIdentity

/-- One of the two ids that were asked for is in force, and the other one is as before. -/
structure IsHalfOf (now before target : FsIdentity) : Prop where
  half : now = ⟨target.uid, before.gid⟩ ∨ now = ⟨before.uid, target.gid⟩
  ne_before : now ≠ before
  ne_target : now ≠ target

/-- What an answered request tells of the identity `now` that was `before` until then. -/
def Follows (before : FsIdentity) (answered : AnsweredRequest) (now : FsIdentity) : Prop :=
  match answered.request with
  | .setFsId args =>
    (answered.response = .ok .unit ∧ now = args.identity) ∨
      answered.response = .ofFailure (refusal args.identity now) ∧ now ≠ args.identity ∧
        (now = before ∨ now.IsHalfOf before args.identity)
  | _ => now = before

/-- What several answered requests tell of the identity in the end. -/
def Leads (start : FsIdentity) : List AnsweredRequest → FsIdentity → Prop
  | [], last => last = start
  | answered :: rest, last => ∃ now, Follows start answered now ∧ Leads now rest last

/-- The identity of the last request for one that succeeded. -/
def lastGranted (start : FsIdentity) (answered : List AnsweredRequest) : FsIdentity :=
  answered.foldl (fun identity answered ↦ answered.granted?.getD identity) start

/-- A request for an identity was granted by half, and none has succeeded since then. -/
def HalfGranted (start : FsIdentity) (answered : List AnsweredRequest) (last : FsIdentity) : Prop :=
  ∃ earlier args before now later,
    answered = earlier ++ ⟨.setFsId args, .ofFailure (refusal args.identity now)⟩ :: later ∧
      Leads start earlier before ∧ now.IsHalfOf before args.identity ∧ Leads now later last ∧
        ∀ answered ∈ later, answered.granted? = none

/-- A mix is the old identity, the new one, or half of each. -/
theorem IsMixOf.cases {now before target : FsIdentity} (h : now.IsMixOf before target) :
    now = before ∨ now = target ∨ now.IsHalfOf before target := by
  by_cases hbefore : now = before
  · exact .inl hbefore
  · by_cases htarget : now = target
    · exact .inr (.inl htarget)
    · refine .inr (.inr ⟨?_, hbefore, htarget⟩)
      obtain ⟨huid | huid, hgid | hgid⟩ := h
      · exact absurd (by cases now; cases before; simp_all) hbefore
      · exact .inr (by cases now; simp_all)
      · exact .inl (by cases now; simp_all)
      · exact absurd (by cases now; cases target; simp_all) htarget

theorem follows_of_not_asks {before now : FsIdentity} {answered : AnsweredRequest}
    (h : answered.request.asksIdentity = false) : Follows before answered now ↔ now = before := by
  obtain ⟨request, response⟩ := answered
  cases request with
  | setFsId args => cases h
  | _ => rfl

/-- An answer tells the identity: it fits no other one. -/
theorem Follows.unique {before first second : FsIdentity} {answered : AnsweredRequest}
    (hfirst : Follows before answered first) (hsecond : Follows before answered second) :
    first = second := by
  obtain ⟨request, response⟩ := answered
  cases request with
  | setFsId args =>
    obtain ⟨hok, rfl⟩ | ⟨hrefused, -, -⟩ := hfirst
    · obtain ⟨-, rfl⟩ | ⟨herror, -, -⟩ := hsecond
      · rfl
      · cases hok.symm.trans herror
    · obtain ⟨hok, -⟩ | ⟨herror, -, -⟩ := hsecond
      · cases hok.symm.trans hrefused
      · exact refusal_injective (hrefused.symm.trans herror)
  | _ => exact Eq.trans hfirst (Eq.symm hsecond)

/-- Answers lead to one identity. -/
theorem Leads.unique {start first second : FsIdentity} {answered : List AnsweredRequest}
    (hfirst : Leads start answered first) (hsecond : Leads start answered second) : first = second := by
  induction answered generalizing start with
  | nil => exact Eq.trans hfirst (Eq.symm hsecond)
  | cons request rest ih =>
    obtain ⟨now, hnow, hrest⟩ := hfirst
    obtain ⟨other, hother, hothers⟩ := hsecond
    rw [hother.unique hnow] at hothers
    exact ih hrest hothers

/-- The identity is the one at the start, or the last request for one tells it: that request was granted, or
its answer names the identity. -/
theorem Leads.last {start last : FsIdentity} {answered : List AnsweredRequest}
    (h : Leads start answered last) :
    (last = start ∧ ∀ request ∈ answered, request.request.asksIdentity = false) ∨
      ∃ earlier args response later, answered = earlier ++ ⟨.setFsId args, response⟩ :: later ∧
        (∀ request ∈ later, request.request.asksIdentity = false) ∧
        (response = .ok .unit ∧ last = args.identity ∨
          response = .ofFailure (refusal args.identity last) ∧ last ≠ args.identity) := by
  induction answered generalizing start with
  | nil => exact .inl ⟨h, nofun⟩
  | cons first rest ih =>
    obtain ⟨now, hnow, hrest⟩ := h
    obtain ⟨rfl, hlater⟩ | ⟨earlier, args, response, later, hsplit, hlater, hlast⟩ := ih hrest
    · obtain ⟨request, response⟩ := first
      cases hasks : request.asksIdentity with
      | false =>
        have hstart := (follows_of_not_asks hasks).mp hnow
        exact .inl ⟨hstart, List.forall_mem_cons.mpr ⟨hasks, hlater⟩⟩
      | true =>
        cases request with
        | setFsId args =>
          have htold : response = .ok .unit ∧ last = args.identity ∨
              response = .ofFailure (refusal args.identity last) ∧ last ≠ args.identity :=
            hnow.imp_right fun hrefused ↦ ⟨hrefused.1, hrefused.2.1⟩
          exact .inr ⟨[], args, response, rest, rfl, hlater, htold⟩
        | _ => cases hasks
    · refine .inr ⟨first :: earlier, args, response, later, ?_, hlater, hlast⟩
      rw [hsplit, List.cons_append]

/-- An answer tells of the identity that was granted, or of one that was granted by half. -/
theorem Follows.granted_or_half {before now : FsIdentity} {answered : AnsweredRequest}
    (h : Follows before answered now) :
    now = answered.granted?.getD before ∨
      ∃ args, answered = ⟨.setFsId args, .ofFailure (refusal args.identity now)⟩ ∧
        now.IsHalfOf before args.identity := by
  obtain ⟨request, response⟩ := answered
  cases request with
  | setFsId args =>
    obtain ⟨hok, hnow⟩ | ⟨hrefused, -, hnow | hhalf⟩ := h
    · cases hok
      exact .inl hnow
    · cases hrefused
      exact .inl hnow
    · cases hrefused
      exact .inr ⟨args, rfl, hhalf⟩
  | _ => exact .inl h

theorem lastGranted_of_granted (first second : FsIdentity) {answered : List AnsweredRequest}
    (h : ¬∀ request ∈ answered, request.granted? = none) :
    lastGranted first answered = lastGranted second answered := by
  induction answered generalizing first second with
  | nil => exact absurd nofun h
  | cons request rest ih =>
    cases hgranted : request.granted? with
    | some identity => simp [lastGranted, hgranted]
    | none =>
      simp only [lastGranted, List.foldl_cons, hgranted, Option.getD_none]
      apply ih first second
      intro hrest
      exact h (List.forall_mem_cons.mpr ⟨hgranted, hrest⟩)

/-- The identity is that of the last request for one that succeeded, unless a request since then was granted
by half. -/
theorem Leads.lastGranted_or_half {start last : FsIdentity} {answered : List AnsweredRequest}
    (h : Leads start answered last) :
    last = lastGranted start answered ∨ HalfGranted start answered last := by
  induction answered generalizing start with
  | nil => exact .inl h
  | cons request rest ih =>
    obtain ⟨now, hnow, hrest⟩ := h
    obtain hlast | ⟨earlier, args, before, half, later, hsplit, hearlier, hhalf⟩ := ih hrest
    · obtain rfl | ⟨args, rfl, hhalf⟩ := hnow.granted_or_half
      · exact .inl hlast
      · by_cases hgranted : ∀ request ∈ rest, request.granted? = none
        · exact .inr ⟨[], args, start, now, rest, rfl, rfl, hhalf, hrest, hgranted⟩
        · exact .inl (hlast.trans (lastGranted_of_granted now start hgranted))
    · refine .inr ⟨request :: earlier, args, before, half, later, ?_, ⟨now, hnow, hearlier⟩, hhalf⟩
      rw [hsplit, List.cons_append]

end FsIdentity

/-! ## Requests on the host -/

open FsIdentity (KeepsOrReports keepsOrReports_bind keepsOrReports_of_keeps refusal)

theorem Request.replying_ensures {α : Type} (make : α → Reply) {operation : Operation α}
    {before : FsIdentity} (h : operation.Ensures before.KeepsOrReports before) :
    (replying make operation).Ensures before.KeepsOrReports before := by
  apply keepsOrReports_bind h
  intro value
  exact Operation.ensures_pure (.inl rfl)

/-- An operation that has no business with ids keeps the identity. -/
theorem Request.operation_keeps {request : Request} (hattaches : request.attachesImage = false)
    (hasks : request.asksIdentity = false) : request.operation.KeepsIdentity :=
  ((operation_confined hattaches hasks).allow fun _ ↦ KernelCall.asksId_of_isGuarded).keeps

/-- Every operation but the one that changes the identity for good keeps it, or reports its loss. -/
theorem Request.operation_ensures {request : Request} (hasks : request.asksIdentity = false)
    (before : FsIdentity) : request.operation.Ensures before.KeepsOrReports before := by
  cases hattaches : request.attachesImage with
  | false => exact keepsOrReports_of_keeps (operation_keeps hattaches hasks) before
  | true =>
    cases request with
    | loopDevice args => exact replying_ensures _ (args.perform_ensures before)
    | _ => cases hattaches

/-- The request for an identity succeeds if that identity is in force afterwards, and tells which one is in
force otherwise. -/
theorem SetFsIdArgs.operation_ensures (args : SetFsIdArgs) (before : FsIdentity) :
    (Request.setFsId args).operation.Ensures (fun result now ↦ now.IsMixOf before args.identity ∧
      if now = args.identity then result = .ok .unit
      else result = .error (refusal args.identity now)) before := by
  apply (FsIdentity.apply_ensures args.identity before).bind
  · rintro _ now ⟨hmix, hresult⟩
    apply Operation.ensures_pure
    by_cases hnow : now = args.identity
    · exact ⟨hmix, by rw [if_pos hnow]⟩
    · rw [if_neg hnow] at hresult
      cases hresult
  · rintro failure now ⟨hmix, hresult⟩
    by_cases hnow : now = args.identity
    · rw [if_pos hnow] at hresult
      cases hresult
    · rw [if_neg hnow] at hresult
      cases hresult
      exact ⟨hmix, by rw [if_neg hnow]⟩

namespace Server

/-! ## Requests one after the other -/

/-- The server after some requests. -/
def afterRequests (methods : Methods σ) (requests : List Request) (server : Server σ) : Server σ :=
  requests.foldl (fun server request ↦ (server.handle methods request).2) server

/-- The requests with their answers. -/
def answeredRequests (methods : Methods σ) : List Request → Server σ → List AnsweredRequest
  | [], _ => []
  | request :: rest, server =>
    ⟨request, (server.handle methods request).1⟩ ::
      answeredRequests methods rest (server.handle methods request).2

theorem not_poisoned_of_afterRequests (methods : Methods σ) {requests : List Request}
    {server : Server σ} (h : (server.afterRequests methods requests).poisoned = false) :
    server.poisoned = false := by
  induction requests generalizing server with
  | nil => exact h
  | cons request rest ih => exact not_poisoned_of_handle methods (ih h)

variable (kernel : IdentityKernel σ) {request : Request} {server : Server σ}

/-- The answer to a request whose operation the worker carries out. -/
theorem handle_onWorker {post : Except Failure Reply → FsIdentity → Prop}
    (hpoisoned : server.poisoned = false) (hdecrypt : request.isDecrypt = false)
    (h : request.operation.Ensures post (kernel.identity server.state)) :
    ∃ result after,
      server.handle kernel.methods request = (.ofResult result, ⟨after, poisons request result⟩) ∧
        post result (kernel.identity after) := by
  obtain ⟨result, after, hrun, hpost⟩ := Program.Ensures.run kernel h
  have hdispatch : kernel.methods.dispatch request server.state = (.returned result, after) := by
    rw [IdentityKernel.methods, Request.dispatch_ofMachine, hdecrypt, hrun]
    rfl
  refine ⟨result, after, ?_, hpost⟩
  rw [handle, hpoisoned, hdispatch]
  rfl

/-- The thread that opens an encrypted device is not the worker. -/
theorem identity_handle_of_isDecrypt (hpoisoned : server.poisoned = false)
    (hdecrypt : request.isDecrypt = true) :
    kernel.identity (server.handle kernel.methods request).2.state = kernel.identity server.state := by
  have hstate : (server.handle kernel.methods request).2.state =
      (Program.run kernel.caller request.operation.run server.state).2 := by
    rw [handle, hpoisoned]
    simp [IdentityKernel.methods, Request.dispatch_ofMachine, hdecrypt]
  rw [hstate]
  exact Program.identity_run_caller kernel _ server.state

/-- A request that asks for no identity leaves it as it is, unless it poisons the server. -/
theorem identity_handle_of_not_asks (hasks : request.asksIdentity = false)
    (h : (server.handle kernel.methods request).2.poisoned = false) :
    kernel.identity (server.handle kernel.methods request).2.state = kernel.identity server.state := by
  have hpoisoned := not_poisoned_of_handle kernel.methods h
  cases hdecrypt : request.isDecrypt with
  | true => exact identity_handle_of_isDecrypt kernel hpoisoned hdecrypt
  | false =>
    have hoperation := Request.operation_ensures hasks (kernel.identity server.state)
    obtain ⟨result, after, hhandle, hkept⟩ := handle_onWorker kernel hpoisoned hdecrypt hoperation
    rw [hhandle] at h ⊢
    obtain hkept | ⟨message, rfl⟩ := hkept
    · exact hkept
    · have hpoisons : poisons request (.error (.identityRestore message)) = true :=
        (poisons_iff request _).mpr ⟨hdecrypt, _, rfl, rfl⟩
      exact absurd (hpoisons.symm.trans h) nofun

/-- The answer to a request for an identity tells which one is in force. -/
theorem handle_setFsId_follows (args : SetFsIdArgs) (hpoisoned : server.poisoned = false) :
    FsIdentity.Follows (kernel.identity server.state)
      ⟨.setFsId args, (server.handle kernel.methods (.setFsId args)).1⟩
      (kernel.identity (server.handle kernel.methods (.setFsId args)).2.state) := by
  have hoperation := args.operation_ensures (kernel.identity server.state)
  obtain ⟨result, after, hhandle, hmix, hresult⟩ := handle_onWorker kernel hpoisoned rfl hoperation
  rw [hhandle]
  by_cases hnow : kernel.identity after = args.identity
  · rw [if_pos hnow] at hresult
    rw [hresult]
    exact .inl ⟨rfl, hnow⟩
  · rw [if_neg hnow] at hresult
    rw [hresult]
    refine .inr ⟨rfl, hnow, ?_⟩
    obtain hbefore | htarget | hhalf := hmix.cases
    · exact .inl hbefore
    · exact absurd htarget hnow
    · exact .inr hhalf

/-- Answering one request: unless the server is poisoned, the answer tells the identity. -/
theorem handle_follows (h : (server.handle kernel.methods request).2.poisoned = false) :
    FsIdentity.Follows (kernel.identity server.state)
      ⟨request, (server.handle kernel.methods request).1⟩
      (kernel.identity (server.handle kernel.methods request).2.state) := by
  cases hasks : request.asksIdentity with
  | false =>
    rw [FsIdentity.follows_of_not_asks hasks]
    exact identity_handle_of_not_asks kernel hasks h
  | true =>
    cases request with
    | setFsId args =>
      exact handle_setFsId_follows kernel args (not_poisoned_of_handle kernel.methods h)
    | _ => cases hasks

/-- As long as the server is not poisoned, the answers lead to the identity of the worker. -/
theorem afterRequests_leads (requests : List Request)
    (h : (server.afterRequests kernel.methods requests).poisoned = false) :
    FsIdentity.Leads (kernel.identity server.state) (answeredRequests kernel.methods requests server)
      (kernel.identity (server.afterRequests kernel.methods requests).state) := by
  induction requests generalizing server with
  | nil => rfl
  | cons request rest ih =>
    have hfirst : (server.handle kernel.methods request).2.poisoned = false :=
      not_poisoned_of_afterRequests kernel.methods h
    exact ⟨_, handle_follows kernel hfirst, ih h⟩

end Server

/-! ## An example of a kernel -/

/-- The answer of a kernel that refuses a call. -/
def KernelCall.refused : (call : KernelCall) → call.Answer
  | setFsUid _ | setFsGid _ | diskGroup | setUmask _ => (0 : UInt32)
  | makeDirectory .. | changeDirectory _ | changeDirectoryTo _ | changeRoot _ | pivotRoot .. | mount ..
  | detachMount _ | setHostname _ | unshare _ | joinIpc _ | checkDescriptor _ | makeBlockNode ..
  | loopStatus _ | bindLoop .. | configureLoop .. | unbindLoop _ => .error .notPermitted
  | openDirectory _ | openNamespace _ | openImage .. | openDevice .. | identifyFile _ | beginThread =>
    .error (.errno .notPermitted)
  | workingDirectory => none
  | pathExists _ => false
  | locateProgram _ => .error "no such program"
  | freshName => ""
  | runTool .. => .error (.start (.errno .notPermitted))
  | endThread => ()

/-- A kernel that grants every identity and refuses all else. -/
def IdentityKernel.granting : IdentityKernel FsIdentity where
  worker := ⟨fun call identity ↦
    match call with
    | .setFsUid id => (identity.uid, if id = FsIdentity.noId then identity else { identity with uid := id })
    | .setFsGid id => (identity.gid, if id = FsIdentity.noId then identity else { identity with gid := id })
    | call => (call.refused, identity)⟩
  caller := ⟨fun call identity ↦ (call.refused, identity)⟩
  identity := id
  permits call identity := by
    cases call with
    | setFsUid id =>
      by_cases hid : id = FsIdentity.noId
      · exact ⟨rfl, .inl (if_pos hid)⟩
      · exact ⟨rfl, .inr ⟨hid, if_neg hid⟩⟩
    | setFsGid id =>
      by_cases hid : id = FsIdentity.noId
      · exact ⟨rfl, .inl (if_pos hid)⟩
      · exact ⟨rfl, .inr ⟨hid, if_neg hid⟩⟩
    | _ => rfl
  keeps _ _ := rfl

/-! ## The identity is known -/

/-- What is known of the identity `now` of a server that began with the identity `start`, from the answers
that it has given. -/
structure IdentityKnown (start : FsIdentity) (answered : List AnsweredRequest) (now : FsIdentity) :
    Prop where
  /-- Each answer tells what became of the identity: only a request for an identity changes it. -/
  leads : start.Leads answered now
  /-- The answers fit no other identity. -/
  unique : ∀ other, start.Leads answered other → other = now
  /-- The last request for an identity was granted, or its answer names the identity. -/
  last : (now = start ∧ ∀ request ∈ answered, request.request.asksIdentity = false) ∨
    ∃ earlier args response later, answered = earlier ++ ⟨.setFsId args, response⟩ :: later ∧
      (∀ request ∈ later, request.request.asksIdentity = false) ∧
      (response = .ok .unit ∧ now = args.identity ∨
        response = .ofFailure (refusal args.identity now) ∧ now ≠ args.identity)
  /-- The identity is that of the last request for one that succeeded, or the one at the start, unless a
  request since then was granted by half. -/
  granted_or_half : now = start.lastGranted answered ∨ start.HalfGranted answered now

/-- The identity of a server that is not poisoned is known, on every kernel and after all requests. -/
theorem Server.identity_known (kernel : IdentityKernel σ) (requests : List Request) (server : Server σ)
    (h : (server.afterRequests kernel.methods requests).poisoned = false) :
    IdentityKnown (kernel.identity server.state) (server.answeredRequests kernel.methods requests)
      (kernel.identity (server.afterRequests kernel.methods requests).state) := by
  have hleads := afterRequests_leads kernel requests h
  exact ⟨hleads, fun _ hother ↦ hother.unique hleads, hleads.last, hleads.lastGranted_or_half⟩

/-- The group of the first request is never granted. -/
def halvingRequests : List Request := [.setFsId ⟨1000, 4294967295⟩, .mkdir ⟨"/run/root", 493⟩]

theorem Server.identity_known_granting :
    (Server.afterRequests IdentityKernel.granting.methods halvingRequests ⟨⟨0, 0⟩, false⟩).poisoned = false ∧
      IdentityKnown ⟨0, 0⟩
        (Server.answeredRequests IdentityKernel.granting.methods halvingRequests ⟨⟨0, 0⟩, false⟩)
        ⟨1000, 0⟩ :=
  ⟨rfl, identity_known IdentityKernel.granting halvingRequests ⟨⟨0, 0⟩, false⟩ rfl⟩

/-- A refused identity is not always the one before: here a user id is in force that no successful request
has asked for, and the server is not poisoned. -/
theorem Server.identity_halved :
    (Server.afterRequests IdentityKernel.granting.methods halvingRequests ⟨⟨0, 0⟩, false⟩).poisoned = false ∧
      (Server.afterRequests IdentityKernel.granting.methods halvingRequests ⟨⟨0, 0⟩, false⟩).state =
        ⟨1000, 0⟩ ∧
      FsIdentity.lastGranted ⟨0, 0⟩
        (Server.answeredRequests IdentityKernel.granting.methods halvingRequests ⟨⟨0, 0⟩, false⟩) =
        ⟨0, 0⟩ :=
  ⟨rfl, rfl, rfl⟩

end ContainerConstruction
