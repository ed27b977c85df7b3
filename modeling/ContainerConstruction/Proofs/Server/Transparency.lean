import ContainerConstruction.Proofs.Server.Stream
import ContainerConstruction.Server.Construction

/-!
# Carrying out a plan is calling its methods

`Methods.course` calls the methods of a plan directly, in order and up to the first failure.  A plan that
is carried out through a client and a server makes the same calls, ends in the same state, and fails
exactly when the course fails, with the class and the text of that failure.
-/

namespace ContainerConstruction

variable {σ : Type}

/-! ## The direct course -/

/-- How calling methods one after the other ends. -/
inductive CourseEnding where
  | completed
  | failed (step : Request) (failure : Failure)
  | panicked (step : Request) (panic : Panic)

namespace CourseEnding

/-- What is made of an ending on the other side of a connection. -/
def result : CourseEnding → Except Failure Unit
  | .completed => .ok ()
  | .failed _ failure => .error (.remote failure.kind failure.message)
  | .panicked step panic => .error (.remote .internal (Server.taskFailure step.method panic).message)

/-- Whether an ending poisons the server. -/
def poisons : CourseEnding → Bool
  | .failed step failure => Server.poisons step (.error failure)
  | _ => false

end CourseEnding

/-- Calls that were made directly. -/
structure Course (σ : Type) where
  calls : List Request
  state : σ
  ending : CourseEnding

namespace Methods

/-- Calls the method of each step, up to the first that does not succeed. -/
def course (methods : Methods σ) : List Request → σ → Course σ
  | [], state => ⟨[], state, .completed⟩
  | step :: rest, state =>
    match methods.dispatch step state with
    | (.returned (.ok _), state) =>
      let course := methods.course rest state
      { course with calls := step :: course.calls }
    | (.returned (.error failure), state) => ⟨[step], state, .failed step failure⟩
    | (.panicked panic, state) => ⟨[step], state, .panicked step panic⟩

/-- Every step succeeds, and the last one leaves `final`. -/
inductive AllSucceed (methods : Methods σ) : List Request → σ → σ → Prop where
  | nil (state : σ) : AllSucceed methods [] state state
  | cons {step : Request} {rest : List Request} {state next final : σ} {reply : Reply}
      (hstep : methods.dispatch step state = (.returned (.ok reply), next))
      (hrest : AllSucceed methods rest next final) : AllSucceed methods (step :: rest) state final

/-- The calls of a course are all steps, or those up to the first that does not succeed. -/
theorem course_cases (methods : Methods σ) (steps : List Request) (state : σ) :
    let course := methods.course steps state
    (course.ending = .completed ∧ course.calls = steps ∧ methods.AllSucceed steps state course.state) ∨
      ∃ before step after middle, steps = before ++ step :: after ∧ course.calls = before ++ [step] ∧
        methods.AllSucceed before state middle ∧
        ((∃ failure, course.ending = .failed step failure ∧
            methods.dispatch step middle = (.returned (.error failure), course.state)) ∨
          ∃ panic, course.ending = .panicked step panic ∧
            methods.dispatch step middle = (.panicked panic, course.state)) := by
  induction steps generalizing state with
  | nil => exact .inl ⟨rfl, rfl, .nil state⟩
  | cons step rest ih =>
    simp only [course]
    split
    · rename_i reply next hstep
      obtain ⟨hending, hcalls, hall⟩ | ⟨before, last, after, middle, hsteps, hcalls, hall, hlast⟩ := ih next
      · exact .inl ⟨hending, by rw [hcalls], .cons hstep hall⟩
      · refine .inr ⟨step :: before, last, after, middle, ?_, ?_, .cons hstep hall, hlast⟩
        · rw [hsteps, List.cons_append]
        · rw [hcalls, List.cons_append]
    · rename_i failure next hstep
      exact .inr ⟨[], step, rest, state, rfl, rfl, .nil state, .inl ⟨failure, rfl, hstep⟩⟩
    · rename_i panic next hstep
      exact .inr ⟨[], step, rest, state, rfl, rfl, .nil state, .inr ⟨panic, rfl, hstep⟩⟩

/-- Recording methods note the calls of their course. -/
theorem course_recording (methods : Methods σ) (steps : List Request) (state : σ) (calls : List Request) :
    methods.recording.course steps (state, calls) =
      ⟨(methods.course steps state).calls,
        ((methods.course steps state).state, calls ++ (methods.course steps state).calls),
        (methods.course steps state).ending⟩ := by
  induction steps generalizing state calls with
  | nil => simp [course]
  | cons step rest ih =>
    simp only [course, dispatch_recording]
    rcases methods.dispatch step state with ⟨⟨⟨failure⟩ | ⟨reply⟩⟩ | ⟨panic⟩, next⟩ <;> simp [ih]

/-- What the requests and the responses of a course take fits one frame each. -/
def Fits (methods : Methods σ) : List Request → σ → Prop
  | [], _ => True
  | step :: rest, state =>
    (Client.requestPayload step).length ≤ Frame.maximalLength ∧
      Server.FitsFrame (Server.handle methods step ⟨state, false⟩).1 ∧
      match methods.dispatch step state with
      | (.returned (.ok _), state) => methods.Fits rest state
      | _ => True

end Methods

/-! ## One call -/

/-- A poisoned server answers once more and closes the connection. -/
theorem Client.call_peer (methods : Methods σ) (request : Request) (server : Server σ)
    (hrequest : (requestPayload request).length ≤ Frame.maximalLength)
    (hresponse : Server.FitsFrame (server.handle methods request).1) :
    call (Session.peer methods) request ⟨⟨server, none⟩, true⟩ =
      ((server.handle methods request).1.result,
        ⟨⟨(server.handle methods request).2,
            if (server.handle methods request).2.poisoned then some Server.poisonedFailure else none⟩,
          !(server.handle methods request).2.poisoned⟩) := by
  have hencode : Frame.encode (requestPayload request) = .ok (Frame.framed (requestPayload request)) :=
    if_neg (Nat.not_lt.mpr hrequest)
  have hturn := Server.turn_of_fits methods (requestPayload request) server
  rw [Server.handleFrame_requestPayload] at hturn
  simp only [call, hencode, if_true, Session.peer, Session.react, hturn hresponse]
  cases (server.handle methods request).2.poisoned with
  | false => simp [Client.resultOf_responsePayload]
  | true =>
    have hnext := Frame.next_framed hresponse []
    rw [List.append_nil, Frame.framed] at hnext
    simp [lastResult, hnext, Client.resultOf_responsePayload]

namespace Server

theorem handle_returned_ok (methods : Methods σ) {step : Request} {state next : σ} {reply : Reply}
    (h : methods.dispatch step state = (.returned (.ok reply), next)) :
    handle methods step ⟨state, false⟩ = (.ok reply, ⟨next, false⟩) := by
  simp [handle, h, resultOf, poisons, Response.ofResult]

theorem handle_returned_error (methods : Methods σ) {step : Request} {state next : σ} {failure : Failure}
    (h : methods.dispatch step state = (.returned (.error failure), next)) :
    handle methods step ⟨state, false⟩ =
      (.ofFailure failure, ⟨next, poisons step (.error failure)⟩) := by
  simp [handle, h, resultOf, Response.ofResult]

/-- A panic never poisons the server. -/
theorem handle_panicked (methods : Methods σ) {step : Request} {state next : σ} {panic : Panic}
    (h : methods.dispatch step state = (.panicked panic, next)) :
    handle methods step ⟨state, false⟩ =
      (.ofFailure (taskFailure step.method panic), ⟨next, false⟩) := by
  simp [handle, h, resultOf, Response.ofResult, poisons, Failure.isUnsafe, taskFailure_kind]

end Server

/-! ## The whole plan -/

/-- The client's calls come to the course of the methods. -/
theorem replay_course (methods : Methods σ) (steps : List Request) (state : σ)
    (hfits : methods.Fits steps state) :
    (ConstructionPlan.replay (Client.call (Session.peer methods)) steps).run (Session.connect state) =
      ((methods.course steps state).ending.result,
        ⟨⟨⟨(methods.course steps state).state, (methods.course steps state).ending.poisons⟩,
            if (methods.course steps state).ending.poisons then some Server.poisonedFailure else none⟩,
          !(methods.course steps state).ending.poisons⟩) := by
  induction steps generalizing state with
  | nil => rfl
  | cons step rest ih =>
    obtain ⟨hrequest, hresponse, hrest⟩ := hfits
    have hcall := Client.call_peer methods step ⟨state, false⟩ hrequest hresponse
    have hreplay : (ConstructionPlan.replay (Client.call (Session.peer methods)) (step :: rest)).run
        (Session.connect state) =
        match Client.call (Session.peer methods) step (Session.connect state) with
        | (.error failure, connection) => (.error failure, connection)
        | (.ok _, connection) =>
          (ConstructionPlan.replay (Client.call (Session.peer methods)) rest).run connection := by
      rw [ConstructionPlan.replay, StateT.run_bind]
      rcases hresult : Client.call (Session.peer methods) step (Session.connect state) with
        ⟨⟨_⟩ | ⟨_⟩, connection⟩
      · rw [StateT.run, hresult]
        rfl
      · rw [StateT.run, hresult]
        rfl
    rw [hreplay, Session.connect, hcall, Methods.course]
    rcases hstep : methods.dispatch step state with ⟨⟨⟨failure⟩ | ⟨reply⟩⟩ | ⟨panic⟩, next⟩
    · simp [Server.handle_returned_error methods hstep, CourseEnding.result, CourseEnding.poisons,
        Response.ofFailure, Response.result, RemoteError.ofFailure, RemoteError.toFailure]
      rfl
    · rw [hstep] at hrest
      simpa [Server.handle_returned_ok methods hstep, Response.result, Session.connect] using ih next hrest
    · simp [Server.handle_panicked methods hstep, CourseEnding.result, CourseEnding.poisons,
        Response.ofFailure, Response.result, RemoteError.ofFailure, RemoteError.toFailure,
        Server.taskFailure_kind]

/-- Serving the bytes that were sent comes to the same. -/
theorem serve_course (methods : Methods σ) (steps : List Request) (state : σ)
    (hfits : methods.Fits steps state) :
    ∃ responses, Server.serve methods
        ((methods.course steps state).calls.flatMap fun request ↦
          Frame.framed (Client.requestPayload request))
        ⟨state, false⟩ =
      ⟨responses,
        if (methods.course steps state).ending.poisons then .error Server.poisonedFailure else .ok (),
        ⟨(methods.course steps state).state, (methods.course steps state).ending.poisons⟩⟩ := by
  induction steps generalizing state with
  | nil =>
    refine ⟨[], ?_⟩
    rw [Server.serve_of_not_frame methods (fun _ _ ↦ by simp [Methods.course, Frame.next])]
    rfl
  | cons step rest ih =>
    obtain ⟨hrequest, hresponse, hrest⟩ := hfits
    have hframe (more : List UInt8) := Server.serve_of_frame methods (Frame.next_framed hrequest more)
      ⟨state, false⟩ (by rwa [Server.handleFrame_requestPayload])
    simp only [Server.handleFrame_requestPayload] at hframe
    have hend (server : Server σ) : Server.serve methods [] server = ⟨[], .ok (), server⟩ :=
      Server.serve_of_not_frame methods (fun _ _ ↦ by simp [Frame.next]) server
    rw [Methods.course]
    rcases hstep : methods.dispatch step state with ⟨⟨⟨failure⟩ | ⟨reply⟩⟩ | ⟨panic⟩, next⟩
    · refine ⟨[.ofFailure failure], ?_⟩
      simp only [List.flatMap_cons, List.flatMap_nil, hframe, Server.handle_returned_error methods hstep,
        hend, CourseEnding.poisons]
      by_cases hpoisons : Server.poisons step (.error failure) = true <;> simp [hpoisons]
    · rw [hstep] at hrest
      obtain ⟨responses, hresponses⟩ := ih next hrest
      refine ⟨.ok reply :: responses, ?_⟩
      simp only [List.flatMap_cons, hframe, Server.handle_returned_ok methods hstep, hresponses,
        Bool.false_eq_true, if_false]
    · refine ⟨[.ofFailure (Server.taskFailure step.method panic)], ?_⟩
      simp only [List.flatMap_cons, List.flatMap_nil, hframe, Server.handle_panicked methods hstep, hend,
        CourseEnding.poisons, Bool.false_eq_true, if_false]

/-- Carrying out a plan comes to the course of its steps on both sides. -/
theorem ofPlan_eq (methods : Methods σ) (plan : ConstructionPlan) (state : σ)
    (hfits : methods.Fits plan.steps state) :
    Construction.ofPlan methods plan state =
      ⟨(methods.course plan.steps state).ending.result,
        if (methods.course plan.steps state).ending.poisons then .error Server.poisonedFailure else .ok (),
        ⟨(methods.course plan.steps state).state, (methods.course plan.steps state).ending.poisons⟩⟩ := by
  rw [Construction.ofPlan, replay_course methods plan.steps state hfits]
  cases hpoisons : (methods.course plan.steps state).ending.poisons <;> simp [Session.result]

theorem fits_recording (methods : Methods σ) (steps : List Request) (state : σ) (calls : List Request) :
    methods.recording.Fits steps (state, calls) ↔ methods.Fits steps state := by
  induction steps generalizing state calls with
  | nil => rfl
  | cons step rest ih =>
    have hhandle : (Server.handle methods.recording step ⟨(state, calls), false⟩).1 =
        (Server.handle methods step ⟨state, false⟩).1 :=
      congrArg Prod.fst (Server.handle_recording methods step ⟨state, false⟩ calls)
    simp only [Methods.Fits, hhandle, Methods.dispatch_recording]
    rcases methods.dispatch step state with ⟨⟨⟨failure⟩ | ⟨reply⟩⟩ | ⟨panic⟩, next⟩ <;> simp [ih]

/-- What carrying out a plan comes to, when the calls are noted. -/
theorem ofPlan_recording (methods : Methods σ) (plan : ConstructionPlan) (state : σ)
    (hfits : methods.Fits plan.steps state) :
    Construction.ofPlan methods.recording plan (state, []) =
      ⟨(methods.course plan.steps state).ending.result,
        if (methods.course plan.steps state).ending.poisons then .error Server.poisonedFailure else .ok (),
        ⟨((methods.course plan.steps state).state, (methods.course plan.steps state).calls),
          (methods.course plan.steps state).ending.poisons⟩⟩ := by
  have hrecording := (fits_recording methods plan.steps state []).mpr hfits
  rw [ofPlan_eq methods.recording plan (state, []) hrecording, methods.course_recording]
  rfl

/-- A plan is carried out as if its methods were called directly: with the same calls, the same state and
the same failure, and on the server's side without a failure unless that poisons it. -/
theorem construction_transparent (methods : Methods σ) (plan : ConstructionPlan) (state : σ)
    (hfits : methods.Fits plan.steps state) :
    let course := methods.course plan.steps state
    let construction := Construction.ofPlan methods.recording plan (state, [])
    construction.server.state = (course.state, course.calls) ∧
      ((methods.AllSucceed plan.steps state course.state ∧ course.calls = plan.steps ∧
          construction.constructed = .ok () ∧ construction.served = .ok () ∧
          construction.server.poisoned = false) ∨
        ∃ before step after middle, plan.steps = before ++ step :: after ∧ course.calls = before ++ [step] ∧
          methods.AllSucceed before state middle ∧
          ((∃ failure, methods.dispatch step middle = (.returned (.error failure), course.state) ∧
              construction.constructed = .error (.remote failure.kind failure.message)) ∨
            ∃ panic, methods.dispatch step middle = (.panicked panic, course.state) ∧
              construction.constructed =
                .error (.remote .internal (Server.taskFailure step.method panic).message))) ∧
      construction.served =
        (if construction.server.poisoned then .error Server.poisonedFailure else .ok ()) ∧
      ∃ responses, Server.serve methods.recording
          (course.calls.flatMap fun request ↦ Frame.framed (Client.requestPayload request))
          ⟨(state, []), false⟩ =
        ⟨responses, construction.served, construction.server⟩ := by
  intro course construction
  have hconstruction : construction = _ := ofPlan_recording methods plan state hfits
  obtain ⟨responses, hserve⟩ := serve_course methods.recording plan.steps (state, [])
    ((fits_recording methods plan.steps state []).mpr hfits)
  rw [methods.course_recording plan.steps state []] at hserve
  refine ⟨by rw [hconstruction], ?_, by rw [hconstruction], responses, by rw [hconstruction]; exact hserve⟩
  obtain ⟨hending, hcalls, hall⟩ | ⟨before, step, after, middle, hsteps, hcalls, hall, hlast⟩ :=
    methods.course_cases plan.steps state
  · refine .inl ⟨hall, hcalls, ?_⟩
    rw [hconstruction, show course.ending = .completed from hending]
    exact ⟨rfl, rfl, rfl⟩
  · refine .inr ⟨before, step, after, middle, hsteps, hcalls, hall, ?_⟩
    obtain ⟨failure, hending, hstep⟩ | ⟨panic, hending, hstep⟩ := hlast
    · refine .inl ⟨failure, hstep, ?_⟩
      rw [hconstruction, show course.ending = .failed step failure from hending]
      rfl
    · refine .inr ⟨panic, hstep, ?_⟩
      rw [hconstruction, show course.ending = .panicked step panic from hending]
      rfl

/-- The last step of this plan is not called, since the one before fails. -/
def fragilePlan : ConstructionPlan :=
  ⟨[.mkdir ⟨"/run/root", 493⟩, .setFsId ⟨0, 0⟩, .mkdir ⟨"/run/root/proc", 493⟩]⟩

theorem construction_transparent_fragile :
    Methods.fragile.Fits fragilePlan.steps 0 ∧
      (Construction.ofPlan Methods.fragile.recording fragilePlan (0, [])).server.state =
        (2, [.mkdir ⟨"/run/root", 493⟩, .setFsId ⟨0, 0⟩]) := by
  have hfits : Methods.fragile.Fits fragilePlan.steps 0 :=
    ⟨by decide +kernel, by decide +kernel, by decide +kernel, by decide +kernel, trivial⟩
  exact ⟨hfits, (construction_transparent Methods.fragile fragilePlan 0 hfits).1⟩

end ContainerConstruction
