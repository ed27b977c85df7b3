import ContainerConstruction.Proofs.Server.Stream
import ContainerConstruction.Server.Concurrent

/-!
# Poisoning

Handlings that take their steps in any order share one flag.  `Handling.poisoned_step` says when a step
sets it; everything else about the flag follows, over whole schedules: it is never taken back, it is set
before the response to an unsafe failure is there, and nothing else sets it.

Which methods are called is told by methods that note their calls.  `Traffic.run_recording` finds each note
at the step of a handling that was admitted, so that a handling that sees the flag calls nothing.  A schedule
that lets a handling take its steps brings it to its answer: `Progress.remaining` counts the steps to go.
-/

namespace ContainerConstruction

variable {σ : Type}

/-- The unsafe failures are the lost states, told directly or by a remote server. -/
theorem Failure.isUnsafe_iff (failure : Failure) :
    failure.isUnsafe = true ↔
      (∃ message, failure = .identityRestore message) ∨ (∃ message, failure = .namespaceRestore message) ∨
        ∃ message, failure = .remote .unsafeState message := by
  unfold isUnsafe
  rw [decide_eq_true_iff]
  cases failure <;> simp [kind]

/-- Only a request that does not open a device poisons, and only with an unsafe failure. -/
theorem Server.poisons_iff (request : Request) (result : Except Failure Reply) :
    Server.poisons request result = true ↔
      request.isDecrypt = false ∧ ∃ failure, result = .error failure ∧ failure.isUnsafe = true := by
  cases result <;> simp [Server.poisons]

/-- An unsafe failure was returned: a panic leaves none. -/
theorem Server.returned_of_isUnsafe {request : Request} {outcome : Outcome (Except Failure Reply)}
    {failure : Failure} (h : .error failure = Server.resultOf request outcome)
    (hlost : failure.isUnsafe = true) : outcome = .returned (.error failure) := by
  cases outcome with
  | returned result => exact congrArg Outcome.returned h.symm
  | panicked panic =>
    cases h
    simp [Failure.isUnsafe, Server.taskFailure_kind] at hlost

/-- The steps that are still to be taken before the answer is there. -/
def Progress.remaining : Progress → Nat
  | .arrived => Handling.stepsToAnswer
  | .admitted => 3
  | .performed _ => 2
  | .recorded _ | .refused => 1
  | .answered _ => 0

theorem Progress.remaining_eq_zero {progress : Progress} (h : progress.remaining = 0) :
    ∃ response, progress = .answered response := by
  cases progress with
  | answered response => exact ⟨response, rfl⟩
  | arrived | refused | admitted | performed | recorded => cases h

namespace Handling

/-- The call that the next step makes, as the request it is made for. -/
def call? (handling : Handling) : Option Request :=
  match handling.progress with
  | .admitted => some handling.request
  | _ => none

/-- Whether the next step sets the flag. -/
def isAboutToPoison (handling : Handling) : Bool :=
  match handling.progress with
  | .performed result => Server.poisons handling.request result
  | _ => false

/-- A step leaves the flag set, and sets it only for a result that poisons. -/
theorem poisoned_step (methods : Methods σ) (handling : Handling) (server : Server σ) :
    (handling.step methods server).2.poisoned = (server.poisoned || handling.isAboutToPoison) := by
  unfold step isAboutToPoison
  split <;> rename_i hprogress <;> simp [hprogress]

theorem request_step (methods : Methods σ) (handling : Handling) (server : Server σ) :
    (handling.step methods server).1.request = handling.request := by
  unfold step
  split <;> rfl

/-- A step is one step nearer to the answer, or the answer is there. -/
theorem remaining_step (methods : Methods σ) (handling : Handling) (server : Server σ) :
    (handling.step methods server).1.progress.remaining ≤ handling.progress.remaining - 1 := by
  obtain ⟨request, progress⟩ := handling
  cases progress with
  | arrived => cases hpoisoned : server.poisoned <;> simp [step, Progress.remaining, stepsToAnswer, hpoisoned]
  | refused | admitted | performed | recorded | answered => exact Nat.le_refl _

/-- Methods that note their calls do what they do otherwise, and the step of an admitted handling is noted. -/
theorem step_recording (methods : Methods σ) (handling : Handling) (server : Server σ)
    (noted : List Request) :
    handling.step methods.recording (server.recorded noted) =
      ((handling.step methods server).1,
        (handling.step methods server).2.recorded (noted ++ handling.call?.toList)) := by
  obtain ⟨request, progress⟩ := handling
  cases progress with
  | admitted => simp [step, call?, Server.recorded, Methods.dispatch_recording]
  | arrived | refused | performed | recorded | answered => exact Prod.ext rfl (by simp [step, call?, Server.recorded])

end Handling

namespace Traffic

/-! ## Steps -/

theorem step_of_getElem? (methods : Methods σ) {traffic : Traffic σ} {index : Nat} {handling : Handling}
    (h : traffic.handlings[index]? = some handling) :
    traffic.step methods index =
      ⟨(handling.step methods traffic.server).2,
        traffic.handlings.set index (handling.step methods traffic.server).1⟩ := by
  simp only [step, h]

theorem step_of_none (methods : Methods σ) {traffic : Traffic σ} {index : Nat}
    (h : traffic.handlings[index]? = none) : traffic.step methods index = traffic := by
  simp only [step, h]

/-- A step moves the handling that takes it, and no other one. -/
theorem getElem?_step (methods : Methods σ) (traffic : Traffic σ) (index other : Nat) :
    (traffic.step methods index).handlings[other]? =
      if index = other then
        traffic.handlings[other]?.map fun handling ↦ (handling.step methods traffic.server).1
      else traffic.handlings[other]? := by
  cases hhandling : traffic.handlings[index]? with
  | none =>
    rw [step_of_none methods hhandling]
    split
    · rename_i hsame
      rw [← hsame, hhandling, Option.map_none]
    · rfl
  | some handling =>
    rw [step_of_getElem? methods hhandling]
    by_cases hsame : index = other
    · subst hsame
      rw [if_pos rfl, hhandling, Option.map_some,
        List.getElem?_set_self (List.getElem?_eq_some_iff.mp hhandling).1]
    · rw [if_neg hsame]
      exact List.getElem?_set_ne hsame

/-- The flag after a step of any handling. -/
theorem poisoned_step (methods : Methods σ) (traffic : Traffic σ) (index : Nat) :
    (traffic.step methods index).server.poisoned =
      (traffic.server.poisoned || (traffic.handlings[index]?.map Handling.isAboutToPoison).getD false) := by
  cases hhandling : traffic.handlings[index]? with
  | none => simp [step_of_none methods hhandling]
  | some handling => simp [step_of_getElem? methods hhandling, Handling.poisoned_step]

theorem run_append (methods : Methods σ) (traffic : Traffic σ) (first second : List Nat) :
    traffic.run methods (first ++ second) = (traffic.run methods first).run methods second :=
  List.foldl_append

/-- What every step keeps holds after every schedule. -/
theorem run_induction (methods : Methods σ) (invariant : Traffic σ → Prop)
    (hstep : ∀ traffic index, invariant traffic → invariant (traffic.step methods index))
    {traffic : Traffic σ} (h : invariant traffic) (schedule : List Nat) :
    invariant (traffic.run methods schedule) := by
  induction schedule generalizing traffic with
  | nil => exact h
  | cons index rest ih => exact ih (hstep traffic index h)

/-! ## Invariants -/

/-- No schedule takes the flag back. -/
theorem poisoned_run (methods : Methods σ) {traffic : Traffic σ} (h : traffic.server.poisoned = true)
    (schedule : List Nat) : (traffic.run methods schedule).server.poisoned = true :=
  run_induction methods (fun traffic ↦ traffic.server.poisoned = true)
    (fun traffic index hpoisoned ↦ by rw [poisoned_step, hpoisoned, Bool.true_or]) h schedule

/-- A handling whose method has ended with a result: the result is recorded before it is answered. -/
def Settles (index : Nat) (request : Request) (result : Except Failure Reply) (traffic : Traffic σ) :
    Prop :=
  traffic.handlings[index]? = some ⟨request, .performed result⟩ ∨
    (traffic.handlings[index]? = some ⟨request, .recorded result⟩ ∨
      traffic.handlings[index]? = some ⟨request, .answered (.ofResult result)⟩) ∧
      (Server.poisons request result = true → traffic.server.poisoned = true)

/-- A result that was recorded stays until it is answered, whoever moves. -/
theorem settles_step (methods : Methods σ) {index : Nat} {request : Request}
    {result : Except Failure Reply} (traffic : Traffic σ) (moved : Nat) (h : traffic.Settles index request result) :
    (traffic.step methods moved).Settles index request result := by
  by_cases hmoved : moved = index
  · subst hmoved
    obtain hperformed | ⟨hrecorded | hanswered, hflag⟩ := h
    · refine .inr ⟨.inl ?_, fun hpoisons ↦ ?_⟩
      · rw [getElem?_step, if_pos rfl, hperformed]
        rfl
      · rw [poisoned_step, hperformed]
        simp [Handling.isAboutToPoison, hpoisons]
    · refine .inr ⟨.inr ?_, fun hpoisons ↦ ?_⟩
      · rw [getElem?_step, if_pos rfl, hrecorded]
        rfl
      · rw [poisoned_step, hflag hpoisons, Bool.true_or]
    · refine .inr ⟨.inr ?_, fun hpoisons ↦ ?_⟩
      · rw [getElem?_step, if_pos rfl, hanswered]
        rfl
      · rw [poisoned_step, hflag hpoisons, Bool.true_or]
  · unfold Settles
    rw [getElem?_step, if_neg hmoved]
    obtain hperformed | ⟨hreached, hflag⟩ := h
    · exact .inl hperformed
    · refine .inr ⟨hreached, fun hpoisons ↦ ?_⟩
      rw [poisoned_step, hflag hpoisons, Bool.true_or]

/-- The answer is the result, and the flag is set by then if the result asks for that. -/
theorem Settles.of_answered {index : Nat} {request : Request} {result : Except Failure Reply}
    {traffic : Traffic σ} (h : traffic.Settles index request result) {response : Response}
    (hanswered : traffic.handlings[index]? = some ⟨request, .answered response⟩) :
    response = .ofResult result ∧
      (Server.poisons request result = true → traffic.server.poisoned = true) := by
  unfold Settles at h
  rw [hanswered] at h
  obtain hperformed | ⟨hrecorded | hresult, hflag⟩ := h
  · cases hperformed
  · cases hrecorded
  · cases hresult
    exact ⟨rfl, hflag⟩

/-- A handling that has seen the flag is refused. -/
def Refuses (index : Nat) (request : Request) (traffic : Traffic σ) : Prop :=
  traffic.handlings[index]? = some ⟨request, .refused⟩ ∨
    traffic.handlings[index]? = some ⟨request, .answered (.ofFailure (Server.refusal request))⟩

/-- A refused handling stays refused, whoever moves. -/
theorem refuses_step (methods : Methods σ) {index : Nat} {request : Request} (traffic : Traffic σ)
    (moved : Nat) (h : traffic.Refuses index request) : (traffic.step methods moved).Refuses index request := by
  unfold Refuses
  rw [getElem?_step]
  by_cases hmoved : moved = index
  · rw [if_pos hmoved]
    obtain hrefused | hanswered := h
    · rw [hrefused]
      exact .inr rfl
    · rw [hanswered]
      exact .inr rfl
  · rwa [if_neg hmoved]

/-- A step of a refused handling moves neither the flag nor the state of the methods. -/
theorem Refuses.server_step (methods : Methods σ) {index : Nat} {request : Request} {traffic : Traffic σ}
    (h : traffic.Refuses index request) : (traffic.step methods index).server = traffic.server := by
  obtain hrefused | hanswered := h
  · rw [step_of_getElem? methods hrefused]
    rfl
  · rw [step_of_getElem? methods hanswered]
    rfl

/-! ## Progress -/

/-- A handling moves only when it is its turn. -/
theorem getElem?_run_of_notMem (methods : Methods σ) (traffic : Traffic σ) {index : Nat}
    {schedule : List Nat} (h : index ∉ schedule) :
    (traffic.run methods schedule).handlings[index]? = traffic.handlings[index]? := by
  induction schedule generalizing traffic with
  | nil => rfl
  | cons moved rest ih =>
    rw [List.mem_cons, not_or] at h
    exact (ih (traffic.step methods moved) h.2).trans
      ((getElem?_step methods traffic moved index).trans (if_neg (Ne.symm h.1)))

/-- By induction on the schedule: each turn of a handling takes it a step nearer to its answer. -/
theorem remaining_run (methods : Methods σ) {traffic : Traffic σ} {index : Nat} {handling : Handling}
    (h : traffic.handlings[index]? = some handling) (schedule : List Nat) :
    ∃ progress, (traffic.run methods schedule).handlings[index]? = some ⟨handling.request, progress⟩ ∧
      progress.remaining ≤ handling.progress.remaining - schedule.count index := by
  induction schedule generalizing traffic handling with
  | nil => exact ⟨handling.progress, h, Nat.le_refl _⟩
  | cons moved rest ih =>
    by_cases hmoved : moved = index
    · subst hmoved
      have hnext : (traffic.step methods moved).handlings[moved]? =
          some (handling.step methods traffic.server).1 := by
        rw [getElem?_step, if_pos rfl, h, Option.map_some]
      obtain ⟨progress, hreached, hremaining⟩ := ih hnext
      rw [Handling.request_step] at hreached
      have hcloser := handling.remaining_step methods traffic.server
      refine ⟨progress, hreached, ?_⟩
      rw [List.count_cons_self]
      omega
    · have hsame : (traffic.step methods moved).handlings[index]? = some handling := by
        rw [getElem?_step, if_neg hmoved, h]
      obtain ⟨progress, hreached, hremaining⟩ := ih hsame
      rw [List.count_cons_of_ne hmoved]
      exact ⟨progress, hreached, hremaining⟩

/-- Enough turns bring any handling to its answer. -/
theorem answered_run (methods : Methods σ) {traffic : Traffic σ} {index : Nat} {handling : Handling}
    (h : traffic.handlings[index]? = some handling) {schedule : List Nat}
    (hturns : Handling.stepsToAnswer ≤ schedule.count index) :
    ∃ response, (traffic.run methods schedule).handlings[index]? =
      some ⟨handling.request, .answered response⟩ := by
  obtain ⟨progress, hreached, hremaining⟩ := remaining_run methods h schedule
  have hmost : handling.progress.remaining ≤ Handling.stepsToAnswer := by
    cases handling.progress <;> simp [Progress.remaining, Handling.stepsToAnswer]
  obtain ⟨response, rfl⟩ := Progress.remaining_eq_zero (show progress.remaining = 0 by omega)
  exact ⟨response, hreached⟩

/-! ## Calls -/

/-- Traffic whose methods note their calls, after some calls. -/
def recorded (traffic : Traffic σ) (noted : List Request) : Traffic (σ × List Request) :=
  ⟨traffic.server.recorded noted, traffic.handlings⟩

/-- The calls that a schedule makes: those of the handlings that are admitted when it is their turn. -/
def calls (methods : Methods σ) : Traffic σ → List Nat → List Request
  | _, [] => []
  | traffic, index :: rest =>
    (traffic.handlings[index]?.bind Handling.call?).toList ++ calls methods (traffic.step methods index) rest

/-- Noting the calls changes nothing else of a step. -/
theorem step_recording (methods : Methods σ) (traffic : Traffic σ) (noted : List Request) (index : Nat) :
    (traffic.recorded noted).step methods.recording index =
      (traffic.step methods index).recorded
        (noted ++ (traffic.handlings[index]?.bind Handling.call?).toList) := by
  cases hhandling : traffic.handlings[index]? with
  | none =>
    rw [step_of_none methods hhandling, step_of_none methods.recording (show _ from hhandling)]
    simp
  | some handling =>
    rw [step_of_getElem? methods hhandling, step_of_getElem? methods.recording (show _ from hhandling)]
    simp [recorded, Handling.step_recording]

/-- By induction on the schedule: the calls that are noted are those of admitted handlings. -/
theorem run_recording (methods : Methods σ) (traffic : Traffic σ) (noted : List Request)
    (schedule : List Nat) :
    (traffic.recorded noted).run methods.recording schedule =
      (traffic.run methods schedule).recorded (noted ++ traffic.calls methods schedule) := by
  induction schedule generalizing traffic noted with
  | nil => simp [run, calls]
  | cons index rest ih =>
    have hnext := ih (traffic.step methods index)
      (noted ++ (traffic.handlings[index]?.bind Handling.call?).toList)
    rw [← step_recording, List.append_assoc] at hnext
    exact hnext

/-- A result is there only after the method was run, at a step of the same handling. -/
theorem performed_history (methods : Methods σ) (server : Server σ) (requests : List Request)
    (schedule : List Nat) {index : Nat} {request : Request} {result : Except Failure Reply}
    (h : ((ofRequests server requests).run methods schedule).handlings[index]? =
      some ⟨request, .performed result⟩) :
    ∃ earlier later, schedule = earlier ++ index :: later ∧
      ((ofRequests server requests).run methods earlier).handlings[index]? = some ⟨request, .admitted⟩ ∧
      result = Server.resultOf request
        (methods.dispatch request ((ofRequests server requests).run methods earlier).server.state).1 := by
  induction schedule using List.reverseRecOn with
  | nil =>
    simp only [run, ofRequests, List.foldl_nil, List.getElem?_map, Option.map_eq_some_iff] at h
    obtain ⟨_, _, heq⟩ := h
    cases heq
  | append_singleton earlier moved ih =>
    have hlast : (ofRequests server requests).run methods (earlier ++ [moved]) =
        ((ofRequests server requests).run methods earlier).step methods moved := by
      rw [run_append]
      rfl
    rw [hlast, getElem?_step] at h
    by_cases hmoved : moved = index
    · subst hmoved
      rw [if_pos rfl, Option.map_eq_some_iff] at h
      obtain ⟨⟨_, progress⟩, hbefore, hstep⟩ := h
      cases progress with
      | admitted =>
        cases hstep
        exact ⟨earlier, [], rfl, hbefore, rfl⟩
      | arrived =>
        simp only [Handling.step] at hstep
        split at hstep <;> simp at hstep
      | refused | performed | recorded | answered => simp [Handling.step] at hstep
    · rw [if_neg hmoved] at h
      obtain ⟨before, later, hschedule, hadmitted, hresult⟩ := ih h
      refine ⟨before, later ++ [moved], ?_, hadmitted, hresult⟩
      rw [hschedule, List.append_assoc, List.cons_append]

/-! ## Setting the flag and seeing it -/

/-- An unsafe failure that was returned sets the flag with the next turn of its handling, and is the answer
with the turn after that. -/
theorem poisoned_of_returned (methods : Methods σ) {traffic : Traffic σ} {index : Nat} {request : Request}
    {failure : Failure} {state : σ} (hadmitted : traffic.handlings[index]? = some ⟨request, .admitted⟩)
    (hdispatch : methods.dispatch request traffic.server.state = (.returned (.error failure), state))
    (hdecrypt : request.isDecrypt = false) (hlost : failure.isUnsafe = true) (schedule : List Nat) :
    let reached := (traffic.step methods index).run methods schedule
    (index ∈ schedule → reached.server.poisoned = true) ∧
      (2 ≤ schedule.count index →
        reached.handlings[index]? = some ⟨request, .answered (.ofFailure failure)⟩) ∧
      ∀ response, reached.handlings[index]? = some ⟨request, .answered response⟩ →
        reached.server.poisoned = true ∧ response = .ofFailure failure := by
  intro reached
  have hperformed : (traffic.step methods index).handlings[index]? =
      some ⟨request, .performed (.error failure)⟩ := by
    rw [getElem?_step, if_pos rfl, hadmitted]
    simp [Handling.step, hdispatch, Server.resultOf]
  have hpoisons : Server.poisons request (.error failure) = true :=
    (Server.poisons_iff request _).mpr ⟨hdecrypt, failure, rfl, hlost⟩
  have hsettles : reached.Settles index request (.error failure) :=
    run_induction methods (Settles index request (.error failure)) (settles_step methods) (.inl hperformed)
      schedule
  obtain ⟨progress, hreached, hremaining⟩ := remaining_run methods hperformed schedule
  have hturns : progress.remaining ≤ 2 - schedule.count index := hremaining
  refine ⟨fun hmem ↦ ?_, fun htwo ↦ ?_, fun response hresponse ↦ ?_⟩
  · -- after a turn the result does not wait any more to be recorded
    have hturn := List.count_pos_iff.mpr hmem
    refine (hsettles.resolve_left fun hstill ↦ ?_).2 hpoisons
    cases hreached.symm.trans hstill
    have hleft : 2 ≤ 2 - schedule.count index := hturns
    omega
  · obtain ⟨response, rfl⟩ := Progress.remaining_eq_zero (show progress.remaining = 0 by omega)
    obtain ⟨rfl, -⟩ := hsettles.of_answered hreached
    exact hreached
  · obtain ⟨rfl, hflag⟩ := hsettles.of_answered hresponse
    exact ⟨hflag hpoisons, rfl⟩

/-- The step that sets the flag belongs to a handling that has run its method, and the method returned an
unsafe failure. -/
theorem returned_of_poisoned (methods : Methods σ) (server : Server σ) (requests : List Request)
    (schedule : List Nat) (index : Nat)
    (hbefore : ((ofRequests server requests).run methods schedule).server.poisoned = false)
    (hafter :
      (((ofRequests server requests).run methods schedule).step methods index).server.poisoned = true) :
    ∃ request failure state earlier later, schedule = earlier ++ index :: later ∧
      ((ofRequests server requests).run methods earlier).handlings[index]? = some ⟨request, .admitted⟩ ∧
      methods.dispatch request ((ofRequests server requests).run methods earlier).server.state =
        (.returned (.error failure), state) ∧
      request.isDecrypt = false ∧ failure.isUnsafe = true := by
  rw [poisoned_step, hbefore, Bool.false_or] at hafter
  cases hhandling : ((ofRequests server requests).run methods schedule).handlings[index]? with
  | none => simp [hhandling] at hafter
  | some handling =>
    obtain ⟨request, progress⟩ := handling
    rw [hhandling] at hafter
    cases progress with
    | performed result =>
      obtain ⟨hdecrypt, failure, rfl, hlost⟩ := (Server.poisons_iff request result).mp hafter
      obtain ⟨earlier, later, hschedule, hadmitted, hresult⟩ :=
        performed_history methods server requests schedule hhandling
      have houtcome := Server.returned_of_isUnsafe hresult hlost
      exact ⟨request, failure, _, earlier, later, hschedule, hadmitted, Prod.ext houtcome rfl, hdecrypt,
        hlost⟩
    | arrived | refused | admitted | recorded | answered => simp [Handling.isAboutToPoison] at hafter

/-- A handling that sees the flag is answered with its next turn, and none of its turns moves the server. -/
theorem refuses_run (methods : Methods σ) {traffic : Traffic σ} {index : Nat} {request : Request}
    (harrived : traffic.handlings[index]? = some ⟨request, .arrived⟩)
    (hpoisoned : traffic.server.poisoned = true) (schedule : List Nat) :
    let reached := (traffic.step methods index).run methods schedule
    (traffic.step methods index).server = traffic.server ∧
      reached.handlings[index]? = some ⟨request,
        if index ∈ schedule then .answered (.ofFailure (Server.refusal request)) else .refused⟩ ∧
      (reached.step methods index).server = reached.server := by
  intro reached
  have hseen : (traffic.step methods index).handlings[index]? = some ⟨request, .refused⟩ := by
    rw [getElem?_step, if_pos rfl, harrived]
    simp [Handling.step, hpoisoned]
  have hrefuses : reached.Refuses index request :=
    run_induction methods (Refuses index request) (refuses_step methods) (.inl hseen) schedule
  refine ⟨by rw [step_of_getElem? methods harrived]; rfl, ?_, hrefuses.server_step methods⟩
  split
  next hmem =>
    -- one turn is all that was left, so the handling does not stand where it was refused
    obtain ⟨progress, hreached, hremaining⟩ := remaining_run methods hseen schedule
    have hturn := List.count_pos_iff.mpr hmem
    refine hrefuses.resolve_left fun hstill ↦ ?_
    cases hreached.symm.trans hstill
    have hleft : 1 ≤ 1 - schedule.count index := hremaining
    omega
  next hmem => exact (getElem?_run_of_notMem methods _ hmem).trans hseen

end Traffic

namespace Server

/-! ## One connection -/

theorem server_turn (methods : Methods σ) (payload : List UInt8) (server : Server σ) :
    (server.turn methods payload).server = (server.handleFrame methods payload).2 := by
  rcases hanswer : server.handleFrame methods payload with ⟨response, after⟩
  simp only [turn, hanswer]
  split <;> rfl

/-- A connection goes on only with a server that is not poisoned. -/
theorem not_poisoned_of_turn (methods : Methods σ) {payload : List UInt8} {server : Server σ}
    (h : (server.turn methods payload).failure = none) :
    (server.handleFrame methods payload).2.poisoned = false := by
  rcases hanswer : server.handleFrame methods payload with ⟨response, after⟩
  simp only [turn, hanswer] at h
  split at h
  · cases h
  · simpa using h

/-- A connection calls the requests of some first frames, and only the last of these frames may leave the
server poisoned. -/
theorem serve_recording (methods : Methods σ) (stream : List UInt8) (server : Server σ)
    (calls : List Request) :
    ∃ count, (serve methods.recording stream (server.recorded calls)).server.state.2 =
        calls ++ (if server.poisoned then [] else ((Frame.payloads stream).take count).filterMap requestOf) ∧
      ∀ index, 0 < index → index < count →
        (afterFrames methods ((Frame.payloads stream).take index) server).poisoned = false := by
  fun_induction Frame.payloads stream generalizing server calls with
  | case1 stream payload rest hnext ih =>
    have hturn : ((server.recorded calls).turn methods.recording payload).server =
        (server.handleFrame methods payload).2.recorded
          (calls ++ if server.poisoned then [] else (requestOf payload).toList) := by
      rw [server_turn, handleFrame_recording]
    rw [serve_of_next methods.recording hnext]
    cases hfailure : ((server.recorded calls).turn methods.recording payload).failure with
    | some failure =>
      refine ⟨1, ?_, by omega⟩
      simp only [hturn]
      cases hrequest : requestOf payload <;> simp [recorded, hrequest]
    | none =>
      have hafter := not_poisoned_of_turn methods.recording hfailure
      rw [handleFrame_recording] at hafter
      have hbefore : server.poisoned = false := not_poisoned_of_handleFrame methods hafter
      obtain ⟨count, hcalls, hunpoisoned⟩ := ih (server.handleFrame methods payload).2
        (calls ++ if server.poisoned then [] else (requestOf payload).toList)
      refine ⟨count + 1, ?_, ?_⟩
      · simp only [hturn, hcalls]
        rw [show (server.handleFrame methods payload).2.poisoned = false from hafter]
        cases hrequest : requestOf payload <;> simp [hbefore, hrequest]
      · intro index hpositive hindex
        obtain ⟨index, rfl⟩ := Nat.exists_eq_add_one.mpr hpositive
        by_cases hfirst : index = 0
        · subst hfirst
          exact hafter
        · exact hunpoisoned index (Nat.pos_of_ne_zero hfirst) (Nat.lt_of_succ_lt_succ hindex)
  | case2 stream hnext =>
    refine ⟨0, ?_, by omega⟩
    rw [serve_of_not_frame _ hnext]
    simp [recorded]

/-- The methods that one connection calls are those of the frames up to the one that poisons the server. -/
theorem calls_prefix (methods : Methods σ) (server : Server σ) (stream : List UInt8) (count : Nat)
    (h : (afterFrames methods ((Frame.payloads stream).take count) server).poisoned = true) :
    (serve methods.recording stream (server.recorded [])).server.state.2 <+:
      ((Frame.payloads stream).take count).filterMap requestOf := by
  obtain ⟨called, hcalls, hunpoisoned⟩ := serve_recording methods stream server []
  rw [hcalls, List.nil_append]
  by_cases hfirst : server.poisoned = true
  · rw [if_pos hfirst]
    exact List.nil_prefix
  · rw [if_neg hfirst]
    have hcount : called ≤ count := by
      by_contra hless
      have hpositive : 0 < count := by
        apply Nat.pos_of_ne_zero
        intro hzero
        exact hfirst (by simpa [hzero, afterFrames] using h)
      have hnot := hunpoisoned count hpositive (Nat.lt_of_not_le hless)
      exact Bool.false_ne_true (hnot.symm.trans h)
    exact (List.take_prefix_take_left hcount).filterMap requestOf

end Server

/-! ## The laws of poisoning -/

/-- What holds of the flag for any methods, any requests and any schedule of their steps. -/
structure PoisoningLaws (methods : Methods σ) : Prop where
  /-- The flag is never taken back. -/
  monotone : ∀ (traffic : Traffic σ) (schedule : List Nat), traffic.server.poisoned = true →
    (traffic.run methods schedule).server.poisoned = true
  /-- Every handling looks at the one flag of the server. -/
  shared : ∀ (traffic : Traffic σ) (index : Nat) (request : Request),
    traffic.handlings[index]? = some ⟨request, .arrived⟩ →
      (traffic.step methods index).handlings[index]? =
        some ⟨request, if traffic.server.poisoned then .refused else .admitted⟩
  /-- When a method other than the one that opens devices returns an unsafe failure, the next turn of its
  handling sets the flag and the turn after that answers with the failure, so that the flag is set in every
  state in which the answer is there. -/
  sets : ∀ (traffic : Traffic σ) (index : Nat) (request : Request) (failure : Failure) (state : σ),
    traffic.handlings[index]? = some ⟨request, .admitted⟩ →
      methods.dispatch request traffic.server.state = (.returned (.error failure), state) →
      request.isDecrypt = false → failure.isUnsafe = true →
      ∀ schedule : List Nat,
        let reached := (traffic.step methods index).run methods schedule
        (index ∈ schedule → reached.server.poisoned = true) ∧
          (2 ≤ schedule.count index →
            reached.handlings[index]? = some ⟨request, .answered (.ofFailure failure)⟩) ∧
          ∀ response, reached.handlings[index]? = some ⟨request, .answered response⟩ →
            reached.server.poisoned = true ∧ response = .ofFailure failure
  /-- Unsafe are a lost identity, a lost namespace, and what another server reports as unsafe. -/
  isUnsafe_iff : ∀ failure : Failure, failure.isUnsafe = true ↔
    (∃ message, failure = .identityRestore message) ∨ (∃ message, failure = .namespaceRestore message) ∨
      ∃ message, failure = .remote .unsafeState message
  /-- The flag is set only after a method other than the one that opens devices was run and returned an
  unsafe failure, by the handling that ran it. -/
  only : ∀ (server : Server σ) (requests : List Request) (schedule : List Nat) (index : Nat),
    ((Traffic.ofRequests server requests).run methods schedule).server.poisoned = false →
      (((Traffic.ofRequests server requests).run methods schedule).step methods index).server.poisoned = true →
      ∃ request failure state earlier later, schedule = earlier ++ index :: later ∧
        ((Traffic.ofRequests server requests).run methods earlier).handlings[index]? =
          some ⟨request, .admitted⟩ ∧
        methods.dispatch request ((Traffic.ofRequests server requests).run methods earlier).server.state =
          (.returned (.error failure), state) ∧
        request.isDecrypt = false ∧ failure.isUnsafe = true
  /-- A frame that holds no request changes nothing. -/
  undecodable : ∀ (server : Server σ) (payload : List UInt8), Server.requestOf payload = none →
    (server.handleFrame methods payload).2 = server
  /-- Every request is answered after at most four turns of its handling. -/
  answers : ∀ (traffic : Traffic σ) (index : Nat) (handling : Handling) (schedule : List Nat),
    traffic.handlings[index]? = some handling → Handling.stepsToAnswer ≤ schedule.count index →
      ∃ response, (traffic.run methods schedule).handlings[index]? =
        some ⟨handling.request, .answered response⟩
  /-- Noting the calls changes nothing, and those that are noted are the requests of handlings that are
  admitted when it is their turn, one call for each. -/
  calls : ∀ (traffic : Traffic σ) (noted : List Request) (schedule : List Nat),
    (traffic.recorded noted).run methods.recording schedule =
      (traffic.run methods schedule).recorded (noted ++ traffic.calls methods schedule)
  /-- A handling that sees the flag set is answered with its next turn, by a failure that names the method,
  and no turn of it calls a method: the state stays as it is, and what was noted of calls with it. -/
  refuses : ∀ (traffic : Traffic (σ × List Request)) (index : Nat) (request : Request),
    traffic.handlings[index]? = some ⟨request, .arrived⟩ → traffic.server.poisoned = true →
      ∀ schedule : List Nat,
        let reached := (traffic.step methods.recording index).run methods.recording schedule
        (traffic.step methods.recording index).server = traffic.server ∧
          reached.handlings[index]? = some ⟨request,
            if index ∈ schedule then
              .answered (.ofFailure (.internal s!"{request.method} refused: server is in an unsafe state"))
            else .refused⟩ ∧
          (reached.step methods.recording index).server = reached.server
  /-- On one connection, the frames after which the server is poisoned hold all the requests whose methods
  are called. -/
  connection : ∀ (server : Server σ) (stream : List UInt8) (count : Nat),
    (Server.afterFrames methods ((Frame.payloads stream).take count) server).poisoned = true →
      (Server.serve methods.recording stream (server.recorded [])).server.state.2 <+:
        ((Frame.payloads stream).take count).filterMap Server.requestOf

/-- Every choice of methods obeys the laws of poisoning. -/
theorem poisoning_laws (methods : Methods σ) : PoisoningLaws methods where
  monotone traffic schedule h := Traffic.poisoned_run methods h schedule
  shared traffic index request h := by
    rw [Traffic.getElem?_step, if_pos rfl, h]
    rfl
  sets traffic index request failure state hadmitted hdispatch hdecrypt hlost :=
    Traffic.poisoned_of_returned methods hadmitted hdispatch hdecrypt hlost
  isUnsafe_iff := Failure.isUnsafe_iff
  only := Traffic.returned_of_poisoned methods
  undecodable server payload h := by
    obtain ⟨_, -, hanswer⟩ := Server.handleFrame_undecodable h
    rw [hanswer]
  answers traffic index handling schedule h hturns := Traffic.answered_run methods h hturns
  calls := Traffic.run_recording methods
  refuses traffic index request harrived hpoisoned :=
    Traffic.refuses_run methods.recording harrived hpoisoned
  connection := Server.calls_prefix methods

end ContainerConstruction
