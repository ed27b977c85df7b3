import ContainerConstruction.Proofs.Request.RoundTrip
import ContainerConstruction.Proofs.Server.Frames
import ContainerConstruction.Proofs.Server.Recording

/-!
# Serving a stream

The frames of a stream are answered in order, up to and including the first after whose answer the
server is poisoned.  Only the requests of these frames reach a method, and what a stream ends with is
decided by the last of them or by what is left behind the frames.
-/

namespace ContainerConstruction

variable {σ : Type}

namespace Server

/-- A panic is a failure of the runtime itself. -/
theorem taskFailure_kind (task : String) (panic : Panic) : (taskFailure task panic).kind = .internal := by
  unfold taskFailure
  split <;> rfl

/-! ## Frames that are answered -/

def afterFrames (methods : Methods σ) (frames : List (List UInt8)) (server : Server σ) : Server σ :=
  frames.foldl (fun server payload ↦ (server.handleFrame methods payload).2) server

def answers (methods : Methods σ) : List (List UInt8) → Server σ → List Response
  | [], _ => []
  | payload :: rest, server =>
    let (response, server) := server.handleFrame methods payload
    response :: answers methods rest server

/-- The frames up to and including the first after whose answer the server is poisoned. -/
def answered (methods : Methods σ) : List (List UInt8) → Server σ → List (List UInt8)
  | [], _ => []
  | payload :: rest, server =>
    let after := (server.handleFrame methods payload).2
    payload :: if after.poisoned then [] else answered methods rest after

theorem answered_of_poisoned (methods : Methods σ) {payload : List UInt8} (rest : List (List UInt8))
    {server : Server σ} (h : (server.handleFrame methods payload).2.poisoned = true) :
    answered methods (payload :: rest) server = [payload] := by
  simp [answered, h]

theorem answered_of_not_poisoned (methods : Methods σ) {payload : List UInt8} (rest : List (List UInt8))
    {server : Server σ} (h : (server.handleFrame methods payload).2.poisoned = false) :
    answered methods (payload :: rest) server =
      payload :: answered methods rest (server.handleFrame methods payload).2 := by
  simp [answered, h]

theorem afterFrames_cons (methods : Methods σ) (payload : List UInt8) (rest : List (List UInt8))
    (server : Server σ) :
    afterFrames methods (payload :: rest) server =
      afterFrames methods rest (server.handleFrame methods payload).2 := rfl

/-- A response that can be written. -/
def FitsFrame (response : Response) : Prop := (responsePayload response).length ≤ Frame.maximalLength

instance (response : Response) : Decidable (FitsFrame response) := inferInstanceAs (Decidable (_ ≤ _))

/-- Only the last answered frame may leave the server poisoned, and if it does not, all are answered. -/
theorem answered_eq_take (methods : Methods σ) (frames : List (List UInt8)) (server : Server σ) :
    ∃ count ≤ frames.length, answered methods frames server = frames.take count ∧
      (∀ index, 0 < index → index < count →
        (afterFrames methods (frames.take index) server).poisoned = false) ∧
      (count = frames.length ∨
        0 < count ∧ (afterFrames methods (frames.take count) server).poisoned = true) := by
  induction frames generalizing server with
  | nil => exact ⟨0, Nat.le_refl 0, rfl, by omega, .inl rfl⟩
  | cons payload rest ih =>
    cases hpoisoned : (server.handleFrame methods payload).2.poisoned with
    | true =>
      refine ⟨1, by simp, answered_of_poisoned methods rest hpoisoned, by omega, .inr ⟨Nat.one_pos, ?_⟩⟩
      simpa [afterFrames] using hpoisoned
    | false =>
      obtain ⟨count, hcount, htake, hbefore, hlast⟩ := ih (server.handleFrame methods payload).2
      rw [answered_of_not_poisoned methods rest hpoisoned, htake]
      refine ⟨count + 1, Nat.succ_le_succ hcount, rfl, ?_, ?_⟩
      · intro index hpositive hindex
        obtain ⟨index, rfl⟩ := Nat.exists_eq_add_one.mpr hpositive
        by_cases hfirst : index = 0
        · subst hfirst
          simpa [afterFrames] using hpoisoned
        · exact hbefore index (Nat.pos_of_ne_zero hfirst) (Nat.lt_of_succ_lt_succ hindex)
      · obtain hall | ⟨hpositive, hlast⟩ := hlast
        · exact .inl (by rw [hall, List.length_cons])
        · exact .inr ⟨Nat.succ_pos count, hlast⟩

theorem length_answers (methods : Methods σ) (frames : List (List UInt8)) (server : Server σ) :
    (answers methods frames server).length = frames.length := by
  induction frames generalizing server with
  | nil => rfl
  | cons payload rest ih => simp only [answers, List.length_cons, ih]

/-- Each answer is given by the server that the frames before have left. -/
theorem getElem?_answers (methods : Methods σ) (frames : List (List UInt8)) (server : Server σ)
    (index : Nat) :
    (answers methods frames server)[index]? = frames[index]?.map fun payload ↦
      ((afterFrames methods (frames.take index) server).handleFrame methods payload).1 := by
  induction frames generalizing server index with
  | nil => rfl
  | cons payload rest ih =>
    cases index with
    | zero => rfl
    | succ index => simpa [answers, afterFrames] using ih _ index

/-! ## The whole stream -/

theorem turn_of_fits (methods : Methods σ) (payload : List UInt8) (server : Server σ)
    (hfits : FitsFrame (server.handleFrame methods payload).1) :
    server.turn methods payload =
      ⟨some (server.handleFrame methods payload).1,
        if (server.handleFrame methods payload).2.poisoned then some poisonedFailure else none,
        (server.handleFrame methods payload).2⟩ := by
  have hencode : responseFrame (server.handleFrame methods payload).1 =
      .ok (Frame.framed (responsePayload (server.handleFrame methods payload).1)) :=
    if_neg (Nat.not_lt.mpr hfits)
  simp only [turn, hencode]

/-- What serving comes to when no frame is left. -/
def streamResult (stream : List UInt8) : Except Failure Unit :=
  match Frame.next stream with
  | .failed defect => .error (readFailure defect)
  | _ => .ok ()

/-- Serving a stream that begins with a frame is answering the frame, and serving the rest if nothing
ends the connection. -/
theorem serve_of_next (methods : Methods σ) {stream payload rest : List UInt8}
    (hnext : Frame.next stream = .frame payload rest) (server : Server σ) :
    serve methods stream server =
      match (server.turn methods payload).failure with
      | some failure =>
        ⟨(server.turn methods payload).response.toList, .error failure, (server.turn methods payload).server⟩
      | none =>
        let served := serve methods rest (server.turn methods payload).server
        { served with responses := (server.turn methods payload).response.toList ++ served.responses } := by
  rw [serve]
  split
  · rename_i h
    rw [hnext] at h
    cases h
  · rename_i h
    rw [hnext] at h
    cases h
  · rename_i h
    rw [hnext] at h
    cases h
    rfl

/-- One frame is answered, and then the others, unless the server is poisoned. -/
theorem serve_of_frame (methods : Methods σ) {stream payload rest : List UInt8}
    (hnext : Frame.next stream = .frame payload rest) (server : Server σ)
    (hfits : FitsFrame (server.handleFrame methods payload).1) :
    serve methods stream server =
      let (response, after) := server.handleFrame methods payload
      if after.poisoned then ⟨[response], .error poisonedFailure, after⟩
      else
        let served := serve methods rest after
        { served with responses := response :: served.responses } := by
  rw [serve_of_next methods hnext, turn_of_fits methods payload server hfits]
  cases hpoisoned : (server.handleFrame methods payload).2.poisoned <;> simp [hpoisoned]

theorem serve_of_not_frame (methods : Methods σ) {stream : List UInt8}
    (hnext : ∀ payload rest, Frame.next stream ≠ .frame payload rest) (server : Server σ) :
    serve methods stream server = ⟨[], streamResult stream, server⟩ := by
  rw [serve, streamResult]
  split
  · rename_i h
    rw [h]
  · rename_i h
    rw [h]
  · rename_i h
    exact absurd h (hnext _ _)

/-- What serving ends with after some frames have been answered. -/
def servedResult (methods : Methods σ) (stream : List UInt8) (frames : List (List UInt8))
    (server : Server σ) : Except Failure Unit :=
  if frames ≠ [] ∧ (afterFrames methods frames server).poisoned then .error poisonedFailure
  else streamResult (Frame.remainder stream)

theorem servedResult_cons (methods : Methods σ) {stream payload rest : List UInt8}
    (hnext : Frame.next stream = .frame payload rest) (frames : List (List UInt8)) {server : Server σ}
    (hpoisoned : (server.handleFrame methods payload).2.poisoned = false) :
    servedResult methods stream (payload :: frames) server =
      servedResult methods rest frames (server.handleFrame methods payload).2 := by
  unfold servedResult
  rw [Frame.remainder_of_frame hnext]
  cases frames with
  | nil => simp [afterFrames, hpoisoned]
  | cons next others => simp [afterFrames]

/-- Serving answers the answered frames, and nothing else of the stream has an effect. -/
theorem serve_eq (methods : Methods σ) (stream : List UInt8) (server : Server σ)
    (hfits : ∀ response ∈ answers methods (answered methods (Frame.payloads stream) server) server,
      FitsFrame response) :
    serve methods stream server =
      ⟨answers methods (answered methods (Frame.payloads stream) server) server,
        servedResult methods stream (answered methods (Frame.payloads stream) server) server,
        afterFrames methods (answered methods (Frame.payloads stream) server) server⟩ := by
  fun_induction Frame.payloads stream generalizing server with
  | case1 stream payload rest hnext ih =>
    have hfirst : FitsFrame (server.handleFrame methods payload).1 :=
      hfits _ (List.mem_cons_self ..)
    rw [serve_of_frame methods hnext server hfirst]
    cases hpoisoned : (server.handleFrame methods payload).2.poisoned with
    | true =>
      rw [answered_of_poisoned methods _ hpoisoned]
      simp [answers, afterFrames, servedResult, hpoisoned]
    | false =>
      rw [answered_of_not_poisoned methods _ hpoisoned] at hfits ⊢
      have hrest := ih (server.handleFrame methods payload).2 fun response hresponse ↦
        hfits response (List.mem_cons_of_mem _ hresponse)
      rw [servedResult_cons methods hnext _ hpoisoned]
      simp only [hpoisoned, Bool.false_eq_true, if_false, hrest]
      rfl
  | case2 stream hnext =>
    rw [serve_of_not_frame methods hnext]
    simp [answered, answers, afterFrames, servedResult, Frame.remainder_of_not_frame hnext]

/-! ## The calls -/

/-- The request in a frame. -/
def requestOf (payload : List UInt8) : Option Request :=
  (Request.reader.ofInput (Text.Utf8.decode payload)).toOption

/-- A frame without a request is answered with a failure of configuration, and changes nothing. -/
theorem handleFrame_undecodable {payload : List UInt8} (h : requestOf payload = none) :
    ∃ error, Request.reader.ofInput (Text.Utf8.decode payload) = .error error ∧
      ∀ {τ : Type} (methods : Methods τ) (server : Server τ), server.handleFrame methods payload =
        (.ofFailure (.config s!"invalid request frame: {methods.wording payload error}"), server) := by
  unfold requestOf at h
  cases hread : Request.reader.ofInput (Text.Utf8.decode payload) with
  | ok request => simp [hread, Except.toOption] at h
  | error error => exact ⟨error, rfl, fun methods server ↦ by rw [handleFrame, hread]⟩

/-- A frame that holds a request is answered as the request. -/
theorem handleFrame_decodable (methods : Methods σ) {payload : List UInt8} {request : Request}
    (h : requestOf payload = some request) (server : Server σ) :
    server.handleFrame methods payload = server.handle methods request := by
  unfold requestOf at h
  unfold handleFrame
  cases hread : Request.reader.ofInput (Text.Utf8.decode payload) with
  | ok read =>
    rw [hread] at h
    cases h
    rfl
  | error error => simp [hread, Except.toOption] at h

/-- A poisoned server stays poisoned. -/
theorem not_poisoned_of_handle (methods : Methods σ) {request : Request} {server : Server σ}
    (h : (server.handle methods request).2.poisoned = false) : server.poisoned = false := by
  by_contra hpoisoned
  rw [handle, if_pos (by simpa using hpoisoned)] at h
  exact hpoisoned h

/-- A server that is not poisoned by a frame was not poisoned before. -/
theorem not_poisoned_of_handleFrame (methods : Methods σ) {payload : List UInt8} {server : Server σ}
    (h : (server.handleFrame methods payload).2.poisoned = false) : server.poisoned = false := by
  unfold handleFrame at h
  split at h
  · exact not_poisoned_of_handle methods h
  · exact h

/-- The calls that answering a frame adds: one, unless it holds no request or is refused. -/
theorem handleFrame_recording (methods : Methods σ) (payload : List UInt8) (server : Server σ)
    (calls : List Request) :
    (server.recorded calls).handleFrame methods.recording payload =
      ((server.handleFrame methods payload).1,
        (server.handleFrame methods payload).2.recorded
          (calls ++ if server.poisoned then [] else (requestOf payload).toList)) := by
  cases hrequest : requestOf payload with
  | none =>
    obtain ⟨error, -, hhandle⟩ := handleFrame_undecodable hrequest
    simp [hhandle, Methods.recording]
  | some request =>
    rw [handleFrame_decodable _ hrequest, handleFrame_decodable _ hrequest, handle_recording]
    rfl

theorem answers_recording (methods : Methods σ) (frames : List (List UInt8)) (server : Server σ)
    (calls : List Request) :
    answers methods.recording frames (server.recorded calls) = answers methods frames server := by
  induction frames generalizing server calls with
  | nil => rfl
  | cons payload rest ih => simp only [answers, handleFrame_recording, ih]

theorem answered_recording (methods : Methods σ) (frames : List (List UInt8)) (server : Server σ)
    (calls : List Request) :
    answered methods.recording frames (server.recorded calls) = answered methods frames server := by
  induction frames generalizing server calls with
  | nil => rfl
  | cons payload rest ih =>
    simp only [answered, handleFrame_recording, ih]
    rfl

/-- The calls of a stream are the requests of its answered frames, or none if the server was poisoned. -/
theorem afterFrames_recording (methods : Methods σ) (frames : List (List UInt8)) (server : Server σ)
    (calls : List Request) :
    afterFrames methods.recording (answered methods frames server) (server.recorded calls) =
      (afterFrames methods (answered methods frames server) server).recorded
        (calls ++ if server.poisoned then [] else (answered methods frames server).filterMap requestOf) := by
  induction frames generalizing server calls with
  | nil => simp [answered, afterFrames]
  | cons payload rest ih =>
    cases hafter : (server.handleFrame methods payload).2.poisoned with
    | true =>
      rw [answered_of_poisoned methods rest hafter, afterFrames_cons, afterFrames_cons,
        handleFrame_recording]
      cases hrequest : requestOf payload <;> simp [afterFrames, hrequest]
    | false =>
      have hbefore := not_poisoned_of_handleFrame methods hafter
      rw [answered_of_not_poisoned methods rest hafter, afterFrames_cons, afterFrames_cons,
        handleFrame_recording, ih]
      cases hrequest : requestOf payload <;> simp [hbefore, hafter, hrequest]

end Server

end ContainerConstruction
