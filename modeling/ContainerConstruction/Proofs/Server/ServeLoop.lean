import ContainerConstruction.Proofs.Server.Stream

/-!
# The loop that serves a stream

`ServeLoop` takes the serving of a stream apart into its steps, so that it can be said what has been
read, called and written at each of them.  `Ordered` is what every step keeps; a run of the steps ends as
`Server.serve` does.
-/

namespace ContainerConstruction

variable {σ : Type}

/-! ## Steps -/

/-- Where the loop stands. -/
inductive ServePhase where
  | reading
  | decoding (payload : List UInt8)
  | dispatching (request : Request)
  | writing (response : Response)
  /-- A response was written, and the flag is looked at. -/
  | looking
  | ended (result : Except Failure Unit)

/-- The loop that serves a stream, between two of its steps. -/
structure ServeLoop (σ : Type) where
  phase : ServePhase
  unread : List UInt8
  /-- The payloads that were taken off the stream. -/
  taken : List (List UInt8)
  written : List Response
  server : Server σ

namespace ServeLoop

def start (stream : List UInt8) (server : Server σ) : ServeLoop σ := ⟨.reading, stream, [], [], server⟩

/-- One step.  A loop that has ended stays as it is. -/
def step (methods : Methods σ) (loop : ServeLoop σ) : ServeLoop σ :=
  match loop.phase with
  | .reading =>
    match Frame.next loop.unread with
    | .frame payload rest =>
      { loop with phase := .decoding payload, unread := rest, taken := loop.taken ++ [payload] }
    | .finished => { loop with phase := .ended (.ok ()) }
    | .failed defect => { loop with phase := .ended (.error (Server.readFailure defect)) }
  | .decoding payload =>
    match Request.reader.ofInput (Text.Utf8.decode payload) with
    | .ok request => { loop with phase := .dispatching request }
    | .error error =>
      let failure := Failure.config s!"invalid request frame: {methods.wording payload error}"
      { loop with phase := .writing (.ofFailure failure) }
  | .dispatching request =>
    let (response, server) := loop.server.handle methods request
    { loop with phase := .writing response, server := server }
  | .writing response =>
    match Server.responseFrame response with
    | .ok _ => { loop with phase := .looking, written := loop.written ++ [response] }
    | .error defect => { loop with phase := .ended (.error (Server.writeFailure defect)) }
  | .looking =>
    if loop.server.poisoned then { loop with phase := .ended (.error Server.poisonedFailure) }
    else { loop with phase := .reading }
  | .ended _ => loop

def run (methods : Methods σ) : Nat → ServeLoop σ → ServeLoop σ
  | 0, loop => loop
  | count + 1, loop => run methods count (loop.step methods)

theorem run_add (methods : Methods σ) (first second : Nat) (loop : ServeLoop σ) :
    run methods (first + second) loop = run methods second (run methods first loop) := by
  induction first generalizing loop with
  | zero => rw [Nat.zero_add, run]
  | succ first ih => rw [Nat.add_right_comm, run, run, ih]

theorem run_of_ended (methods : Methods σ) (count : Nat) {loop : ServeLoop σ}
    {result : Except Failure Unit} (h : loop.phase = .ended result) : run methods count loop = loop := by
  induction count with
  | zero => rfl
  | succ count ih =>
    have hstep : loop.step methods = loop := by simp only [step, h]
    rw [run, hstep, ih]

/-! ## The order of the steps -/

/-- Every payload that was taken has its response written before the next one is taken: while one is
decoded and dispatched, the responses to all before it are written. -/
structure Ordered (stream : List UInt8) (loop : ServeLoop σ) : Prop where
  payloads_eq : Frame.payloads stream = loop.taken ++ Frame.payloads loop.unread
  remainder_eq : Frame.remainder stream = Frame.remainder loop.unread
  written_length : match loop.phase with
    | .reading | .looking => loop.written.length = loop.taken.length
    | .decoding payload =>
      loop.written.length + 1 = loop.taken.length ∧ loop.taken.getLast? = some payload
    | .dispatching request =>
      loop.written.length + 1 = loop.taken.length ∧
        loop.taken.getLast?.bind Server.requestOf = some request
    | .writing _ => loop.written.length + 1 = loop.taken.length
    | .ended _ => loop.written.length ≤ loop.taken.length

theorem ordered_start (stream : List UInt8) (server : Server σ) : (start stream server).Ordered stream :=
  ⟨rfl, rfl, rfl⟩

theorem Ordered.step (methods : Methods σ) {stream : List UInt8} {loop : ServeLoop σ}
    (h : loop.Ordered stream) : (loop.step methods).Ordered stream := by
  obtain ⟨phase, unread, taken, written, server⟩ := loop
  obtain ⟨hpayloads, hremainder, hlength⟩ := h
  cases phase with
  | reading =>
    simp only [ServeLoop.step]
    cases hnext : Frame.next unread with
    | frame payload rest =>
      refine ⟨?_, ?_, ?_⟩
      · simpa [Frame.payloads_of_frame hnext] using hpayloads
      · simpa [Frame.remainder_of_frame hnext] using hremainder
      · simpa using hlength
    | finished => exact ⟨hpayloads, hremainder, Nat.le_of_eq hlength⟩
    | failed defect => exact ⟨hpayloads, hremainder, Nat.le_of_eq hlength⟩
  | decoding payload =>
    obtain ⟨hlength, hlast⟩ := hlength
    simp only [ServeLoop.step]
    cases hread : Request.reader.ofInput (Text.Utf8.decode payload) with
    | ok request =>
      refine ⟨hpayloads, hremainder, hlength, ?_⟩
      simp [show taken.getLast? = some payload from hlast, Server.requestOf, hread, Except.toOption]
    | error error => exact ⟨hpayloads, hremainder, hlength⟩
  | dispatching request => exact ⟨hpayloads, hremainder, hlength.1⟩
  | writing response =>
    simp only [ServeLoop.step]
    cases Server.responseFrame response with
    | ok _ => exact ⟨hpayloads, hremainder, by simpa using hlength⟩
    | error defect => exact ⟨hpayloads, hremainder, Nat.le_of_succ_le (Nat.le_of_eq hlength)⟩
  | looking =>
    simp only [ServeLoop.step]
    split
    · exact ⟨hpayloads, hremainder, Nat.le_of_eq hlength⟩
    · exact ⟨hpayloads, hremainder, hlength⟩
  | ended result => exact ⟨hpayloads, hremainder, hlength⟩

/-- At any time the frames are taken in order and answered one by one. -/
theorem ordered_run (methods : Methods σ) (stream : List UInt8) (server : Server σ) (count : Nat) :
    (run methods count (start stream server)).Ordered stream := by
  have hrun {loop : ServeLoop σ} (h : loop.Ordered stream) : (run methods count loop).Ordered stream := by
    induction count generalizing loop with
    | zero => exact h
    | succ count ih => exact ih (h.step methods)
  exact hrun (ordered_start stream server)

/-! ## The end of the loop -/

/-- The steps of one frame: four, or five if it holds a request. -/
theorem run_frame (methods : Methods σ) {unread payload rest : List UInt8}
    (hnext : Frame.next unread = .frame payload rest) (taken : List (List UInt8)) (written : List Response)
    (server : Server σ) (hfits : Server.FitsFrame (server.handleFrame methods payload).1) :
    ∃ count, run methods count ⟨.reading, unread, taken, written, server⟩ =
      ⟨if (server.handleFrame methods payload).2.poisoned then .ended (.error Server.poisonedFailure)
        else .reading,
        rest, taken ++ [payload], written ++ [(server.handleFrame methods payload).1],
        (server.handleFrame methods payload).2⟩ := by
  have hencode : Server.responseFrame (server.handleFrame methods payload).1 =
      .ok (Frame.framed (Server.responsePayload (server.handleFrame methods payload).1)) :=
    if_neg (Nat.not_lt.mpr hfits)
  unfold Server.handleFrame at hencode ⊢
  cases hread : Request.reader.ofInput (Text.Utf8.decode payload) with
  | ok request =>
    rw [hread] at hencode
    refine ⟨5, ?_⟩
    simp only [run, step, hnext, hread, hencode]
    split <;> rfl
  | error error =>
    rw [hread] at hencode
    refine ⟨4, ?_⟩
    simp only [run, step, hnext, hread, hencode]
    split <;> rfl

/-- When every response can be written, the loop ends with all of them written. -/
theorem run_to_end (methods : Methods σ) (stream : List UInt8) (taken : List (List UInt8))
    (written : List Response) (server : Server σ)
    (hfits : ∀ response ∈
      Server.answers methods (Server.answered methods (Frame.payloads stream) server) server,
      Server.FitsFrame response) :
    ∃ count unread, run methods count ⟨.reading, stream, taken, written, server⟩ =
      ⟨.ended (Server.servedResult methods stream
          (Server.answered methods (Frame.payloads stream) server) server),
        unread, taken ++ Server.answered methods (Frame.payloads stream) server,
        written ++ Server.answers methods (Server.answered methods (Frame.payloads stream) server) server,
        Server.afterFrames methods (Server.answered methods (Frame.payloads stream) server) server⟩ := by
  fun_induction Frame.payloads stream generalizing taken written server with
  | case1 stream payload rest hnext ih =>
    obtain ⟨first, hfirst⟩ := run_frame methods hnext taken written server
      (hfits _ (List.mem_cons_self ..))
    cases hafter : (server.handleFrame methods payload).2.poisoned with
    | true =>
      refine ⟨first, rest, ?_⟩
      rw [hfirst, hafter, Server.answered_of_poisoned methods _ hafter]
      simp [Server.answers, Server.afterFrames, Server.servedResult, hafter]
    | false =>
      rw [Server.answered_of_not_poisoned methods _ hafter] at hfits ⊢
      obtain ⟨others, unread, hothers⟩ := ih (taken ++ [payload])
        (written ++ [(server.handleFrame methods payload).1]) (server.handleFrame methods payload).2
        fun response hresponse ↦ hfits response (List.mem_cons_of_mem _ hresponse)
      refine ⟨first + others, unread, ?_⟩
      rw [run_add, hfirst, hafter, Server.servedResult_cons methods hnext _ hafter]
      simp only [Bool.false_eq_true, if_false, hothers, List.append_assoc, List.cons_append,
        List.nil_append]
      rfl
  | case2 stream hnext =>
    refine ⟨1, stream, ?_⟩
    have hremainder := Frame.remainder_of_not_frame hnext
    simp only [run, step, Server.answered, Server.answers, Server.afterFrames, Server.servedResult,
      Server.streamResult, hremainder, ne_eq, not_true_eq_false, false_and, if_false, List.append_nil,
      List.foldl_nil]
    cases hend : Frame.next stream with
    | frame payload rest => exact absurd hend (hnext payload rest)
    | finished => rfl
    | failed defect => rfl

end ServeLoop

/-! ## Serving in order -/

namespace Server

/-- What serving a stream does when `count` of its frames are answered. -/
structure ServesInOrder (methods : Methods σ) (stream : List UInt8) (server : Server σ) (count : Nat) :
    Prop where
  count_le : count ≤ (Frame.payloads stream).length
  /-- No frame but the last answered one leaves the server poisoned. -/
  unpoisoned : ∀ index, 0 < index → index < count →
    (afterFrames methods ((Frame.payloads stream).take index) server).poisoned = false
  /-- Answering stops only with the frames or after one that leaves the server poisoned. -/
  stops : count = (Frame.payloads stream).length ∨
    0 < count ∧ (afterFrames methods ((Frame.payloads stream).take count) server).poisoned = true
  responses_length : (serve methods stream server).responses.length = count
  /-- A response is the answer to the frame in its place, after all frames before it. -/
  responses_eq : ∀ index < count, (serve methods stream server).responses[index]? =
    (Frame.payloads stream)[index]?.map fun payload ↦
      ((afterFrames methods ((Frame.payloads stream).take index) server).handleFrame methods payload).1
  server_eq : (serve methods stream server).server =
    afterFrames methods ((Frame.payloads stream).take count) server
  /-- A frame that is read as a request is answered as the request. -/
  decodable : ∀ payload request, Request.reader.ofInput (Text.Utf8.decode payload) = .ok request →
    ∀ before : Server σ, before.handleFrame methods payload = before.handle methods request
  /-- Any other frame is answered with a failure of configuration and changes nothing. -/
  undecodable : ∀ payload error, Request.reader.ofInput (Text.Utf8.decode payload) = .error error →
    ∀ before : Server σ, ∃ message,
      before.handleFrame methods payload = (.error ⟨.config, message⟩, before)
  /-- The calls are those of the requests in the answered frames, unless the server was poisoned before. -/
  calls_eq : (serve methods.recording stream (server.recorded [])).server =
    (serve methods stream server).server.recorded
      (if server.poisoned then [] else ((Frame.payloads stream).take count).filterMap requestOf)
  result_poisoned : (serve methods stream server).result = .error poisonedFailure ↔
    0 < count ∧ (serve methods stream server).server.poisoned = true
  /-- Otherwise the result says how the stream ended behind its frames. -/
  result_eq : ¬(0 < count ∧ (serve methods stream server).server.poisoned = true) →
    (serve methods stream server).result = streamResult (Frame.remainder stream)
  /-- At every step, a payload is taken only after the responses to those before it were written. -/
  ordered : ∀ steps, ((ServeLoop.start stream server).run methods steps).Ordered stream
  /-- The loop ends so, with the answered frames taken and the rest of the stream not read. -/
  ends : ∃ steps unread, ∀ further, (ServeLoop.start stream server).run methods (steps + further) =
    ⟨.ended (serve methods stream server).result, unread, (Frame.payloads stream).take count,
      (serve methods stream server).responses, (serve methods stream server).server⟩

theorem streamResult_ne_poisoned (stream : List UInt8) : streamResult stream ≠ .error poisonedFailure := by
  unfold streamResult
  split <;> simp [readFailure, poisonedFailure]

/-- How serving ends, told from the number of frames that are answered. -/
theorem serve_result (methods : Methods σ) {stream : List UInt8} {server : Server σ} {count : Nat}
    (hcount : count ≤ (Frame.payloads stream).length)
    (hserve : serve methods stream server =
      ⟨answers methods ((Frame.payloads stream).take count) server,
        servedResult methods stream ((Frame.payloads stream).take count) server,
        afterFrames methods ((Frame.payloads stream).take count) server⟩) :
    (serve methods stream server).result =
      if 0 < count ∧ (serve methods stream server).server.poisoned = true then .error poisonedFailure
      else streamResult (Frame.remainder stream) := by
  have hempty : (Frame.payloads stream).take count ≠ [] ↔ 0 < count := by
    rw [ne_eq, ← List.length_eq_zero_iff, List.length_take, Nat.min_eq_left hcount]
    exact Nat.pos_iff_ne_zero.symm
  rw [hserve]
  simp only [servedResult, hempty]

/-- A stream whose responses can be written is served frame by frame, in order. -/
theorem serves_in_order (methods : Methods σ) (stream : List UInt8) (server : Server σ)
    (hfits : ∀ response ∈ answers methods (answered methods (Frame.payloads stream) server) server,
      FitsFrame response) :
    ∃ count, ServesInOrder methods stream server count := by
  obtain ⟨count, hcount, htake, hbefore, hlast⟩ :=
    answered_eq_take methods (Frame.payloads stream) server
  have hrecording : ∀ response ∈ answers methods.recording
      (answered methods.recording (Frame.payloads stream) (server.recorded [])) (server.recorded []),
      FitsFrame response := by
    rwa [answered_recording, answers_recording]
  have hserve := serve_eq methods stream server hfits
  obtain ⟨steps, unread, hrun⟩ := ServeLoop.run_to_end methods stream [] [] server hfits
  rw [htake] at hserve hrun
  have hresult := serve_result methods hcount hserve
  exact ⟨count, {
    count_le := hcount
    unpoisoned := hbefore
    stops := hlast
    responses_length := by
      rw [hserve, length_answers, List.length_take, Nat.min_eq_left hcount]
    responses_eq := by
      intro index hindex
      rw [hserve, getElem?_answers, List.getElem?_take_of_lt hindex, List.take_take,
        Nat.min_eq_left (Nat.le_of_lt hindex)]
    server_eq := by rw [hserve]
    decodable := by
      intro payload request hread before
      rw [handleFrame, hread]
    undecodable := by
      intro payload error hread before
      exact ⟨_, by rw [handleFrame, hread]; rfl⟩
    calls_eq := by
      rw [serve_eq methods.recording stream (server.recorded []) hrecording, answered_recording,
        afterFrames_recording, htake, hserve, List.nil_append]
    result_poisoned := by
      rw [hresult]
      split
      · rename_i hpoisoned
        exact ⟨fun _ ↦ hpoisoned, fun _ ↦ rfl⟩
      · rename_i hnot
        exact ⟨fun h ↦ absurd h (streamResult_ne_poisoned _), fun h ↦ absurd h hnot⟩
    result_eq := by
      intro hnot
      rw [hresult, if_neg hnot]
    ordered := ServeLoop.ordered_run methods stream server
    ends := by
      refine ⟨steps, unread, fun further ↦ ?_⟩
      rw [ServeLoop.start, ServeLoop.run_add, hrun, ServeLoop.run_of_ended methods further rfl, hserve]
      rfl }⟩

/-- A panic, an empty frame, a lost identity, a request that is not read any more, and a broken frame. -/
def fragileStream : List UInt8 :=
  [Client.requestPayload (.chdir ⟨"/"⟩), [], Client.requestPayload (.setFsId ⟨0, 0⟩),
    Client.requestPayload (.chdir ⟨"/"⟩)].flatMap Frame.framed ++ [0, 0]

theorem serves_fragile_in_order :
    (∀ response ∈ answers Methods.fragile
        (answered Methods.fragile (Frame.payloads fragileStream) ⟨0, false⟩) ⟨0, false⟩, FitsFrame response) ∧
      ∃ count, ServesInOrder Methods.fragile fragileStream ⟨0, false⟩ count := by
  have hfits : ∀ response ∈ answers Methods.fragile
      (answered Methods.fragile (Frame.payloads fragileStream) ⟨0, false⟩) ⟨0, false⟩, FitsFrame response := by
    decide +kernel
  exact ⟨hfits, serves_in_order Methods.fragile fragileStream ⟨0, false⟩ hfits⟩

end Server

end ContainerConstruction
