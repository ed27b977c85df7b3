import ContainerConstruction.Proofs.Program.Run
import ContainerConstruction.Proofs.Request.RoundTrip
import ContainerConstruction.Proofs.Server.Frames
import ContainerConstruction.Server.Line

/-!
# Calls and their responses

A call that is made over a line writes one frame and takes one frame off, or else it is refused because its
request is too long, and then it touches neither stream.  So the responses go to the calls in order, whatever
they hold: one that cannot be read, that reports a failure or that has the form of another operation is used
up by the call that it belongs to.

What a call gives is told from the name of its operation and its response alone.
-/

namespace ContainerConstruction.Client

variable {σ : Type}

/-! ## What a response stands for -/

/-- Whether the payload of a request fits a frame. -/
def fits (request : Request) : Bool := (requestPayload request).length ≤ Frame.maximalLength

/-- The failure of a call whose request does not fit a frame. -/
def tooLong (request : Request) : Failure :=
  .transport s!"sending {request.method}: {Frame.Defect.tooBig.message}"

/-- The response that a payload holds. -/
def responseOf (payload : List UInt8) : Except Json.ReadError Response :=
  Response.reader.ofInput (Text.Utf8.decode payload)

/-- Whether a reply has the form that an operation gives. -/
def hasForm (method : String) : Reply → Bool
  | .crypt _ => method = "Decrypt"
  | .loop _ => method = "LoopDevice"
  | .unit => method ≠ "Decrypt" ∧ method ≠ "LoopDevice"

/-- What a payload comes to as the response to an operation. -/
def verdict (method : String) (payload : List UInt8) : Except Failure Reply :=
  match responseOf payload with
  | .error error => .error (.serialization error)
  | .ok (.error remote) => .error (.remote remote.kind remote.message)
  | .ok (.ok reply) =>
    if hasForm method reply then .ok reply
    else .error (.transport s!"unexpected reply to {method}: {reply.shown}")

/-! ## One call -/

/-- The reply that a typed call takes its value from. -/
def replyOf : (request : Request) → Value request → Reply
  | .decrypt _ => fun device ↦ .crypt ⟨device⟩
  | .loopDevice _ => fun index ↦ .loop ⟨index⟩
  | .mount _ | .mkdir _ | .chroot _ | .setHostname _ | .setFsId _ | .chdir _ => fun _ ↦ .unit

/-- The value that a typed call takes from a reply. -/
def valueOf? : (request : Request) → Reply → Option (Value request)
  | .decrypt _ => device?
  | .loopDevice _ => index?
  | .mount _ | .mkdir _ | .chroot _ | .setHostname _ | .setFsId _ | .chdir _ => unit?

/-- Every typed call is a call that expects a form of reply. -/
theorem callTyped_eq (peer : Peer σ) (request : Request) :
    callTyped peer request = callFor (valueOf? request) peer request := by
  cases request <;> rfl

/-- A value is taken from the one reply that holds it. -/
theorem valueOf?_eq_some {request : Request} {reply : Reply} {value : Value request} :
    valueOf? request reply = some value ↔ reply = replyOf request value := by
  obtain _ | ⟨⟨device⟩⟩ | ⟨⟨index⟩⟩ := reply <;> cases request <;>
    simp [valueOf?, replyOf, unit?, device?, index?]

/-- The form of the replies is told from the name of the operation. -/
theorem hasForm_method (request : Request) (reply : Reply) :
    hasForm request.method reply = (valueOf? request reply).isSome := by
  cases request <;> cases reply <;> rfl

/-- What a typed call makes of a reply. -/
def accept (request : Request) (reply : Reply) : Except Failure (Value request) :=
  match valueOf? request reply with
  | some value => .ok value
  | none => .error (unexpected request.method reply)

/-- What a typed call gives for a response. -/
def answerTo (request : Request) (payload : List UInt8) : Except Failure (Value request) :=
  (resultOf payload).bind (accept request)

/-- What the answer to a call says of the response to it. -/
structure AnswerLaws (request : Request) (payload : List UInt8) (answer : Except Failure (Value request)) :
    Prop where
  /-- The answer is told from the name of the operation and from the response. -/
  told : answer.map (replyOf request) = verdict request.method payload
  /-- A call that succeeds gives what is in the reply of its operation. -/
  value (value : Value request) : answer = .ok value ↔ responseOf payload = .ok (.ok (replyOf request value))
  /-- A failure that is reported keeps its kind and its text. -/
  remote (kind : ErrorKind) (message : String) :
    answer = .error (.remote kind message) ↔ responseOf payload = .ok (.error ⟨kind, message⟩)
  /-- A reply of another operation is a failure of the transport. -/
  unexpected (message : String) : answer = .error (.transport message) ↔
    ∃ reply, responseOf payload = .ok (.ok reply) ∧ (∀ value, reply ≠ replyOf request value) ∧
      message = s!"unexpected reply to {request.method}: {reply.shown}"
  /-- What is no response is a failure of serialization. -/
  unreadable (error : Json.ReadError) :
    answer = .error (.serialization error) ↔ responseOf payload = .error error

/-- An answer is told from the response that the payload holds. -/
theorem answerTo_eq (request : Request) (payload : List UInt8) :
    answerTo request payload = match responseOf payload with
      | .error error => .error (.serialization error)
      | .ok (.ok reply) => accept request reply
      | .ok (.error remote) => .error (.remote remote.kind remote.message) := by
  unfold answerTo resultOf responseOf
  rcases Response.reader.ofInput (Text.Utf8.decode payload) with error | reply | remote <;> rfl

/-- What a call gives depends on the response to it alone. -/
theorem answerTo_laws (request : Request) (payload : List UInt8) :
    AnswerLaws request payload (answerTo request payload) := by
  have hanswer := answerTo_eq request payload
  rcases hresponse : responseOf payload with error | reply | ⟨kind, message⟩ <;> rw [hresponse] at hanswer
  · rw [hanswer]
    constructor <;> simp [verdict, hresponse, Except.map]
  · cases hvalue : valueOf? request reply with
    | none =>
      simp only [accept, hvalue] at hanswer
      have hother (value : Value request) : reply ≠ replyOf request value := by
        rw [Ne, ← valueOf?_eq_some, hvalue]
        exact (Option.some_ne_none value).symm
      rw [hanswer]
      constructor <;>
        simp [verdict, hresponse, hasForm_method, hvalue, hother, Except.map, Client.unexpected, eq_comm]
    | some value =>
      simp only [accept, hvalue] at hanswer
      obtain rfl : reply = replyOf request value := valueOf?_eq_some.mp hvalue
      rw [hanswer]
      constructor
      · simp [verdict, hresponse, hasForm_method, hvalue, Except.map]
      · intro other
        rw [hresponse]
        simp only [Except.ok.injEq, Response.ok.injEq, ← valueOf?_eq_some, hvalue, Option.some.injEq]
      · simp [hresponse]
      · intro message
        simp only [hresponse, reduceCtorEq, false_iff]
        rintro ⟨other, hother, hnone, -⟩
        cases hother
        exact hnone value rfl
      · simp [hresponse]
  · rw [hanswer]
    constructor <;> simp [verdict, hresponse, Except.map]

/-- A typed call gives what is told from the response to the call behind it. -/
theorem callTyped_run (peer : Peer σ) (request : Request) (connection : Connection σ) :
    (callTyped peer request).run connection =
      ((call peer request connection).1.bind (accept request), (call peer request connection).2) := by
  rw [callTyped_eq, StateT.run, callFor]
  rcases call peer request connection with ⟨failure | reply, after⟩
  · rfl
  · simp only [Except.bind, accept]
    cases valueOf? request reply <;> rfl

/-- A request that is too long is not sent, and nothing is waited for. -/
theorem answer_of_not_fits (peer : Peer σ) {request : Request} (h : fits request = false)
    (connection : Connection σ) :
    (machine peer).answer request connection = (.error (tooLong request), connection) := by
  have hlong : Frame.maximalLength < (requestPayload request).length := by
    simpa only [fits, decide_eq_false_iff_not, Nat.not_le] using h
  have hcall : call peer request connection = (.error (tooLong request), connection) := by
    simp only [call, Frame.encode, hlong, if_true]
    rfl
  calc (machine peer).answer request connection = (callTyped peer request).run connection := rfl
    _ = (.error (tooLong request), connection) := by
      rw [callTyped_run, hcall]
      rfl

/-- A request that fits is sent in one frame, and one frame is taken off, whatever it holds. -/
theorem answer_of_fits {request : Request} (h : fits request = true) {line : Line}
    {response rest : List UInt8} (hnext : Frame.next line.unread = .frame response rest) :
    (machine Line.peer).answer request ⟨line, true⟩ = (answerTo request response,
      ⟨⟨line.written ++ Frame.framed (requestPayload request), rest⟩, true⟩) := by
  have hshort : ¬ Frame.maximalLength < (requestPayload request).length := by
    simpa only [fits, decide_eq_true_eq, Nat.not_lt] using h
  have hreact : Line.react (requestPayload request) line =
      .answer response ⟨line.written ++ Frame.framed (requestPayload request), rest⟩ := by
    simp only [Line.react, hnext]
    rfl
  have hcall : call Line.peer request ⟨line, true⟩ = (resultOf response,
      ⟨⟨line.written ++ Frame.framed (requestPayload request), rest⟩, true⟩) := by
    simp only [call, Frame.encode, hshort, if_false, if_true, Line.peer, hreact]
  calc (machine Line.peer).answer request ⟨line, true⟩
      = (callTyped Line.peer request).run ⟨line, true⟩ := rfl
    _ = _ := by
      rw [callTyped_run, hcall]
      rfl

/-! ## Calls one after the other -/

/-- What calls come to that are made over a line with enough frames to read. -/
structure PairingLaws (calls : List Request) (line : Line) (events : List (Event Calls))
    (after : Connection Line) : Prop where
  made : events.map (·.call) = calls
  isOpen : after.isOpen = true
  /-- One frame is written for each request that fits, and nothing for the others. -/
  written : after.peer.written = line.written ++
    (calls.filter fits).flatMap fun request ↦ Frame.framed (requestPayload request)
  /-- As many frames are taken off. -/
  unread : line.unread =
    ((Frame.payloads line.unread).take (calls.countP fits)).flatMap Frame.framed ++ after.peer.unread
  /-- A request that is too long gets no response. -/
  refused (index : Nat) (request : Request) (hcall : calls[index]? = some request)
    (hlong : fits request = false) : events[index]? = some ⟨request, .error (tooLong request)⟩
  /-- The response to any other is the one behind those to the calls before it. -/
  answered (index : Nat) (request : Request) (hcall : calls[index]? = some request)
    (hfits : fits request = true) :
    ∃ response answer, (Frame.payloads line.unread)[(calls.take index).countP fits]? = some response ∧
      events[index]? = some ⟨request, answer⟩ ∧ AnswerLaws request response answer

theorem PairingLaws.nil (line : Line) : PairingLaws [] line [] ⟨line, true⟩ where
  made := rfl
  isOpen := rfl
  written := by simp
  unread := by simp
  refused := by simp
  answered := by simp

variable {calls : List Request} {line : Line} {events : List (Event Calls)} {after : Connection Line}
  {request : Request}

/-- A call that is refused leaves the others their responses. -/
theorem PairingLaws.refuse (h : fits request = false) (hlaws : PairingLaws calls line events after) :
    PairingLaws (request :: calls) line (⟨request, .error (tooLong request)⟩ :: events) after where
  made := congrArg (request :: ·) hlaws.made
  isOpen := hlaws.isOpen
  written := by simpa [h] using hlaws.written
  unread := by simpa [h] using hlaws.unread
  refused index other hcall hlong := by
    cases index with
    | zero =>
      cases hcall
      rfl
    | succ index => exact hlaws.refused index other hcall hlong
  answered index other hcall hfits := by
    cases index with
    | zero =>
      cases hcall
      exact absurd hfits (by simp [h])
    | succ index => simpa [h] using hlaws.answered index other hcall hfits

/-- A call that is sent moves the others on by one response. -/
theorem PairingLaws.send {response rest : List UInt8} (h : fits request = true)
    (hnext : Frame.next line.unread = .frame response rest)
    (hlaws : PairingLaws calls ⟨line.written ++ Frame.framed (requestPayload request), rest⟩ events after) :
    PairingLaws (request :: calls) line (⟨request, answerTo request response⟩ :: events) after where
  made := congrArg (request :: ·) hlaws.made
  isOpen := hlaws.isOpen
  written := by simpa [h, List.append_assoc] using hlaws.written
  unread := by
    calc line.unread = Frame.framed response ++ rest := (Frame.eq_of_next hnext).1
      _ = Frame.framed response ++
          (((Frame.payloads rest).take (calls.countP fits)).flatMap Frame.framed ++ after.peer.unread) :=
        congrArg (Frame.framed response ++ ·) hlaws.unread
      _ = ((Frame.payloads line.unread).take ((request :: calls).countP fits)).flatMap Frame.framed ++
          after.peer.unread := by
        rw [Frame.payloads_of_frame hnext, List.countP_cons_of_pos h, List.take_succ_cons, List.flatMap_cons,
          List.append_assoc]
  refused index other hcall hlong := by
    cases index with
    | zero =>
      cases hcall
      exact absurd hlong (by simp [h])
    | succ index => exact hlaws.refused index other hcall hlong
  answered index other hcall hfits := by
    rw [Frame.payloads_of_frame hnext]
    cases index with
    | zero =>
      cases hcall
      exact ⟨response, _, rfl, rfl, answerTo_laws request response⟩
    | succ index =>
      rw [List.take_succ_cons, List.countP_cons_of_pos h]
      exact hlaws.answered index other hcall hfits

/-- Calls stay paired with their responses, whatever the responses hold. -/
theorem calls_paired (calls : List Request) (line : Line)
    (henough : calls.countP fits ≤ (Frame.payloads line.unread).length) :
    PairingLaws calls line ((machine Line.peer).perform calls ⟨line, true⟩).1
      ((machine Line.peer).perform calls ⟨line, true⟩).2 := by
  -- The line is another one for the calls after one that was sent.
  induction calls generalizing line with
  | nil => exact .nil line
  | cons request calls ih =>
    cases hfits : fits request with
    | false =>
      rw [List.countP_cons_of_neg (by simp [hfits])] at henough
      simp only [Machine.perform, answer_of_not_fits Line.peer hfits]
      exact (ih line henough).refuse hfits
    | true =>
      rw [List.countP_cons_of_pos hfits] at henough
      rcases hnext : Frame.next line.unread with ⟨response, rest⟩ | _ | defect
      · rw [Frame.payloads_of_frame hnext, List.length_cons] at henough
        simp only [Machine.perform, answer_of_fits hfits hnext]
        exact (ih _ (Nat.le_of_succ_le_succ henough)).send hfits hnext
      all_goals
        rw [Frame.payloads_of_not_frame (by simp [hnext])] at henough
        exact absurd henough (Nat.not_succ_le_zero _)

/-- Three responses: one that is no text, the reply of another operation, and a reply. -/
def strayingResponses : List (List UInt8) :=
  [[255], Server.responsePayload (.ok .unit), Server.responsePayload (.ok (.crypt ⟨"/dev/mapper/data"⟩))]

/-- The third call gets its device, after the two before it have used up what is not for them. -/
theorem calls_paired_straying :
    let calls : List Request := [.chdir ⟨"/"⟩, .decrypt ⟨[1], "/dev/loop0", 0⟩, .decrypt ⟨[1], "/dev/loop0", 0⟩]
    let line : Line := ⟨[], strayingResponses.flatMap Frame.framed⟩
    calls.countP fits ≤ (Frame.payloads line.unread).length ∧
      ((machine Line.peer).perform calls ⟨line, true⟩).1[2]? =
        some ⟨.decrypt ⟨[1], "/dev/loop0", 0⟩, .ok "/dev/mapper/data"⟩ := by
  intro calls line
  have hpayloads : Frame.payloads line.unread = strayingResponses := by
    have hshort : ∀ payload ∈ strayingResponses, payload.length ≤ Frame.maximalLength := by decide +kernel
    have hend (payload rest : List UInt8) : Frame.next [] ≠ .frame payload rest := by simp [Frame.next]
    have hcut := (Frame.payloads_flatMap hshort hend).1
    rwa [List.append_nil] at hcut
  have hcount : calls.countP fits = 3 := by decide +kernel
  have henough : calls.countP fits ≤ (Frame.payloads line.unread).length := by
    rw [hpayloads, hcount]
    rfl
  have hlaws := calls_paired calls line henough
  obtain ⟨response, answer, hresponse, hevent, hanswer⟩ := hlaws.answered 2 _ rfl (by decide +kernel)
  rw [hpayloads, show (calls.take 2).countP fits = 2 by decide +kernel] at hresponse
  cases hresponse
  have hread := ofInput_render Response.conforms.recovers (by decide) (.ok (.crypt ⟨"/dev/mapper/data"⟩))
  refine ⟨henough, ?_⟩
  rw [hevent, (hanswer.value "/dev/mapper/data").mpr hread]

end ContainerConstruction.Client
