import ContainerConstruction.Proofs.Server.Configuration
import ContainerConstruction.Proofs.Server.Identity
import ContainerConstruction.Proofs.Text.Size

/-!
# Responses that are too long

A frame is bounded in both directions, but the text of a failure is not: it quotes the request, and quoting and
escaping make a text longer.  A response that does not fit a frame is not written.  The server has done the
request then, and it ends the connection without an answer.

The decoder's words about a frame without a request are left open.  They may quote as much of the frame as they
like, and `SilenceLaws.undecodable` says how long they may be.

`SilenceLaws` says what becomes of a stream of frames with that: they are answered up to the first whose
response does not fit.  Responses with a short text always do.
-/

namespace ContainerConstruction

variable {σ : Type}

/-! ## The sizes of responses -/

def Response.text : Response → String
  | .error remote => remote.message
  | .ok (.crypt reply) => reply.device
  | .ok _ => ""

namespace Server

/-- The payload of a response: its status and what the status is about. -/
theorem length_responsePayload (response : Response) :
    (responsePayload response).length =
      Json.escapedSize response.status + String.utf8Len response.payloadJson.print + 24 := by
  have hnames : Json.escapedSize "status" = 6 ∧ Json.escapedSize "payload" = 7 := by decide +kernel
  rw [responsePayload, Text.Utf8.length_ofText, Json.render, String.utf8ByteSize_ofList, Response.toJson_eq,
    Json.utf8Len_print_two, Json.print, Json.utf8Len_printString]
  omega

/-- The payload of a failure holds its class and its text; all else in it has 53 bytes. -/
theorem length_responsePayload_error (remote : RemoteError) :
    (responsePayload (.error remote)).length =
      Json.escapedSize remote.kind.wireName + Json.escapedSize remote.message + 53 := by
  have hnames : Json.escapedSize "error" = 5 ∧ Json.escapedSize "kind" = 4 ∧
      Json.escapedSize "message" = 7 := by decide +kernel
  rw [length_responsePayload, Response.status, Response.payloadJson, RemoteError.toJson, ErrorKind.toJson,
    Json.utf8Len_print_two, Json.print, Json.print, Json.utf8Len_printString, Json.utf8Len_printString]
  omega

/-- The path of a device is all that its response can grow by. -/
theorem length_responsePayload_crypt (reply : CryptReply) :
    (responsePayload (.ok (.crypt reply))).length = Json.escapedSize reply.device + 49 := by
  have hnames : Json.escapedSize "ok" = 2 ∧ Json.escapedSize "crypt" = 5 ∧ Json.escapedSize "device" = 6 := by
    decide +kernel
  rw [length_responsePayload, Response.status, Response.payloadJson, Reply.toJson, CryptReply.toJson,
    Json.utf8Len_print_one, Json.utf8Len_print_one, Json.print, Json.utf8Len_printString]
  omega

theorem length_responsePayload_loop (reply : LoopReply) :
    (responsePayload (.ok (.loop reply))).length ≤ 55 := by
  have hnames : Json.escapedSize "ok" = 2 ∧ Json.escapedSize "loop" = 4 ∧ Json.escapedSize "index" = 5 := by
    decide +kernel
  have hindex : String.utf8Len (Json.printInteger (reply.index.toNat : Nat)) ≤ 10 :=
    Json.utf8Len_printInteger_le (Nat.lt_trans reply.index.toNat_lt (by decide))
  rw [length_responsePayload, Response.status, Response.payloadJson, Reply.toJson, LoopReply.toJson, Json.nat,
    Json.utf8Len_print_one, Json.utf8Len_print_one, Json.print]
  omega

/-- Whatever is not its text takes at most 64 bytes of a response. -/
theorem length_responsePayload_le (response : Response) :
    (responsePayload response).length ≤ Json.escapedSize response.text + 64 := by
  match response with
  | .error remote =>
    have hkind : Json.escapedSize remote.kind.wireName ≤ 11 := by
      cases remote.kind <;> decide +kernel
    rw [length_responsePayload_error, Response.text]
    omega
  | .ok .unit =>
    have hlength : (responsePayload (.ok .unit)).length = 32 := by decide +kernel
    omega
  | .ok (.crypt reply) =>
    rw [length_responsePayload_crypt, Response.text]
    omega
  | .ok (.loop reply) =>
    have hlength := length_responsePayload_loop reply
    omega

/-- A failure of configuration takes its text and a heading. -/
theorem escapedSize_config (text : String) :
    Json.escapedSize (Failure.config text).message = 23 + Json.escapedSize text := by
  have hconfig : Json.escapedSize "invalid configuration: " = 23 := by decide +kernel
  rw [← hconfig, ← Json.escapedSize_append]
  rfl

/-- The response to a frame without a request holds what the decoder says of it, and 105 bytes more. -/
theorem length_responsePayload_undecodable (words : String) :
    (responsePayload (.ofFailure (.config s!"invalid request frame: {words}"))).length =
      Json.escapedSize words + 105 := by
  have hkind : Json.escapedSize ErrorKind.config.wireName = 6 := by decide +kernel
  have hframe : Json.escapedSize "invalid request frame: " = 23 := by decide +kernel
  have hwords : Json.escapedSize s!"invalid request frame: {words}" = 23 + Json.escapedSize words := by
    rw [← hframe, ← Json.escapedSize_append]
    rfl
  rw [Response.ofFailure, length_responsePayload_error, RemoteError.ofFailure]
  simp only [Failure.kind, hkind, escapedSize_config, hwords]
  omega

/-- A response with a text of less than 1.3 megabytes fits, whatever is in the text. -/
theorem fitsFrame_of_text {response : Response} (h : response.text.utf8ByteSize ≤ 1398000) :
    FitsFrame response := by
  have hlength := length_responsePayload_le response
  have htext := Json.escapedSize_le response.text
  unfold FitsFrame Frame.maximalLength
  omega

end Server

namespace Request

/-- The texts that a request may be refused for. -/
def blamedTexts : Request → List String
  | .mount args => args.options
  | .loopDevice args => [args.image]
  | _ => []

/-- What a request is refused for holds one of its texts at most. -/
theorem escapedSize_of_defect? {request : Request} {failure : Failure} {size : Nat}
    (h : request.defect? = some failure) (htexts : ∀ text ∈ request.blamedTexts, text.utf8ByteSize ≤ size) :
    Json.escapedSize failure.message ≤ 7 * size + 60 := by
  cases request with
  | mount args =>
    obtain ⟨name, hname, rfl⟩ := MountFlags.unknown_of_ofNames (errorOf?_eq_some.mp h)
    have hflag : Json.escapedSize "unknown mount flag: " = 20 := by decide +kernel
    have htext : Json.escapedSize s!"unknown mount flag: {name}" = 20 + Json.escapedSize name := by
      rw [← hflag, ← Json.escapedSize_append]
      rfl
    have hsize := Json.escapedSize_le name
    have hlimit := htexts name hname
    rw [Server.escapedSize_config, htext]
    omega
  | setHostname args =>
    have hempty : Json.escapedSize "hostname must not be empty" = 26 := by decide +kernel
    have hlong : Json.escapedSize s!"hostname exceeds {HostnameArgs.maximalLength} bytes" = 25 := by
      decide +kernel
    obtain rfl | rfl := HostnameArgs.cases_of_defect? h
    · rw [Server.escapedSize_config, hempty]
      omega
    · rw [Server.escapedSize_config, hlong]
      omega
  | loopDevice args =>
    have hreference : Json.escapedSize "invalid image file descriptor in " = 33 := by decide +kernel
    have htext : Json.escapedSize s!"invalid image file descriptor in {Text.quoted args.image}" =
        33 + Json.escapedSize (Text.quoted args.image) := by
      rw [← hreference, ← Json.escapedSize_append]
      rfl
    have hsize := Text.escapedSize_quoted_le args.image
    have hlimit := htexts args.image (List.mem_singleton_self _)
    rw [ImageSource.invalid_of_ofReference (errorOf?_eq_some.mp h), Server.escapedSize_config, htext]
    omega
  | decrypt | mkdir | chroot | setFsId | chdir => cases h

/-- The refusal of a request fits, if none of its texts has more than about 1.2 megabytes. -/
theorem fitsFrame_of_defect? {request : Request} {failure : Failure} (h : request.defect? = some failure)
    (htexts : ∀ text ∈ request.blamedTexts, text.utf8ByteSize ≤ 1198000) :
    Server.FitsFrame (.ofFailure failure) := by
  have hmessage := escapedSize_of_defect? h htexts
  have hkind : Json.escapedSize ErrorKind.config.wireName = 6 := by decide +kernel
  have hlength : (Server.responsePayload (.ofFailure failure)).length =
      6 + Json.escapedSize failure.message + 53 := by
    rw [Response.ofFailure, Server.length_responsePayload_error, RemoteError.ofFailure, kind_of_defect? h,
      hkind]
  unfold Server.FitsFrame Frame.maximalLength
  omega

end Request

namespace Server

/-! ## Streams -/

variable (methods : Methods σ)

/-- A response that does not fit is not written, and the connection ends. -/
theorem serve_of_not_fits {stream payload rest : List UInt8} (hnext : Frame.next stream = .frame payload rest)
    {server : Server σ} (hfits : ¬FitsFrame (server.handleFrame methods payload).1) :
    serve methods stream server =
      ⟨[], .error (writeFailure .tooBig), (server.handleFrame methods payload).2⟩ := by
  have hencode : responseFrame (server.handleFrame methods payload).1 = .error .tooBig :=
    if_pos (Nat.lt_of_not_le hfits)
  rw [serve_of_next methods hnext]
  simp only [turn, hencode]
  rfl

/-- The responses up to the first that does not fit. -/
def writable (responses : List Response) : List Response :=
  responses.takeWhile fun response ↦ FitsFrame response

theorem writable_of_fits {response : Response} (h : FitsFrame response) (others : List Response) :
    writable (response :: others) = response :: writable others :=
  List.takeWhile_cons_of_pos (decide_eq_true h)

theorem writable_of_not_fits {response : Response} (h : ¬FitsFrame response) (others : List Response) :
    writable (response :: others) = [] :=
  List.takeWhile_cons_of_neg (by simpa using h)

/-- A stream is served as if its responses had no bound, up to the first that does not fit: that one is not
written any more, but its frame has been handled. -/
theorem serve_eq_writable (stream : List UInt8) (server : Server σ) :
    let frames := answered methods (Frame.payloads stream) server
    let responses := writable (answers methods frames server)
    serve methods stream server =
      ⟨responses,
        if responses.length = frames.length then servedResult methods stream frames server
        else .error (writeFailure .tooBig),
        afterFrames methods (frames.take (responses.length + 1)) server⟩ := by
  fun_induction Frame.payloads stream generalizing server with
  | case1 stream payload rest hnext ih =>
    by_cases hfits : FitsFrame (server.handleFrame methods payload).1
    · rw [serve_of_frame methods hnext server hfits]
      cases hpoisoned : (server.handleFrame methods payload).2.poisoned with
      | true =>
        simp only [answered_of_poisoned methods _ hpoisoned, hpoisoned, if_true, answers,
          writable_of_fits hfits]
        simp [writable, servedResult, afterFrames, hpoisoned]
      | false =>
        simp only [answered_of_not_poisoned methods _ hpoisoned, hpoisoned, Bool.false_eq_true, if_false, ih,
          answers, writable_of_fits hfits, List.length_cons, Nat.add_right_cancel_iff,
          servedResult_cons methods hnext _ hpoisoned, List.take_succ_cons, afterFrames_cons]
    · rw [serve_of_not_fits methods hnext hfits]
      simp only [answered, answers, writable_of_not_fits hfits]
      rfl
  | case2 stream hnext =>
    rw [serve_of_not_frame methods hnext]
    simp [answered, answers, writable, afterFrames, servedResult, Frame.remainder_of_not_frame hnext]

/-- A frame is answered exactly if its response fits. -/
theorem head?_responses_iff {stream payload rest : List UInt8} (hnext : Frame.next stream = .frame payload rest)
    (server : Server σ) :
    (serve methods stream server).responses.head? = some (server.handleFrame methods payload).1 ↔
      FitsFrame (server.handleFrame methods payload).1 := by
  constructor
  · intro hhead
    by_contra hfits
    rw [serve_of_not_fits methods hnext hfits] at hhead
    cases hhead
  · intro hfits
    rw [serve_of_frame methods hnext server hfits]
    cases hpoisoned : (server.handleFrame methods payload).2.poisoned <;> simp [hpoisoned]

/-- What becomes of the frames of a stream when responses may be too long. -/
structure SilenceLaws (stream : List UInt8) (server : Server σ) : Prop where
  /-- The responses are written up to the first that does not fit, and the frame of that one is the last that is
  handled. -/
  served : let frames := answered methods (Frame.payloads stream) server
    let responses := writable (answers methods frames server)
    serve methods stream server =
      ⟨responses,
        if responses.length = frames.length then servedResult methods stream frames server
        else .error (writeFailure .tooBig),
        afterFrames methods (frames.take (responses.length + 1)) server⟩
  /-- The first frame is answered exactly if its response fits. -/
  answered_iff : ∀ payload rest, Frame.next stream = .frame payload rest →
    ((serve methods stream server).responses.head? = some (server.handleFrame methods payload).1 ↔
      FitsFrame (server.handleFrame methods payload).1)
  /-- The connection goes on after it, unless the server is poisoned then. -/
  goesOn : ∀ payload rest, Frame.next stream = .frame payload rest →
    FitsFrame (server.handleFrame methods payload).1 →
      (server.handleFrame methods payload).2.poisoned = false →
        serve methods stream server =
          let served := serve methods rest (server.handleFrame methods payload).2
          { served with responses := (server.handleFrame methods payload).1 :: served.responses }
  /-- Otherwise nothing is written for it or for any frame behind it, and no other frame is handled. -/
  silenced : ∀ payload rest, Frame.next stream = .frame payload rest →
    ¬FitsFrame (server.handleFrame methods payload).1 →
      serve methods stream server =
        ⟨[], .error (writeFailure .tooBig), (server.handleFrame methods payload).2⟩
  /-- A frame without a request is answered exactly if the words of the decoder leave 105 bytes of a frame,
  counted as they are escaped. -/
  undecodable : ∀ payload rest error, Frame.next stream = .frame payload rest →
    Request.reader.ofInput (Text.Utf8.decode payload) = .error error →
      let words := methods.wording payload error
      ((serve methods stream server).responses.head? =
          some (.ofFailure (.config s!"invalid request frame: {words}")) ↔
        Json.escapedSize words + 105 ≤ Frame.maximalLength)
  /-- A request that the host refuses for its configuration is answered, unless it holds a text of more than
  1 198 000 bytes: quoted and escaped, a text is at most seven times as long. -/
  refused : ∀ (request : Request) failure, request.defect? = some failure →
    (∀ text ∈ request.blamedTexts, text.utf8ByteSize ≤ 1198000) → FitsFrame (.ofFailure failure)
  /-- Short texts silence nobody. -/
  short : let frames := answered methods (Frame.payloads stream) server
    (∀ response ∈ answers methods frames server, response.text.utf8ByteSize ≤ 1398000) →
      (serve methods stream server).responses = answers methods frames server

/-- A frame is answered, and the next one is served after it, exactly if the response to it fits a frame. -/
theorem silence_laws (stream : List UInt8) (server : Server σ) : SilenceLaws methods stream server where
  served := serve_eq_writable methods stream server
  answered_iff := fun _ _ hnext ↦ head?_responses_iff methods hnext server
  goesOn := by
    intro payload rest hnext hfits hpoisoned
    rw [serve_of_frame methods hnext server hfits]
    simp only [hpoisoned, Bool.false_eq_true, if_false]
  silenced := fun payload rest hnext hfits ↦ serve_of_not_fits methods hnext hfits
  undecodable := by
    intro payload rest error hnext hread words
    have hanswer : server.handleFrame methods payload =
        (.ofFailure (.config s!"invalid request frame: {words}"), server) := by
      rw [handleFrame, hread]
    have hiff := head?_responses_iff methods hnext server
    rw [hanswer] at hiff
    rw [hiff, FitsFrame, length_responsePayload_undecodable]
  refused := fun request failure h htexts ↦ request.fitsFrame_of_defect? h htexts
  short := by
    intro frames htexts
    have hall : writable (answers methods frames server) = answers methods frames server :=
      List.takeWhile_eq_self_iff.mpr fun response hresponse ↦
        decide_eq_true (fitsFrame_of_text (htexts response hresponse))
    exact (congrArg Served.responses (serve_eq_writable methods stream server)).trans hall

end Server

/-! ## A reference that is quoted -/

/-- A reference to a descriptor that is none: the prefix is followed by characters that are not printed. -/
def unprintableReference (count : Nat) : String :=
  String.ofList (ImageSource.descriptorPrefix.toList ++ List.replicate count '\x7f')

/-- A request that attaches the image of such a reference. -/
def unprintableRequest (count : Nat) : Request := .loopDevice ⟨unprintableReference count, 0, 0, false, .whole⟩

/-- What it is refused for. -/
def unprintableDefect (count : Nat) : Failure :=
  .config s!"invalid image file descriptor in {Text.quoted (unprintableReference count)}"

/-- The reference is refused, since it holds no digit. -/
theorem defect?_unprintableRequest {count : Nat} (h : 0 < count) :
    (unprintableRequest count).defect? = some (unprintableDefect count) := by
  have htext : (unprintableReference count).toList =
      ImageSource.descriptorPrefix.toList ++ List.replicate count '\x7f' := String.toList_ofList
  have hleading :
      ImageSource.descriptorPrefix.toList.isPrefixOf (unprintableReference count).toList = true := by
    rw [htext, List.isPrefixOf_iff_prefix]
    exact List.prefix_append _ _
  have hsuffix : (unprintableReference count).toList.drop ImageSource.descriptorPrefix.length =
      List.replicate count '\x7f' := by
    rw [htext, ← String.length_toList, List.drop_left]
  have hdigits : ImageSource.descriptor? (List.replicate count '\x7f') = none := by
    obtain ⟨others, rfl⟩ := Nat.exists_eq_add_one.mpr h
    rfl
  apply errorOf?_eq_some.mpr
  rw [ImageSource.ofReference, if_pos hleading, hsuffix, hdigits]
  rfl

/-- The reference stands in the request as it is. -/
theorem length_unprintableRequest (count : Nat) :
    (Client.requestPayload (unprintableRequest count)).length = count + 168 := by
  have hreference (count : Nat) : Json.escapedSize (unprintableReference count) = count + 14 := by
    rw [Json.escapedSize, unprintableReference, String.toList_ofList, List.flatMap_append,
      String.utf8Len_append, Text.Utf8.utf8Len_flatMap_replicate]
    have hleading : String.utf8Len (ImageSource.descriptorPrefix.toList.flatMap Json.printChar) = 14 := by
      decide +kernel
    have hchar : String.utf8Len (Json.printChar '\x7f') = 1 := by decide +kernel
    rw [hleading, hchar, Nat.mul_one, Nat.add_comm]
  -- Only the reference depends on the number.
  have hrest :
      (Client.requestPayload (unprintableRequest count)).length + Json.escapedSize (unprintableReference 0) =
        (Client.requestPayload (unprintableRequest 0)).length + Json.escapedSize (unprintableReference count) := by
    simp only [Client.requestPayload, Text.Utf8.length_ofText, Json.render, String.utf8ByteSize_ofList,
      unprintableRequest, Request.toJson, Request.argsJson, Request.method, LoopArgs.toJson, Json.print,
      Json.printMembers, Json.utf8Len_printString, String.utf8Len_append, String.utf8Len_cons]
    omega
  have hnone : (Client.requestPayload (unprintableRequest 0)).length = 168 := by decide +kernel
  rw [hreference, hreference, hnone] at hrest
  omega

/-- Each of its characters has seven bytes in the response: it is quoted by six characters, and the first of
these is escaped. -/
theorem length_unprintableDefect (count : Nat) :
    (Server.responsePayload (.ofFailure (unprintableDefect count))).length = 7 * count + 133 := by
  have hquoted : Json.escapedSize (Text.quoted (unprintableReference count)) = 7 * count + 18 := by
    have hmark : String.utf8Len (Json.printChar '"') = 2 := by decide +kernel
    have hleading : String.utf8Len (ImageSource.descriptorPrefix.toList.flatMap fun c ↦
        (Text.quoteChar c).flatMap Json.printChar) = 14 := by decide +kernel
    have hchar : String.utf8Len ((Text.quoteChar '\x7f').flatMap Json.printChar) = 7 := by decide +kernel
    rw [Json.escapedSize, Text.quoted, unprintableReference, String.toList_ofList, String.toList_ofList]
    simp only [List.flatMap_append, List.cons_append, List.flatMap_cons, List.flatMap_nil, List.flatMap_assoc,
      String.utf8Len_append, String.utf8Len_nil, Text.Utf8.utf8Len_flatMap_replicate, hmark, hleading, hchar]
    omega
  have hmessage : (unprintableDefect count).message = "invalid configuration: " ++
      ("invalid image file descriptor in " ++ Text.quoted (unprintableReference count)) := rfl
  have htext : Json.escapedSize "invalid configuration: " = 23 ∧
      Json.escapedSize "invalid image file descriptor in " = 33 ∧ Json.escapedSize "config" = 6 := by
    decide +kernel
  have hkind : (unprintableDefect count).kind.wireName = "config" := rfl
  rw [Response.ofFailure, Server.length_responsePayload_error, RemoteError.ofFailure]
  simp only [hkind, hmessage, Json.escapedSize_append, hquoted]
  omega

/-- No response is written to a request with 1 200 000 of these characters, and the request behind it is not
read, although both frames are short enough and the server is not poisoned. -/
theorem Server.silenced_by_reference :
    let request := unprintableRequest 1200000
    let stream := Frame.framed (Client.requestPayload request) ++
      Frame.framed (Client.requestPayload (.chdir ⟨"/"⟩))
    let server : Server FsIdentity := ⟨⟨0, 0⟩, false⟩
    (Client.requestPayload request).length ≤ Frame.maximalLength ∧
      server.handle IdentityKernel.granting.methods request =
        (.ofFailure (unprintableDefect 1200000), server) ∧
      serve IdentityKernel.granting.methods stream server = ⟨[], .error (writeFailure .tooBig), server⟩ := by
  intro request stream server
  have hlength : (Client.requestPayload request).length ≤ Frame.maximalLength := by
    rw [length_unprintableRequest]
    decide
  have hhandle : server.handle IdentityKernel.granting.methods request =
      (.ofFailure (unprintableDefect 1200000), server) :=
    handle_of_defect? _ _ rfl (defect?_unprintableRequest (by decide))
  have hanswer : server.handleFrame IdentityKernel.granting.methods (Client.requestPayload request) =
      (.ofFailure (unprintableDefect 1200000), server) := by
    rw [handleFrame_requestPayload, hhandle]
  have hfits :
      ¬FitsFrame (server.handleFrame IdentityKernel.granting.methods (Client.requestPayload request)).1 := by
    rw [hanswer, FitsFrame, length_unprintableDefect]
    decide
  have hnext := Frame.next_framed hlength (Frame.framed (Client.requestPayload (.chdir ⟨"/"⟩)))
  refine ⟨hlength, hhandle, ?_⟩
  rw [serve_of_not_fits _ hnext hfits, hanswer]

end ContainerConstruction
