import ContainerConstruction.Proofs.Executor.Queue
import ContainerConstruction.Proofs.Operation.Heeding

/-!
# Escalation stays within its request

Several requests are served on the host at the same time, and all but one kind of them have their operation
done by the one worker.  A `Journal` notes what the worker does, call by call, with the identity that it does it
under.  `LawfulEntry` is what an entry of the journal keeps to, given the entries before it: the identity of a
bracket is in force for the job of that bracket alone, and a job that returns from its bracket has handed the
earlier identity back.

`Coherent` ties the journal to the worker.  One step of the traffic preserves it, so it holds after every run.
-/

namespace ContainerConstruction

variable {σ : Type}

/-! ## Journals -/

/-- What the worker does for a job. -/
inductive JobDeed where
  | begun
  | called (call : KernelCall)
  | finished (reply : Except Failure Reply)

/-- A deed of the worker, with the number and the request of the job, and with the identity that the worker has
when it is done. -/
structure JournalEntry where
  number : Nat
  request : Option Request
  deed : JobDeed
  identity : FsIdentity

/-- What the worker has done, in order. -/
abbrev Journal : Type := List JournalEntry

namespace JournalEntry

/-- The call that was made. -/
def call? (entry : JournalEntry) : Option KernelCall :=
  match entry.deed with
  | .called call => some call
  | _ => none

def isFinish (entry : JournalEntry) : Bool :=
  match entry.deed with
  | .finished _ => true
  | _ => false

/-- Whether the image of the job is being attached. -/
def attachesImage (entry : JournalEntry) : Bool := entry.request.any Request.attachesImage

/-- Whether the call belongs to a bracket. -/
def isOfBracket (entry : JournalEntry) : Bool := entry.attachesImage && entry.call?.any KernelCall.asksId

end JournalEntry

namespace Journal

def callsOf (number : Nat) (journal : Journal) : List KernelCall :=
  journal.filterMap fun entry ↦ if entry.number = number then entry.call? else none

/-- A job has begun its bracket, and it has not finished yet. -/
structure IsOpen (number : Nat) (journal : Journal) : Prop where
  begun : ∃ entry ∈ journal, entry.number = number ∧ entry.isOfBracket = true
  unfinished : ∀ entry ∈ journal, entry.number = number → entry.isFinish = false

/-- The identity that the last finished job has left, or the one at the start. -/
def identityLeft (start : FsIdentity) (journal : Journal) : FsIdentity :=
  journal.foldl (fun left entry ↦ if entry.isFinish then entry.identity else left) start

/-- What an entry keeps to, after the entries before it. -/
structure LawfulEntry (start : FsIdentity) (before : Journal) (entry : JournalEntry) : Prop where
  /-- The worker does the jobs of requests that do not open an encrypted device. -/
  onWorker : ∃ request, entry.request = some request ∧ request.isDecrypt = false
  /-- While a bracket is open, the worker does nothing but its job. -/
  exclusive : ∀ number, IsOpen number before → number = entry.number
  /-- A job that neither attaches an image nor changes the identity runs, from its beginning to its end, under
  the identity that the jobs before it have left. -/
  unescalated : ∀ request, entry.request = some request → request.attachesImage = false →
    request.asksIdentity = false → entry.identity = identityLeft start before
  /-- A job that changes the identity begins under the one that was left.  From then on each id is that one or
  the one it asks for, and if it succeeds it has both of them. -/
  own : ∀ args, entry.request = some (.setFsId args) →
    entry.identity.IsMixOf (identityLeft start before) args.identity ∧
      (callsOf entry.number before = [] → entry.isFinish = false →
        entry.identity = identityLeft start before) ∧
      ∀ reply, entry.deed = .finished (.ok reply) → entry.identity = args.identity
  /-- A job that attaches an image runs under the identity that was left, up to the call that begins its
  bracket and including that. -/
  outside : ∀ args, entry.request = some (.loopDevice args) → entry.isFinish = false →
    ¬IsOpen entry.number before → entry.identity = identityLeft start before
  /-- The image itself is opened while no bracket is open. -/
  image : ∀ args call, entry.request = some (.loopDevice args) → entry.deed = .called call →
    call.opensImage = true → ∀ number, ¬IsOpen number before
  /-- A job that has attached an image has restored the identity that it found, or its reply is that this one is
  lost. -/
  restored : ∀ args reply, entry.request = some (.loopDevice args) → entry.deed = .finished reply →
    (∀ message, reply ≠ .error (.identityRestore message)) → entry.identity = identityLeft start before

/-- Every entry keeps to its law. -/
def Lawful (start : FsIdentity) (journal : Journal) : Prop :=
  ∀ before entry after, journal = before ++ entry :: after → LawfulEntry start before entry

variable {start : FsIdentity} {journal : Journal} {entry : JournalEntry} {number : Nat}

theorem lawful_nil (start : FsIdentity) : Lawful start [] := by
  intro before entry after hsplit
  cases before <;> cases hsplit

theorem Lawful.concat (h : Lawful start journal) (hentry : LawfulEntry start journal entry) :
    Lawful start (journal ++ [entry]) := by
  intro before other after hsplit
  obtain rfl | ⟨later, last, rfl⟩ := List.eq_nil_or_concat after
  · obtain ⟨rfl, hlast⟩ := List.append_inj' hsplit rfl
    cases hlast
    exact hentry
  · rw [List.concat_eq_append, ← List.cons_append, ← List.append_assoc] at hsplit
    exact h before other later (List.append_inj' hsplit rfl).1

theorem Lawful.of_append {later : Journal} (h : Lawful start (journal ++ later)) : Lawful start journal := by
  intro before entry after hsplit
  apply h before entry (after ++ later)
  rw [hsplit, List.append_assoc, List.cons_append]

theorem Lawful.last (h : Lawful start (journal ++ [entry])) : LawfulEntry start journal entry :=
  h journal entry [] rfl

theorem identityLeft_concat (start : FsIdentity) (journal : Journal) (entry : JournalEntry) :
    identityLeft start (journal ++ [entry]) =
      if entry.isFinish then entry.identity else identityLeft start journal :=
  List.foldl_concat ..

/-- An entry adds to the calls of its own job only. -/
theorem callsOf_concat (number : Nat) (journal : Journal) (entry : JournalEntry) :
    callsOf number (journal ++ [entry]) =
      callsOf number journal ++ (if entry.number = number then entry.call? else none).toList := by
  rw [callsOf, List.filterMap_append]
  cases hcall : (if entry.number = number then entry.call? else none) <;> simp [callsOf, hcall]

theorem callsOf_of_forall_ne (h : ∀ entry ∈ journal, entry.number ≠ number) : callsOf number journal = [] := by
  apply List.filterMap_eq_nil_iff.mpr
  intro entry hentry
  rw [if_neg (h entry hentry)]

/-- A bracket that is open was open before, or the last call has begun it. -/
theorem IsOpen.of_concat (h : IsOpen number (journal ++ [entry])) :
    IsOpen number journal ∨ entry.number = number ∧ entry.isOfBracket = true := by
  obtain ⟨⟨opening, hmem, hnumber, hbracket⟩, hunfinished⟩ := h
  rcases List.mem_append.mp hmem with hbefore | hlast
  · exact .inl ⟨⟨opening, hbefore, hnumber, hbracket⟩,
      fun other hother ↦ hunfinished other (List.mem_append_left _ hother)⟩
  · cases List.mem_singleton.mp hlast
    exact .inr ⟨hnumber, hbracket⟩

/-- The bracket of a job that has not finished is open if an id has been asked for. -/
theorem isOpen_iff {args : LoopArgs} (hrequest : ∀ entry ∈ journal, entry.number = number →
    entry.request = some (.loopDevice args) ∧ entry.isFinish = false) :
    IsOpen number journal ↔ (callsOf number journal).any KernelCall.asksId = true := by
  have hasks (entry : JournalEntry) (hentry : entry ∈ journal) (hnumber : entry.number = number) :
      entry.isOfBracket = entry.call?.any KernelCall.asksId := by
    rw [JournalEntry.isOfBracket, JournalEntry.attachesImage, (hrequest entry hentry hnumber).1]
    exact Bool.true_and _
  constructor
  · rintro ⟨⟨entry, hentry, hnumber, hbracket⟩, -⟩
    rw [hasks entry hentry hnumber] at hbracket
    obtain ⟨call, hcall, hid⟩ := (Option.any_eq_true _ _).mp hbracket
    have hmade : call ∈ callsOf number journal :=
      List.mem_filterMap.mpr ⟨entry, hentry, by rw [if_pos hnumber, hcall]⟩
    exact List.any_eq_true.mpr ⟨call, hmade, hid⟩
  · intro hany
    obtain ⟨call, hcall, hid⟩ := List.any_eq_true.mp hany
    obtain ⟨entry, hentry, hmade⟩ := List.mem_filterMap.mp hcall
    by_cases hnumber : entry.number = number
    · rw [if_pos hnumber] at hmade
      refine ⟨⟨entry, hentry, hnumber, ?_⟩, fun other hother hsame ↦ (hrequest other hother hsame).2⟩
      rw [hasks entry hentry hnumber, hmade]
      exact hid
    · rw [if_neg hnumber] at hmade
      cases hmade

/-- No two brackets are open at the same time. -/
theorem Lawful.disjoint {first second : Nat} (h : Lawful start journal) (hfirst : IsOpen first journal)
    (hsecond : IsOpen second journal) : first = second := by
  induction journal using List.reverseRecOn with
  | nil =>
    obtain ⟨⟨entry, hentry, -⟩, -⟩ := hfirst
    cases hentry
  | append_singleton journal entry ih =>
    have hexclusive := h.last.exclusive
    obtain hfirst | ⟨rfl, -⟩ := hfirst.of_concat
    · obtain hsecond | ⟨rfl, -⟩ := hsecond.of_concat
      · exact ih h.of_append hfirst hsecond
      · exact hexclusive first hfirst
    · obtain hsecond | ⟨rfl, -⟩ := hsecond.of_concat
      · exact (hexclusive second hsecond).symm
      · rfl

/-- A job was finished that may have left another identity than it has found: one that changes the identity for
good, or one that reports its loss. -/
def IsTurn (entry : JournalEntry) : Prop :=
  ∃ reply, entry.deed = .finished reply ∧
    ((∃ args, entry.request = some (.setFsId args)) ∨ ∃ message, reply = .error (.identityRestore message))

/-- A job that neither takes on an identity nor loses one ends with the one that it has found. -/
theorem LawfulEntry.kept (h : LawfulEntry start journal entry) (hturn : ¬IsTurn entry)
    (hfinish : entry.isFinish = true) : entry.identity = identityLeft start journal := by
  obtain ⟨request, hrequest, hdecrypt⟩ := h.onWorker
  cases hdeed : entry.deed with
  | begun => simp [JournalEntry.isFinish, hdeed] at hfinish
  | called call => simp [JournalEntry.isFinish, hdeed] at hfinish
  | finished reply =>
    cases request with
    | loopDevice args =>
      apply h.restored args reply hrequest hdeed
      exact fun message hlost ↦ hturn ⟨reply, hdeed, .inr ⟨message, hlost⟩⟩
    | setFsId args => exact absurd ⟨reply, hdeed, .inl ⟨args, hrequest⟩⟩ hturn
    | _ => exact h.unescalated _ hrequest rfl rfl

/-- The identity that was left stays the same for as long as no request has changed it for good and none has
lost it, whatever brackets there are in between. -/
theorem Lawful.kept {later : Journal} (h : Lawful start (journal ++ later))
    (hlater : ∀ entry ∈ later, ¬IsTurn entry) :
    identityLeft start (journal ++ later) = identityLeft start journal := by
  induction later using List.reverseRecOn with
  | nil => rw [List.append_nil]
  | append_singleton later entry ih =>
    rw [← List.append_assoc] at h ⊢
    have hbefore := ih h.of_append fun other hother ↦ hlater other (List.mem_append_left _ hother)
    have hturn := hlater entry (List.mem_append_right _ (List.mem_singleton_self entry))
    rw [identityLeft_concat, ← hbefore]
    split
    · rename_i hfinish
      exact h.last.kept hturn hfinish
    · rfl

end Journal

/-! ## The traffic and its journal -/

/-- The jobs that the worker has been handed, in order, and what it has done. -/
structure Watch where
  jobs : List Request
  journal : Journal

/-- Whether a move is one of the worker. -/
def HostMove.isOfWorker : HostMove → Bool
  | .serve _ => false
  | _ => true

namespace HostTraffic

/-- The request whose operation a move hands to the worker. -/
def handsOver? (traffic : HostTraffic σ) : HostMove → Option Request
  | .serve index =>
    match traffic.handlings[index]? with
    | some ⟨request, .admitted⟩ => if request.isDecrypt then none else some request
    | _ => none
  | _ => none

/-- What the worker does in a move, and for which job. -/
def deed? (traffic : HostTraffic σ) : HostMove → Option (Nat × JobDeed)
  | .serve _ => none
  | .begin => traffic.worker.queue.head?.map fun first ↦ (first.number, .begun)
  | .call =>
    match traffic.worker.current with
    | some ⟨number, .call question _⟩ => some (number, .called question)
    | _ => none
  | .finish => traffic.worker.current.bind fun job ↦
    (Worker.outcome? job.work).map fun outcome ↦ (job.number, .finished (Executor.settle outcome))

end HostTraffic

/-- Notes that a job is handed over. -/
def Watch.handOver (request : Option Request) (watch : Watch) : Watch :=
  { watch with jobs := watch.jobs ++ request.toList }

/-- Notes what the worker does under an identity. -/
def Watch.note (deed : Option (Nat × JobDeed)) (identity : FsIdentity) (watch : Watch) : Watch :=
  match deed with
  | none => watch
  | some (number, deed) =>
    { watch with journal := watch.journal ++ [⟨number, watch.jobs[number]?, deed, identity⟩] }

/-- Keeps watch over the moves that can be made. -/
def HostTraffic.watch (kernel : IdentityKernel σ) : List HostMove → HostTraffic σ → Watch → Watch
  | [], _, watch => watch
  | move :: rest, traffic, watch =>
    match traffic.step kernel.worker kernel.caller move with
    | none => watch
    | some next => next.watch kernel rest ((watch.handOver (traffic.handsOver? move)).note
        (traffic.deed? move) (kernel.identity traffic.worker.state))

/-! ## Steps of the worker -/

/-- A worker whose jobs are as before, and so is its identity. -/
structure SameWork (kernel : IdentityKernel σ) (worker next : Worker Kernel σ (Except Failure Reply)) :
    Prop where
  submitted : next.submitted = worker.submitted
  queue : next.queue = worker.queue
  current : next.current = worker.current
  begun : next.begun = worker.begun
  identity : kernel.identity next.state = kernel.identity worker.state

/-- What one move comes to for the worker: which request is handed over, what is done for which job, and how the
worker goes on. -/
inductive Works (kernel : IdentityKernel σ) (worker next : Worker Kernel σ (Except Failure Reply)) :
    Option Request → Option (Nat × JobDeed) → Prop where
  | rests (hsame : SameWork kernel worker next) : Works kernel worker next none none
  | takes {request : Request} (hdecrypt : request.isDecrypt = false)
      (hnext : next = { worker with
        submitted := worker.submitted ++ [request.operation.run]
        queue := worker.queue ++ [⟨worker.submitted.length, request.operation.run⟩] }) :
      Works kernel worker next (some request) none
  | begins {first : Submission Kernel (Except Failure Reply)}
      {rest : List (Submission Kernel (Except Failure Reply))} (hcurrent : worker.current = none)
      (hqueue : worker.queue = first :: rest)
      (hnext : next = { worker with
        queue := rest
        current := some first
        begun := worker.begun ++ [first.number] }) :
      Works kernel worker next none (some (first.number, .begun))
  | calls {number : Nat} {question : KernelCall}
      {following : question.Answer → Program Kernel (Except Failure Reply)}
      (hcurrent : worker.current = some ⟨number, .call question following⟩)
      (hnext : next = { worker with
        state := (kernel.worker.answer question worker.state).2
        current := some ⟨number, following (kernel.worker.answer question worker.state).1⟩ }) :
      Works kernel worker next none (some (number, .called question))
  | finishes {number : Nat} {left : Program Kernel (Except Failure Reply)}
      {outcome : Outcome (Except Failure Reply)} (hcurrent : worker.current = some ⟨number, left⟩)
      (houtcome : Worker.outcome? left = some outcome)
      (hnext : next = { worker with
        current := none
        replies := worker.replies ++ [(number, Executor.submitted outcome)] }) :
      Works kernel worker next none (some (number, .finished (Executor.settle outcome)))

theorem SameWork.refl (kernel : IdentityKernel σ) (worker : Worker Kernel σ (Except Failure Reply)) :
    SameWork kernel worker worker := ⟨rfl, rfl, rfl, rfl, rfl⟩

namespace HostTraffic

variable {kernel : IdentityKernel σ} {traffic next : HostTraffic σ}

/-- A thread that serves a request hands it to the worker, or else it leaves the worker's jobs as they are. -/
theorem works_serve {index : Nat} (h : traffic.serve kernel.worker kernel.caller index = some next) :
    Works kernel traffic.worker next.worker (traffic.handsOver? (.serve index)) none := by
  cases hhandling : traffic.handlings[index]? with
  | none => simp [serve, hhandling] at h
  | some handling =>
  obtain ⟨request, progress⟩ := handling
  simp only [serve, hhandling] at h
  simp only [handsOver?, hhandling]
  cases progress with
  | admitted =>
    simp only [undertake] at h
    cases hdecrypt : request.isDecrypt with
    | true =>
      simp only [hdecrypt, if_true] at h ⊢
      cases h
      exact .rests (.refl _ _)
    | false =>
      simp only [hdecrypt, Bool.false_eq_true, if_false, Worker.step, Option.map_some,
        Option.some.injEq] at h ⊢
      cases h
      exact .takes hdecrypt rfl
  | waiting number =>
    cases hreply : traffic.worker.replies.lookup number with
    | none => simp [receive, hreply] at h
    | some reply =>
      simp only [receive, Worker.step, hreply, Option.map_some, Option.some.injEq] at h
      cases h
      exact .rests ⟨rfl, rfl, rfl, rfl, rfl⟩
  | performing left =>
    cases h
    cases left with
    | done result => exact .rests (.refl _ _)
    | panics panic => exact .rests (.refl _ _)
    | call question following =>
      exact .rests ⟨rfl, rfl, rfl, rfl, kernel.keeps question traffic.worker.state⟩
  | arrived | refused | performed | recorded =>
    cases h
    exact .rests (.refl _ _)
  | answered => cases h

/-- Every move comes to something for the worker, and it does something exactly in its own moves. -/
theorem works_step {move : HostMove} (h : traffic.step kernel.worker kernel.caller move = some next) :
    Works kernel traffic.worker next.worker (traffic.handsOver? move) (traffic.deed? move) ∧
      (traffic.deed? move).isSome = move.isOfWorker := by
  cases move with
  | serve index => exact ⟨works_serve h, rfl⟩
  | begin =>
    obtain ⟨worker, hworker, rfl⟩ := Option.map_eq_some_iff.mp h
    simp only [Worker.step] at hworker
    split at hworker
    · rename_i first rest hcurrent hqueue
      cases hworker
      simp only [handsOver?, deed?, hqueue]
      exact ⟨.begins hcurrent hqueue rfl, rfl⟩
    · cases hworker
  | call =>
    obtain ⟨worker, hworker, rfl⟩ := Option.map_eq_some_iff.mp h
    simp only [Worker.step] at hworker
    split at hworker
    · rename_i number question following hcurrent
      cases hworker
      simp only [handsOver?, deed?, hcurrent]
      exact ⟨.calls hcurrent rfl, rfl⟩
    · cases hworker
  | finish =>
    obtain ⟨worker, hworker, rfl⟩ := Option.map_eq_some_iff.mp h
    simp only [Worker.step] at hworker
    split at hworker
    · cases hworker
    · rename_i number left hcurrent
      obtain ⟨outcome, houtcome, rfl⟩ := Option.map_eq_some_iff.mp hworker
      simp only [handsOver?, deed?, hcurrent, Option.bind_some, houtcome]
      exact ⟨.finishes hcurrent houtcome rfl, rfl⟩

theorem length_journal_watch {last : HostTraffic σ} {moves : List HostMove} (watch : Watch)
    (h : traffic.run kernel.worker kernel.caller moves = some last) :
    (traffic.watch kernel moves watch).journal.length = watch.journal.length + moves.countP (·.isOfWorker) := by
  have hnote (deed : Option (Nat × JobDeed)) (identity : FsIdentity) (watch : Watch) :
      (watch.note deed identity).journal.length = watch.journal.length + deed.isSome.toNat := by
    cases deed with
    | none => rfl
    | some deed => exact List.length_append
  induction moves generalizing traffic watch with
  | nil => rfl
  | cons move rest ih =>
    obtain ⟨next, hstep, hrest⟩ := Option.bind_eq_some_iff.mp h
    rw [HostTraffic.watch, hstep]
    refine (ih _ hrest).trans ?_
    rw [hnote, (works_step hstep).2, List.countP_cons, Watch.handOver]
    cases move.isOfWorker with
    | false => rfl
    | true => exact Nat.add_right_comm _ _ _

end HostTraffic

/-! ## The worker and its journal -/

open Journal (IsOpen LawfulEntry Lawful callsOf identityLeft)

/-- How far a job has got: the rest of it keeps to what its request may do, and will end with what its request
may end with. -/
structure Underway (start : FsIdentity) (journal : Journal) (number : Nat) (request : Request)
    (left : Program Kernel (Except Failure Reply)) (identity : FsIdentity) : Prop where
  alone : ∀ other, IsOpen other journal → other = number
  entries : ∀ entry ∈ journal, entry.number = number → entry.request = some request ∧ entry.isFinish = false
  heeds : left.Heeds (request.Allows (identityLeft start journal)) (callsOf number journal) identity
  settles : left.Ensures (request.Settles (identityLeft start journal)) identity

namespace Underway

variable {start : FsIdentity} {journal : Journal} {number : Nat} {request : Request} {identity : FsIdentity}

/-- The beginning of a job is lawful if no bracket is open. -/
theorem lawful_begin (hclosed : ∀ other, ¬IsOpen other journal) (hdecrypt : request.isDecrypt = false) :
    LawfulEntry start journal ⟨number, some request, .begun, identityLeft start journal⟩ where
  onWorker := ⟨request, rfl, hdecrypt⟩
  exclusive other hopen := absurd hopen (hclosed other)
  unescalated := fun _ _ _ _ ↦ rfl
  own _ _ := ⟨FsIdentity.isMixOf_self _ _, fun _ _ ↦ rfl, fun _ hdeed ↦ absurd hdeed nofun⟩
  outside := fun _ _ _ _ ↦ rfl
  image _ _ _ hdeed := absurd hdeed nofun
  restored _ _ _ hdeed := absurd hdeed nofun

/-- A job that begins has everything before it. -/
theorem begin (hclosed : ∀ other, ¬IsOpen other journal) (hfresh : ∀ entry ∈ journal, entry.number ≠ number)
    (request : Request) :
    Underway start (journal ++ [⟨number, some request, .begun, identityLeft start journal⟩]) number request
      request.operation.run (identityLeft start journal) where
  alone other hopen := by
    rcases hopen.of_concat with hbefore | ⟨hlast, -⟩
    · exact absurd hbefore (hclosed other)
    · exact hlast.symm
  entries := List.forall_mem_append.mpr
    ⟨fun entry hentry hsame ↦ absurd hsame (hfresh entry hentry),
      List.forall_mem_singleton.mpr fun _ ↦ ⟨rfl, rfl⟩⟩
  heeds := by
    rw [Journal.callsOf_concat, Journal.callsOf_of_forall_ne hfresh, Journal.identityLeft_concat, if_pos rfl]
    exact request.operation_heeds _
  settles := by
    rw [Journal.identityLeft_concat]
    exact request.operation_settles _

/-- The bracket of the job is open if the job has asked for an id. -/
theorem isOpen_iff {args : LoopArgs} {left : Program Kernel (Except Failure Reply)}
    (h : Underway start journal number (.loopDevice args) left identity) :
    IsOpen number journal ↔ (callsOf number journal).any KernelCall.asksId = true :=
  Journal.isOpen_iff h.entries

/-- The next call of a job is lawful. -/
theorem lawful_call {question : KernelCall}
    {following : question.Answer → Program Kernel (Except Failure Reply)}
    (h : Underway start journal number request (.call question following) identity)
    (hdecrypt : request.isDecrypt = false) :
    LawfulEntry start journal ⟨number, some request, .called question, identity⟩ where
  onWorker := ⟨request, rfl, hdecrypt⟩
  exclusive := h.alone
  unescalated := by
    rintro _ ⟨⟩ hattaches hasks
    exact (Request.allows_iff_of_plain hattaches hasks).mp h.heeds.1
  own := by
    rintro args ⟨⟩
    obtain ⟨hmix, hfirst⟩ := h.heeds.1
    exact ⟨hmix, fun hcalls _ ↦ hfirst hcalls, fun _ hdeed ↦ absurd hdeed nofun⟩
  outside := by
    rintro args ⟨⟩ - hclosed
    rw [h.isOpen_iff, Bool.not_eq_true] at hclosed
    exact h.heeds.1.1 hclosed
  image := by
    rintro args call ⟨⟩ ⟨⟩ himage other hopen
    rw [h.alone other hopen, h.isOpen_iff, h.heeds.1.2 himage] at hopen
    cases hopen
  restored _ _ _ hdeed := absurd hdeed nofun

theorem call {question : KernelCall} {following : question.Answer → Program Kernel (Except Failure Reply)}
    (h : Underway start journal number request (.call question following) identity)
    {answer : question.Answer} {after : FsIdentity} (hpermits : question.Permits identity answer after) :
    Underway start (journal ++ [⟨number, some request, .called question, identity⟩]) number request
      (following answer) after where
  alone other hopen := by
    rcases hopen.of_concat with hbefore | ⟨hlast, -⟩
    · exact h.alone other hbefore
    · exact hlast.symm
  entries := List.forall_mem_append.mpr ⟨h.entries, List.forall_mem_singleton.mpr fun _ ↦ ⟨rfl, rfl⟩⟩
  heeds := by
    rw [Journal.callsOf_concat, Journal.identityLeft_concat, if_pos rfl]
    exact h.heeds.2 answer after hpermits
  settles := by
    rw [Journal.identityLeft_concat]
    exact h.settles answer after hpermits

/-- A job that makes no further call returns, and its request may end so. -/
theorem returns {left : Program Kernel (Except Failure Reply)} {outcome : Outcome (Except Failure Reply)}
    (h : Underway start journal number request left identity) (houtcome : Worker.outcome? left = some outcome) :
    ∃ reply, outcome = .returned reply ∧ request.Settles (identityLeft start journal) reply identity := by
  cases left with
  | done reply =>
    cases houtcome
    exact ⟨reply, rfl, h.settles⟩
  | panics panic => exact h.settles.elim
  | call question following => cases houtcome

/-- The end of a job is lawful. -/
theorem lawful_finish {left : Program Kernel (Except Failure Reply)} {reply : Except Failure Reply}
    (h : Underway start journal number request left identity) (hdecrypt : request.isDecrypt = false)
    (hsettles : request.Settles (identityLeft start journal) reply identity) :
    LawfulEntry start journal ⟨number, some request, .finished reply, identity⟩ where
  onWorker := ⟨request, rfl, hdecrypt⟩
  exclusive := h.alone
  unescalated := by
    rintro _ ⟨⟩ hattaches hasks
    exact (Request.settles_iff_of_plain hattaches hasks).mp hsettles
  own := by
    rintro args ⟨⟩
    obtain ⟨hmix, hresult⟩ := hsettles
    refine ⟨hmix, fun _ hfinish ↦ absurd hfinish nofun, ?_⟩
    rintro given ⟨⟩
    by_contra hother
    rw [if_neg hother] at hresult
    cases hresult
  outside _ _ hfinish := absurd hfinish nofun
  image _ _ _ hdeed := absurd hdeed nofun
  restored := by
    rintro args given ⟨⟩ ⟨⟩ hkept
    exact hsettles.resolve_right fun ⟨message, hlost⟩ ↦ hkept message hlost

end Underway

/-- What is known of a worker whose jobs and deeds are noted. -/
structure Coherent (kernel : IdentityKernel σ) (start : FsIdentity)
    (worker : Worker Kernel σ (Except Failure Reply)) (watch : Watch) : Prop where
  submitted_eq : worker.submitted = watch.jobs.map fun request ↦ request.operation.run
  onWorker : ∀ request ∈ watch.jobs, request.isDecrypt = false
  queue_eq : worker.queue = (Worker.numbered worker.submitted).drop worker.begun.length
  begun_le : worker.begun.length ≤ worker.submitted.length
  numbers : ∀ entry ∈ watch.journal, entry.number < worker.begun.length
  lawful : Lawful start watch.journal
  idle : worker.current = none → kernel.identity worker.state = identityLeft start watch.journal ∧
    ∀ number, ¬IsOpen number watch.journal
  busy : ∀ job, worker.current = some job → job.number + 1 = worker.begun.length ∧
    ∃ request, watch.jobs[job.number]? = some request ∧
      Underway start watch.journal job.number request job.work (kernel.identity worker.state)

namespace Coherent

variable {kernel : IdentityKernel σ} {start : FsIdentity} {worker next : Worker Kernel σ (Except Failure Reply)}
  {watch : Watch}

theorem of_sameWork (h : Coherent kernel start worker watch) (hsame : SameWork kernel worker next) :
    Coherent kernel start next watch where
  submitted_eq := hsame.submitted.trans h.submitted_eq
  onWorker := h.onWorker
  queue_eq := by rw [hsame.queue, hsame.submitted, hsame.begun, h.queue_eq]
  begun_le := by rw [hsame.begun, hsame.submitted]; exact h.begun_le
  numbers := by rw [hsame.begun]; exact h.numbers
  lawful := h.lawful
  idle := by rw [hsame.current, hsame.identity]; exact h.idle
  busy := by rw [hsame.current, hsame.begun, hsame.identity]; exact h.busy

/-- A job that is handed over waits for its turn. -/
theorem takes (h : Coherent kernel start worker watch) {request : Request}
    (hdecrypt : request.isDecrypt = false) :
    Coherent kernel start { worker with
        submitted := worker.submitted ++ [request.operation.run]
        queue := worker.queue ++ [⟨worker.submitted.length, request.operation.run⟩] }
      (watch.handOver (some request)) where
  submitted_eq := by simp [Watch.handOver, h.submitted_eq]
  onWorker := List.forall_mem_append.mpr ⟨h.onWorker, List.forall_mem_singleton.mpr hdecrypt⟩
  queue_eq := by
    rw [Worker.numbered_concat, List.drop_append_of_le_length, h.queue_eq]
    rw [Worker.length_numbered]
    exact h.begun_le
  begun_le := Nat.le_trans h.begun_le (by simp)
  numbers := h.numbers
  lawful := h.lawful
  idle := h.idle
  busy job hcurrent := by
    obtain ⟨hnumber, known, hknown, hunderway⟩ := h.busy job hcurrent
    refine ⟨hnumber, known, ?_, hunderway⟩
    exact List.getElem?_append_left (List.getElem?_eq_some_iff.mp hknown).1 ▸ hknown

/-- A job begins under the identity that was left, with all that its request may do before it. -/
theorem begins (h : Coherent kernel start worker watch) {first : Submission Kernel (Except Failure Reply)}
    {rest : List (Submission Kernel (Except Failure Reply))} (hcurrent : worker.current = none)
    (hqueue : worker.queue = first :: rest) :
    Coherent kernel start { worker with
        queue := rest
        current := some first
        begun := worker.begun ++ [first.number] }
      (watch.note (some (first.number, .begun)) (kernel.identity worker.state)) := by
  obtain ⟨hidentity, hclosed⟩ := h.idle hcurrent
  obtain ⟨hwork, hnumber, hrest⟩ := Worker.eq_of_drop_numbered (h.queue_eq.symm.trans hqueue)
  rw [h.submitted_eq, List.getElem?_map, Option.map_eq_some_iff] at hwork
  obtain ⟨request, hrequest, hwork⟩ := hwork
  have hlt : worker.begun.length < worker.submitted.length := by
    rw [h.submitted_eq, List.length_map]
    exact (List.getElem?_eq_some_iff.mp hrequest).1
  rw [← hnumber] at hrequest
  have hfresh : ∀ entry ∈ watch.journal, entry.number ≠ first.number := by
    intro entry hentry
    rw [hnumber]
    exact Nat.ne_of_lt (h.numbers entry hentry)
  have hentry : LawfulEntry start watch.journal
      ⟨first.number, some request, .begun, identityLeft start watch.journal⟩ :=
    Underway.lawful_begin hclosed (h.onWorker request (List.mem_of_getElem? hrequest))
  have hlength : (worker.begun ++ [first.number]).length = worker.begun.length + 1 := List.length_append
  simp only [Watch.note, hrequest, hidentity]
  exact {
    submitted_eq := h.submitted_eq
    onWorker := h.onWorker
    queue_eq := by rw [hlength, hrest]
    begun_le := by
      rw [hlength]
      exact hlt
    numbers := by
      rw [hlength]
      exact List.forall_mem_append.mpr ⟨fun entry hentry ↦ Nat.lt_succ_of_lt (h.numbers entry hentry),
        List.forall_mem_singleton.mpr (hnumber ▸ Nat.lt_succ_self _)⟩
    lawful := h.lawful.concat hentry
    idle := nofun
    busy := by
      rintro _ ⟨⟩
      rw [hlength, hidentity, ← hwork, hnumber]
      rw [hnumber] at hrequest hfresh
      exact ⟨rfl, request, hrequest, Underway.begin hclosed hfresh request⟩ }

/-- An entry on the job in progress is one on a job that was begun. -/
theorem numbers_concat (h : Coherent kernel start worker watch) {entry : JournalEntry}
    (hnumber : entry.number + 1 = worker.begun.length) :
    ∀ other ∈ watch.journal ++ [entry], other.number < worker.begun.length :=
  List.forall_mem_append.mpr
    ⟨h.numbers, List.forall_mem_singleton.mpr (Nat.lt_of_succ_le (Nat.le_of_eq hnumber))⟩

/-- A call is one that the request of the job may make, and what is left of the job goes on from there. -/
theorem calls (h : Coherent kernel start worker watch) {number : Nat} {question : KernelCall}
    {following : question.Answer → Program Kernel (Except Failure Reply)}
    (hcurrent : worker.current = some ⟨number, .call question following⟩) :
    Coherent kernel start { worker with
        state := (kernel.worker.answer question worker.state).2
        current := some ⟨number, following (kernel.worker.answer question worker.state).1⟩ }
      (watch.note (some (number, .called question)) (kernel.identity worker.state)) := by
  obtain ⟨hnumber, request, hrequest, hunderway⟩ := h.busy _ hcurrent
  have hpermits := kernel.permits question worker.state
  have hentry : LawfulEntry start watch.journal
      ⟨number, some request, .called question, kernel.identity worker.state⟩ :=
    hunderway.lawful_call (h.onWorker request (List.mem_of_getElem? hrequest))
  simp only [Watch.note, hrequest]
  exact {
    submitted_eq := h.submitted_eq
    onWorker := h.onWorker
    queue_eq := h.queue_eq
    begun_le := h.begun_le
    numbers := h.numbers_concat hnumber
    lawful := h.lawful.concat hentry
    idle := nofun
    busy := by
      rintro _ ⟨⟩
      exact ⟨hnumber, request, hrequest, hunderway.call hpermits⟩ }

/-- A job is finished as its request may end, and then no bracket is open. -/
theorem finishes (h : Coherent kernel start worker watch) {number : Nat}
    {left : Program Kernel (Except Failure Reply)} {outcome : Outcome (Except Failure Reply)}
    (hcurrent : worker.current = some ⟨number, left⟩) (houtcome : Worker.outcome? left = some outcome) :
    Coherent kernel start { worker with
        current := none
        replies := worker.replies ++ [(number, Executor.submitted outcome)] }
      (watch.note (some (number, .finished (Executor.settle outcome))) (kernel.identity worker.state)) := by
  obtain ⟨hnumber, request, hrequest, hunderway⟩ := h.busy _ hcurrent
  obtain ⟨reply, rfl, hsettles⟩ := hunderway.returns houtcome
  have hentry : LawfulEntry start watch.journal
      ⟨number, some request, .finished reply, kernel.identity worker.state⟩ :=
    hunderway.lawful_finish (h.onWorker request (List.mem_of_getElem? hrequest)) hsettles
  simp only [Watch.note, hrequest]
  exact {
    submitted_eq := h.submitted_eq
    onWorker := h.onWorker
    queue_eq := h.queue_eq
    begun_le := h.begun_le
    numbers := h.numbers_concat hnumber
    lawful := h.lawful.concat hentry
    idle := by
      intro _
      rw [Journal.identityLeft_concat]
      refine ⟨rfl, fun other hopen ↦ ?_⟩
      -- Of the brackets before, only that of the job itself can be open, and the job is finished.
      have hunfinished := hopen.unfinished _ (List.mem_append_right _ (List.mem_singleton_self _))
      rcases hopen.of_concat with hbefore | ⟨-, hbracket⟩
      · exact absurd (hunfinished (hunderway.alone other hbefore).symm) nofun
      · simp [JournalEntry.isOfBracket, JournalEntry.call?] at hbracket
    busy := nofun }

/-- One move of a thread or of the worker. -/
theorem step {traffic next : HostTraffic σ} {move : HostMove} (h : Coherent kernel start traffic.worker watch)
    (hstep : traffic.step kernel.worker kernel.caller move = some next) :
    Coherent kernel start next.worker ((watch.handOver (traffic.handsOver? move)).note (traffic.deed? move)
      (kernel.identity traffic.worker.state)) := by
  have hunwatched : watch.handOver none = watch := by
    rw [Watch.handOver, Option.toList_none, List.append_nil]
  have hworks := (HostTraffic.works_step hstep).1
  generalize traffic.handsOver? move = request at hworks ⊢
  generalize traffic.deed? move = deed at hworks ⊢
  cases hworks with
  | takes hdecrypt hnext => exact hnext ▸ h.takes hdecrypt
  | rests hsame => exact hunwatched.symm ▸ h.of_sameWork hsame
  | begins hcurrent hqueue hnext => exact hnext ▸ hunwatched.symm ▸ h.begins hcurrent hqueue
  | calls hcurrent hnext => exact hnext ▸ hunwatched.symm ▸ h.calls hcurrent
  | finishes hcurrent houtcome hnext => exact hnext ▸ hunwatched.symm ▸ h.finishes hcurrent houtcome

/-- By induction on the moves. -/
theorem run {traffic last : HostTraffic σ} {moves : List HostMove}
    (h : Coherent kernel start traffic.worker watch)
    (hrun : traffic.run kernel.worker kernel.caller moves = some last) :
    Coherent kernel start last.worker (traffic.watch kernel moves watch) := by
  induction moves generalizing traffic watch with
  | nil =>
    cases hrun
    exact h
  | cons move rest ih =>
    obtain ⟨next, hstep, hrest⟩ := Option.bind_eq_some_iff.mp hrun
    rw [HostTraffic.watch, hstep]
    exact ih (h.step hstep) hrest

/-- A worker that has been handed nothing yet. -/
theorem idle_worker (kernel : IdentityKernel σ) (state : σ) :
    Coherent kernel (kernel.identity state) (.idle state) ⟨[], []⟩ where
  submitted_eq := rfl
  onWorker _ hrequest := absurd hrequest List.not_mem_nil
  queue_eq := rfl
  begun_le := Nat.le_refl _
  numbers _ hentry := absurd hentry List.not_mem_nil
  lawful := Journal.lawful_nil _
  idle _ := ⟨rfl, fun _ ⟨⟨_, hentry, _⟩, _⟩ ↦ absurd hentry List.not_mem_nil⟩
  busy _ hcurrent := absurd hcurrent nofun

end Coherent

/-! ## The laws -/

/-- What is known of the worker's journal, after requests were handled at the same time. -/
structure EscalationLaws (kernel : IdentityKernel σ) (start : FsIdentity) (moves : List HostMove)
    (worker : Worker Kernel σ (Except Failure Reply)) (watch : Watch) : Prop where
  /-- The jobs of the journal are those that the worker has been handed. -/
  handed : worker.submitted = watch.jobs.map fun request ↦ request.operation.run
  /-- The journal leaves out no move of the worker. -/
  noted : watch.journal.length = moves.countP (·.isOfWorker)
  /-- Every job was done as it has to be, from its beginning to its end. -/
  lawful : Lawful start watch.journal
  /-- At no time were two brackets open. -/
  disjoint : ∀ earlier, earlier <+: watch.journal → ∀ first second,
    IsOpen first earlier → IsOpen second earlier → first = second
  /-- Brackets, and all else but a request for an identity or the loss of one, have not changed the identity
  that a job finds. -/
  kept : ∀ earlier later, watch.journal = earlier ++ later → (∀ entry ∈ later, ¬Journal.IsTurn entry) →
    identityLeft start watch.journal = identityLeft start earlier
  /-- An identity that was granted is still the one that a job finds, whatever brackets came after it. -/
  granted : ∀ earlier later number args reply identity,
    watch.journal = earlier ++ ⟨number, some (.setFsId args), .finished (.ok reply), identity⟩ :: later →
      (∀ entry ∈ later, ¬Journal.IsTurn entry) → identityLeft start watch.journal = args.identity
  /-- Between two jobs the worker has the identity that was left. -/
  settled : worker.current = none → kernel.identity worker.state = identityLeft start watch.journal

/-- Escalation is never visible to another request: whatever is asked of a server at the same time, and in
whatever order the threads and the worker get on, the identity of a bracket is in force for its own job alone,
and it is gone with the bracket. -/
theorem HostTraffic.escalation_contained (kernel : IdentityKernel σ) (poisoned : Bool) (requests : List Request)
    (state : σ) (moves : List HostMove) {last : HostTraffic σ}
    (h : (HostTraffic.ofRequests poisoned requests state).run kernel.worker kernel.caller moves = some last) :
    EscalationLaws kernel (kernel.identity state) moves last.worker
      ((HostTraffic.ofRequests poisoned requests state).watch kernel moves ⟨[], []⟩) := by
  have hstart : Coherent kernel (kernel.identity state) (HostTraffic.ofRequests poisoned requests state).worker
      ⟨[], []⟩ := Coherent.idle_worker kernel state
  have hcoherent := hstart.run h
  have hnoted := length_journal_watch ⟨[], []⟩ h
  generalize (HostTraffic.ofRequests poisoned requests state).watch kernel moves ⟨[], []⟩ = watch
    at hcoherent hnoted ⊢
  have hkept (earlier later : Journal) (hsplit : watch.journal = earlier ++ later)
      (hlater : ∀ entry ∈ later, ¬Journal.IsTurn entry) :
      identityLeft (kernel.identity state) watch.journal = identityLeft (kernel.identity state) earlier := by
    have hlawful := hcoherent.lawful
    rw [hsplit] at hlawful ⊢
    exact hlawful.kept hlater
  exact {
    handed := hcoherent.submitted_eq
    noted := hnoted.trans (Nat.zero_add _)
    lawful := hcoherent.lawful
    disjoint := by
      rintro earlier ⟨later, hsplit⟩ first second hfirst hsecond
      have hlawful := hcoherent.lawful
      rw [← hsplit] at hlawful
      exact hlawful.of_append.disjoint hfirst hsecond
    kept := hkept
    granted := by
      intro earlier later number args reply identity hsplit hlater
      have hgranted := (hcoherent.lawful earlier _ later hsplit).own args rfl
      rw [hkept (earlier ++ [_]) later (by rw [hsplit, List.append_cons]) hlater, Journal.identityLeft_concat]
      exact hgranted.2.2 reply rfl
    settled := fun hidle ↦ (hcoherent.idle hidle).1 }

/-! ## An example of a journal -/

/-- A kernel that grants every identity, opens every image and refuses all else.  The disk group is 6. -/
def IdentityKernel.opening : IdentityKernel FsIdentity where
  worker := ⟨fun call identity ↦
    match call with
    | .diskGroup => ((6 : UInt32), identity)
    | .openImage .. => (.ok ⟨3⟩, identity)
    | call => granting.worker.answer call identity⟩
  caller := granting.caller
  identity := id
  permits call identity := by
    cases call with
    | diskGroup | openImage => rfl
    | _ => exact granting.permits _ identity
  keeps := granting.keeps

/-- Two images are attached, and between them an identity is asked for. -/
def escalatingRequests : List Request :=
  [.loopDevice ⟨"a.img", 2, 2, false, .whole⟩, .setFsId ⟨1000, 1000⟩,
    .loopDevice ⟨"b.img", 0, 2, false, .whole⟩, .mkdir ⟨"/run/root", 493⟩]

/-- The other three requests arrive while the first image is attached. -/
def escalatingMoves : List HostMove :=
  List.flatten [[.serve 0, .serve 0, .begin], List.replicate 6 .call,
    [.serve 1, .serve 1, .serve 2, .serve 2, .serve 3, .serve 3], List.replicate 6 .call, [.finish, .begin],
    List.replicate 4 .call, [.finish, .begin], List.replicate 12 .call, [.finish, .begin, .call]]

/-- The second bracket hands back the identity that was granted after the first one, and the last job makes its
call under it. -/
theorem HostTraffic.escalation_contained_opening :
    let traffic := HostTraffic.ofRequests false escalatingRequests ⟨500, 500⟩
    let watch := traffic.watch .opening escalatingMoves ⟨[], []⟩
    watch.jobs = escalatingRequests ∧
      (watch.journal.filter fun entry ↦ entry.number == 2).map JournalEntry.identity =
        List.replicate 4 ⟨1000, 1000⟩ ++ ⟨0, 1000⟩ :: List.replicate 5 ⟨0, 6⟩ ++
          ⟨1000, 6⟩ :: List.replicate 3 ⟨1000, 1000⟩ ∧
      watch.journal.getLast?.map (fun entry ↦ (entry.number, entry.identity)) = some (3, ⟨1000, 1000⟩) ∧
      ∃ last,
        traffic.run IdentityKernel.opening.worker IdentityKernel.opening.caller escalatingMoves = some last ∧
          EscalationLaws .opening ⟨500, 500⟩ escalatingMoves last.worker watch := by
  intro traffic watch
  have hrun :
      (traffic.run IdentityKernel.opening.worker IdentityKernel.opening.caller escalatingMoves).isSome := by
    decide +kernel
  obtain ⟨last, hlast⟩ := Option.isSome_iff_exists.mp hrun
  exact ⟨by decide +kernel, by decide +kernel, by decide +kernel, last, hlast,
    escalation_contained IdentityKernel.opening false escalatingRequests ⟨500, 500⟩ _ hlast⟩

end ContainerConstruction
