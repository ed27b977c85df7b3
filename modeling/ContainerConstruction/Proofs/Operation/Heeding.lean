import ContainerConstruction.Proofs.Program.Run
import ContainerConstruction.Proofs.Server.Identity

/-!
# The identity behind every call

`Program.Heeds` follows a program call by call, with the calls that it has made before and the identity that it
makes the next one under.  `Request.Allows` is what an operation keeps to that way: nothing but a request for an
identity works under another identity than the one it has found, apart from the bracket in which an image is
attached, and the image itself is opened before the bracket.
-/

namespace ContainerConstruction

open KernelCall (asksId opensImage)

variable {α β : Type}

namespace Program

/-- Every call of a program follows a rule on the calls before it and on the identity it is made under, whatever
a kernel answers. -/
def Heeds (rule : List KernelCall → KernelCall → FsIdentity → Prop) :
    Program Kernel α → List KernelCall → FsIdentity → Prop
  | .done _, _, _ => True
  | .panics _, _, _ => True
  | .call question next, made, identity => rule made question identity ∧
    ∀ answer after, question.Permits identity answer after → (next answer).Heeds rule (made ++ [question]) after

variable {rule : List KernelCall → KernelCall → FsIdentity → Prop} {identity : FsIdentity}

theorem any_append_asksId {made : List KernelCall} {call : KernelCall} (h : made.any asksId = false)
    (hcall : call.asksId = false) : (made ++ [call]).any asksId = false := by
  simp [h, hcall]

/-- A program that asks for no id goes on under the identity that it has found. -/
theorem Meets.heeds_bind {post : α → Prop} {program : Program Kernel α} {next : α → Program Kernel β}
    {made : List KernelCall} (h : program.Meets asksId post) (hmade : made.any asksId = false)
    (hrule : ∀ made call, made.any asksId = false → call.asksId = false → rule made call identity)
    (hnext : ∀ value made, made.any asksId = false → (next value).Heeds rule made identity) :
    (program.bind next).Heeds rule made identity := by
  induction program generalizing made with
  | done value => exact hnext value made hmade
  | panics panic => exact h.elim
  | call question following ih =>
    refine ⟨hrule made question hmade h.1, fun answer after hpermits ↦ ?_⟩
    rw [hpermits.eq_of_not_asksId h.1]
    exact ih answer (h.2 answer) (any_append_asksId hmade h.1)

/-- What asks for no id heeds every rule that allows all other calls. -/
theorem Meets.heeds {post : α → Prop} {program : Program Kernel α} {made : List KernelCall}
    (h : program.Meets asksId post) (hmade : made.any asksId = false)
    (hrule : ∀ made call, made.any asksId = false → call.asksId = false → rule made call identity) :
    program.Heeds rule made identity := by
  have hbind : (program.bind .done).Heeds rule made identity := h.heeds_bind hmade hrule fun _ _ _ ↦ trivial
  rwa [bind_done] at hbind

/-- A program that makes no further call. -/
theorem Meets.heeds_of_silent {post : α → Prop} {program : Program Kernel α}
    (h : program.Meets (fun _ ↦ true) post) (made : List KernelCall) (identity : FsIdentity) :
    program.Heeds rule made identity := by
  cases program with
  | done value => trivial
  | panics panic => trivial
  | call question next => exact absurd h.1 nofun

/-- A program that opens no image, once an id has been asked for. -/
theorem Meets.heeds_of_asked {post : α → Prop} {program : Program Kernel α} {made : List KernelCall}
    (h : program.Meets opensImage post) (hmade : made.any asksId = true)
    (hrule : ∀ made call identity, made.any asksId = true → call.opensImage = false → rule made call identity)
    (identity : FsIdentity) : program.Heeds rule made identity := by
  induction program generalizing made identity with
  | done value => trivial
  | panics panic => trivial
  | call question next ih =>
    refine ⟨hrule made question identity hmade h.1, fun answer after _ ↦ ih answer (h.2 answer) ?_ after⟩
    rw [List.any_append, hmade, Bool.true_or]

end Program

/-- Going on after an operation that asks for no id. -/
theorem Operation.Confined.heeds_bind {rule : List KernelCall → KernelCall → FsIdentity → Prop}
    {identity : FsIdentity} {defect : Option Failure} {operation : Operation α} {next : α → Operation β}
    {made : List KernelCall} (h : operation.Confined asksId defect) (hmade : made.any asksId = false)
    (hrule : ∀ made call, made.any asksId = false → call.asksId = false → rule made call identity)
    (hnext : ∀ value made, made.any asksId = false → (next value).run.Heeds rule made identity) :
    (operation >>= next).run.Heeds rule made identity := by
  apply Program.Meets.heeds_bind h hmade hrule
  intro result made hmade
  cases result with
  | ok value => exact hnext value made hmade
  | error failure => trivial

namespace Request

/-- What a request may do that has found the identity `left` and has made some calls. -/
def Allows (request : Request) (left : FsIdentity) (made : List KernelCall) (call : KernelCall)
    (identity : FsIdentity) : Prop :=
  match request with
  | .loopDevice _ =>
    (made.any asksId = false → identity = left) ∧ (call.opensImage = true → made.any asksId = false)
  | .setFsId args => identity.IsMixOf left args.identity ∧ (made = [] → identity = left)
  | _ => identity = left

/-- What a request that has found the identity `left` may end with. -/
def Settles (request : Request) (left : FsIdentity) (result : Except Failure Reply) (now : FsIdentity) : Prop :=
  match request with
  | .loopDevice _ => left.KeepsOrReports result now
  | .setFsId args => now.IsMixOf left args.identity ∧
    if now = args.identity then result = .ok .unit
    else result = .error (FsIdentity.refusal args.identity now)
  | _ => now = left

/-- A request that neither attaches an image nor asks for an identity is plain. -/
theorem allows_iff_of_plain {request : Request} {left identity : FsIdentity} {made : List KernelCall}
    {call : KernelCall} (hattaches : request.attachesImage = false) (hasks : request.asksIdentity = false) :
    request.Allows left made call identity ↔ identity = left := by
  cases request with
  | loopDevice args => cases hattaches
  | setFsId args => cases hasks
  | _ => rfl

theorem settles_iff_of_plain {request : Request} {left now : FsIdentity} {result : Except Failure Reply}
    (hattaches : request.attachesImage = false) (hasks : request.asksIdentity = false) :
    request.Settles left result now ↔ now = left := by
  cases request with
  | loopDevice args => cases hattaches
  | setFsId args => cases hasks
  | _ => rfl

/-- Every operation leaves the identity that its result tells of. -/
theorem operation_settles (request : Request) (left : FsIdentity) :
    request.operation.Ensures (request.Settles left) left := by
  cases request with
  | loopDevice args => exact replying_ensures _ (args.perform_ensures left)
  | setFsId args => exact args.operation_ensures left
  | _ => exact operation_keeps rfl rfl left

/-- An image is opened as the caller and attached as the superuser. -/
theorem loopDevice_heeds (args : LoopArgs) (left : FsIdentity) :
    (loopDevice args).operation.run.Heeds ((loopDevice args).Allows left) [] left := by
  have hbefore (made : List KernelCall) (call : KernelCall) (hmade : made.any asksId = false)
      (_ : call.asksId = false) : (loopDevice args).Allows left made call left :=
    ⟨fun _ ↦ rfl, fun _ ↦ hmade⟩
  have hafter (made : List KernelCall) (call : KernelCall) (identity : FsIdentity)
      (hmade : made.any asksId = true) (hcall : call.opensImage = false) :
      (loopDevice args).Allows left made call identity :=
    ⟨fun h ↦ absurd (hmade.symm.trans h) nofun, fun h ↦ absurd (h.symm.trans hcall) nofun⟩
  simp only [operation, replying, LoopArgs.perform, bind_assoc]
  apply (Operation.confined_ofResult (blames_errorOf? _)).heeds_bind rfl hbefore
  intro source made hmade
  have hopen : (source.openImage args.mode).Confined asksId none := source.openImage_confined args.mode
  apply hopen.heeds_bind hmade hbefore
  intro image made hmade
  have hgroup : (Operation.ask .diskGroup).Confined asksId none := Operation.confined_ask rfl
  apply hgroup.heeds_bind hmade hbefore
  intro gid made hmade
  -- The bracket begins by asking for the superuser, still under the identity that was found.
  have hattach : (LoopDevice.attach args image source.name).Confined opensImage none :=
    (LoopDevice.attach_confined args image source.name).allow fun _ ↦ KernelCall.opensImage_of_isGuarded
  have hbracket : Operation.Confined opensImage none
      (FsIdentity.within ⟨0, gid⟩ (LoopDevice.attach args image source.name) >>= fun index ↦
        pure (Reply.loop ⟨UInt32.ofNat index⟩)) :=
    (FsIdentity.within_confined ⟨0, gid⟩ hattach).bind fun _ ↦ Operation.confined_pure _
  refine ⟨⟨fun _ ↦ rfl, fun _ ↦ hmade⟩, fun answer after _ ↦ ?_⟩
  apply (hbracket.2 answer).heeds_of_asked _ hafter
  rw [List.any_append, Bool.or_comm]
  rfl

/-- An identity is asked for and read back, and nothing else is done. -/
theorem setFsId_heeds (args : SetFsIdArgs) (left : FsIdentity) :
    (setFsId args).operation.run.Heeds ((setFsId args).Allows left) [] left := by
  have hstart := FsIdentity.isMixOf_self left args.identity
  refine ⟨⟨hstart, fun _ ↦ rfl⟩, fun uid named huid ↦ ?_⟩
  have hnamed := hstart.setUid huid (.inl rfl)
  refine ⟨⟨hnamed, nofun⟩, fun gid asked hgid ↦ ?_⟩
  have hasked := hnamed.setGid hgid (.inl rfl)
  -- The other two calls ask for the id that is never granted, to read what has come of it.
  refine ⟨⟨hasked, nofun⟩, fun uid read huid ↦ ?_⟩
  have hread := hasked.setUid huid (.inr rfl)
  refine ⟨⟨hread, nofun⟩, fun gid last _ ↦ ?_⟩
  have hresult : Operation.Confined (fun _ ↦ true) none
      (replying (fun _ ↦ Reply.unit) (if (⟨uid, gid⟩ : FsIdentity) = args.identity then pure () else
        throw (FsIdentity.refusal args.identity ⟨uid, gid⟩))) :=
    replying_confined _ (Operation.confined_ite (Operation.confined_pure ()) (Operation.confined_throw nofun))
  exact Program.Meets.heeds_of_silent hresult _ last

/-- Every request keeps to what it may do, from its beginning. -/
theorem operation_heeds (request : Request) (left : FsIdentity) :
    request.operation.run.Heeds (request.Allows left) [] left := by
  have hplain {operation : Operation Reply} (h : operation.Confined KernelCall.isGuarded request.defect?)
      (hallows : ∀ made call, request.Allows left made call left) :
      operation.run.Heeds (request.Allows left) [] left := by
    apply Program.Meets.heeds (h.allow fun _ ↦ KernelCall.asksId_of_isGuarded) rfl
    exact fun made call _ _ ↦ hallows made call
  cases request with
  | loopDevice args => exact loopDevice_heeds args left
  | setFsId args => exact setFsId_heeds args left
  | _ => exact hplain (operation_confined rfl rfl) fun _ _ ↦ rfl

end Request

end ContainerConstruction
