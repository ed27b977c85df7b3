import ContainerConstruction.Proofs.Operation.Confinement
import ContainerConstruction.Response

/-!
# What operations do to the identity

`KernelCall.Permits` is all that is known of a kernel: asking for an id gives the one before, and the id is
either taken on or left silently; no other call changes the identity.  `Operation.Ensures` says what an
operation comes to, whatever a kernel answers within these bounds.

An operation keeps the identity, unless it is the one that is asked to change it for good.  The bracket of
`FsIdentity.within` keeps it too, or else reports that it is lost.
-/

namespace ContainerConstruction

variable {α β : Type}

/-! ## Kernels -/

/-- What the kernel may answer to a thread with the identity `before`, and the identity `after` that. -/
def KernelCall.Permits (before : FsIdentity) :
    (call : KernelCall) → call.Answer → FsIdentity → Prop
  | .setFsUid id, answer, after =>
    answer = before.uid ∧ (after = before ∨ id ≠ FsIdentity.noId ∧ after = { before with uid := id })
  | .setFsGid id, answer, after =>
    answer = before.gid ∧ (after = before ∨ id ≠ FsIdentity.noId ∧ after = { before with gid := id })
  | _, _, after => after = before

/-- Only a call that asks for an id can change the identity. -/
theorem KernelCall.Permits.eq_of_not_asksId {before after : FsIdentity} {call : KernelCall}
    {answer : call.Answer} (h : call.Permits before answer after) (hasks : call.asksId = false) :
    after = before := by
  cases call with
  | setFsUid id => cases hasks
  | setFsGid id => cases hasks
  | _ => exact h

/-- A kernel, as the worker and the other threads meet it.  Which ids it grants may depend on anything.  The
identity is the worker's: the calls of another thread do not concern it. -/
structure IdentityKernel (σ : Type) where
  worker : Machine Kernel σ
  caller : Machine Kernel σ
  identity : σ → FsIdentity
  permits : ∀ (call : KernelCall) (state : σ), call.Permits (identity state) (worker.answer call state).1
    (identity (worker.answer call state).2)
  keeps : ∀ (call : KernelCall) (state : σ), identity (caller.answer call state).2 = identity state

/-! ## Programs -/

namespace Program

/-- A program that is run with some identity returns, whatever the kernel answers, and `post` holds of its
value and of the identity afterwards. -/
def Ensures (post : α → FsIdentity → Prop) : Program Kernel α → FsIdentity → Prop
  | .done value, identity => post value identity
  | .panics _, _ => False
  | .call question next, identity =>
    ∀ answer after, question.Permits identity answer after → (next answer).Ensures post after

theorem Ensures.mono {post weaker : α → FsIdentity → Prop} {program : Program Kernel α}
    {before : FsIdentity} (h : program.Ensures post before)
    (hweaker : ∀ value after, post value after → weaker value after) :
    program.Ensures weaker before := by
  induction program generalizing before with
  | done value => exact hweaker value before h
  | panics panic => exact h
  | call question next ih =>
    intro answer after hpermits
    exact ih answer (h answer after hpermits)

theorem ensures_bind {post : β → FsIdentity → Prop} (program : Program Kernel α)
    (next : α → Program Kernel β) (before : FsIdentity) :
    (program.bind next).Ensures post before ↔
      program.Ensures (fun value after ↦ (next value).Ensures post after) before := by
  induction program generalizing before with
  | done value => rfl
  | panics panic => rfl
  | call question after ih =>
    apply forall_congr'
    intro answer
    apply forall_congr'
    intro now
    exact imp_congr_right fun _ ↦ ih answer now

theorem Ensures.attempt {post : α → FsIdentity → Prop} {program : Program Kernel α} {before : FsIdentity}
    (h : program.Ensures post before) :
    program.attempt.Ensures (fun outcome after ↦ ∃ value, outcome = .returned value ∧ post value after)
      before := by
  induction program generalizing before with
  | done value => exact ⟨value, rfl, h⟩
  | panics panic => exact h.elim
  | call question next ih =>
    intro answer after hpermits
    exact ih answer (h answer after hpermits)

/-- A program that asks for no id keeps the identity. -/
theorem Meets.ensures {post : α → Prop} {program : Program Kernel α}
    (h : program.Meets KernelCall.asksId post) (before : FsIdentity) :
    program.Ensures (fun value after ↦ after = before ∧ post value) before := by
  induction program with
  | done value => exact ⟨rfl, h⟩
  | panics panic => exact h
  | call question next ih =>
    intro answer after hpermits
    rw [hpermits.eq_of_not_asksId h.1]
    exact ih answer (h.2 answer)

/-- A program that the worker runs comes to what is ensured of it. -/
theorem Ensures.run {σ : Type} (kernel : IdentityKernel σ) {post : α → FsIdentity → Prop}
    {program : Program Kernel α} {state : σ} (h : program.Ensures post (kernel.identity state)) :
    ∃ value after, program.run kernel.worker state = (.returned value, after) ∧
      post value (kernel.identity after) := by
  induction program generalizing state with
  | done value => exact ⟨value, state, rfl, h⟩
  | panics panic => exact h.elim
  | call question next ih =>
    have hpermits := kernel.permits question state
    exact ih _ (h _ _ hpermits)

/-- A program that another thread runs leaves the worker its identity. -/
theorem identity_run_caller {σ : Type} (kernel : IdentityKernel σ) (program : Program Kernel α)
    (state : σ) : kernel.identity (program.run kernel.caller state).2 = kernel.identity state := by
  induction program generalizing state with
  | done value => rfl
  | panics panic => rfl
  | call question next ih =>
    calc
      _ = kernel.identity (kernel.caller.answer question state).2 := ih _ _
      _ = kernel.identity state := kernel.keeps question state

end Program

/-! ## Operations -/

namespace Operation

variable {before : FsIdentity}

/-- What `Program.Ensures` says of an operation, whose value may be a failure. -/
def Ensures (post : Except Failure α → FsIdentity → Prop) (operation : Operation α)
    (before : FsIdentity) : Prop :=
  Program.Ensures post operation.run before

theorem ensures_pure {post : Except Failure α → FsIdentity → Prop} {value : α}
    (h : post (.ok value) before) : Ensures post (pure value) before := h

theorem ensures_throw {post : Except Failure α → FsIdentity → Prop} {failure : Failure}
    (h : post (.error failure) before) : Ensures post (throw failure) before := h

theorem Ensures.mono {post weaker : Except Failure α → FsIdentity → Prop} {operation : Operation α}
    (h : operation.Ensures post before)
    (hweaker : ∀ result after, post result after → weaker result after) :
    operation.Ensures weaker before :=
  Program.Ensures.mono h hweaker

/-- A failure passes through what follows, and a value goes on. -/
theorem Ensures.bind {first : Except Failure α → FsIdentity → Prop}
    {post : Except Failure β → FsIdentity → Prop} {operation : Operation α} {next : α → Operation β}
    (h : operation.Ensures first before)
    (hnext : ∀ value now, first (.ok value) now → (next value).Ensures post now)
    (herror : ∀ failure now, first (.error failure) now → post (.error failure) now) :
    Ensures post (operation >>= next) before := by
  apply (Program.ensures_bind operation.run _ before).mpr
  apply h.mono
  intro result now hfirst
  cases result with
  | ok value => exact hnext value now hfirst
  | error failure => exact herror failure now hfirst

/-- Going on after a program that has no failures of its own. -/
theorem ensures_lift_bind {first : α → FsIdentity → Prop}
    {post : Except Failure β → FsIdentity → Prop} {program : Program Kernel α}
    {next : α → Operation β} (h : program.Ensures first before)
    (hnext : ∀ value now, first value now → (next value).Ensures post now) :
    Ensures post (ExceptT.lift program >>= next) before := by
  have hlift : Ensures (fun result now ↦ ∃ value, result = .ok value ∧ first value now)
      (ExceptT.lift program) before := by
    apply (Program.ensures_bind program _ before).mpr
    exact h.mono fun value now hfirst ↦ ⟨value, rfl, hfirst⟩
  apply hlift.bind
  · rintro value now ⟨_, hvalue, hfirst⟩
    cases hvalue
    exact hnext value now hfirst
  · rintro failure now ⟨_, hvalue, -⟩
    cases hvalue

/-- Going on after a call. -/
theorem ensures_ask_bind {call : KernelCall} {post : Except Failure α → FsIdentity → Prop}
    {next : call.Answer → Operation α}
    (h : ∀ answer now, call.Permits before answer now → (next answer).Ensures post now) :
    Ensures post (ask call >>= next) before := h

/-- Whatever the kernel answers, the operation returns and the identity is the one before. -/
def KeepsIdentity (operation : Operation α) : Prop :=
  ∀ before, operation.Ensures (fun _ after ↦ after = before) before

/-- An operation that asks for no id keeps the identity. -/
theorem Confined.keeps {defect : Option Failure} {operation : Operation α}
    (h : operation.Confined KernelCall.asksId defect) : operation.KeepsIdentity :=
  fun before ↦ (Program.Meets.ensures h before).mono fun _ _ hkept ↦ hkept.1

theorem keeps_ofResult (result : Except Failure α) : KeepsIdentity (ofResult result) :=
  (confined_ofResult (blames_errorOf? result)).keeps

end Operation

open Operation (Ensures KeepsIdentity ensures_pure ensures_throw ensures_ask_bind keeps_ofResult)

namespace FsIdentity

variable {before : FsIdentity}

/-! ## Operations on the identity -/

/-- An identity each of whose ids is the one before or the one that was asked for. -/
structure IsMixOf (now before target : FsIdentity) : Prop where
  uid : now.uid = before.uid ∨ now.uid = target.uid
  gid : now.gid = before.gid ∨ now.gid = target.gid

theorem isMixOf_self (before target : FsIdentity) : before.IsMixOf before target := ⟨.inl rfl, .inl rfl⟩

theorem IsMixOf.setUid {now target after : FsIdentity} {id answer : UInt32} (h : now.IsMixOf before target)
    (hpermits : (KernelCall.setFsUid id).Permits now answer after) (hid : id = target.uid ∨ id = noId) :
    after.IsMixOf before target := by
  obtain ⟨-, rfl | ⟨hgranted, rfl⟩⟩ := hpermits
  · exact h
  · exact ⟨.inr (hid.resolve_right hgranted), h.gid⟩

theorem IsMixOf.setGid {now target after : FsIdentity} {id answer : UInt32} (h : now.IsMixOf before target)
    (hpermits : (KernelCall.setFsGid id).Permits now answer after) (hid : id = target.gid ∨ id = noId) :
    after.IsMixOf before target := by
  obtain ⟨-, rfl | ⟨hgranted, rfl⟩⟩ := hpermits
  · exact h
  · exact ⟨h.uid, .inr (hid.resolve_right hgranted)⟩

/-- Two calls for ids, one after the other, leave a mix of both identities. -/
theorem isMixOf_of_permits {target between now : FsIdentity} {uid gid : UInt32}
    (huid : (KernelCall.setFsUid target.uid).Permits before uid between)
    (hgid : (KernelCall.setFsGid target.gid).Permits between gid now) :
    now.IsMixOf before target ∧ (⟨uid, gid⟩ : FsIdentity) = before := by
  have hnow := ((isMixOf_self before target).setUid huid (.inl rfl)).setGid hgid (.inl rfl)
  obtain ⟨rfl, rfl | ⟨-, rfl⟩⟩ := huid
  · exact ⟨hnow, by rw [hgid.1]⟩
  · exact ⟨hnow, by rw [hgid.1]⟩

/-- Asking for the id that is never granted reads the identity and changes nothing. -/
theorem current_ensures (before : FsIdentity) :
    current.Ensures (fun result after ↦ result = .ok before ∧ after = before) before := by
  apply ensures_ask_bind
  intro uid between huid
  apply ensures_ask_bind
  intro gid now hgid
  obtain ⟨rfl, rfl | ⟨hrefused, -⟩⟩ := huid
  · obtain ⟨rfl, rfl | ⟨hrefused, -⟩⟩ := hgid
    · exact ensures_pure ⟨rfl, rfl⟩
    · exact absurd rfl hrefused
  · exact absurd rfl hrefused

/-- Asking for both ids of an identity and reading back what came of it. -/
theorem ensures_ask_both {target : FsIdentity} {post : Except Failure α → FsIdentity → Prop}
    {next : UInt32 → UInt32 → FsIdentity → Operation α}
    (h : ∀ now : FsIdentity, now.IsMixOf before target →
      (next before.uid before.gid now).Ensures post now) :
    Ensures post (do
      let uid ← Operation.ask (.setFsUid target.uid)
      let gid ← Operation.ask (.setFsGid target.gid)
      let now ← current
      next uid gid now) before := by
  apply ensures_ask_bind
  intro uid between huid
  apply ensures_ask_bind
  intro gid now hgid
  obtain ⟨hmix, rfl⟩ := isMixOf_of_permits huid hgid
  apply (current_ensures now).bind
  · rintro read after ⟨hread, rfl⟩
    cases hread
    exact h _ hmix
  · rintro failure after ⟨hread, -⟩
    cases hread

/-- The failure of an identity that was not granted. -/
def refusal (requested now : FsIdentity) : Failure :=
  .privilege s!"requested {requested.shown}, thread has {now.shown}"

/-- The text of an identity tells it from every other one. -/
theorem shown_injective {first second : FsIdentity} (h : first.shown = second.shown) :
    first = second := by
  have htoDigits {m n : Nat} (heq : Nat.toDigits 10 m = Nat.toDigits 10 n) : m = n := by
    rw [← Nat.ofDigitChars_ten_toDigits (n := m), heq, Nat.ofDigitChars_ten_toDigits]
  have hdigits (n : Nat) : ∀ c ∈ Nat.toDigits 10 n, c.isDigit :=
    fun c hc ↦ Nat.isDigit_of_mem_toDigits (by decide) (by decide) hc
  have hlist := congrArg String.toList h
  simp only [shown, toString, String.toList_append, Nat.toList_repr, List.append_assoc,
    List.append_cancel_left_eq] at hlist
  -- The digits of the user end at the blank before the group.
  have huid := congrArg (List.takeWhile Char.isDigit) hlist
  rw [List.takeWhile_append_of_pos (hdigits _), List.takeWhile_append_of_pos (hdigits _)] at huid
  replace huid : Nat.toDigits 10 first.uid.toNat = Nat.toDigits 10 second.uid.toNat := by
    simpa using huid
  rw [huid] at hlist
  have hgid : Nat.toDigits 10 first.gid.toNat = Nat.toDigits 10 second.gid.toNat := by
    simpa using hlist
  cases first
  cases second
  rw [mk.injEq]
  exact ⟨UInt32.toNat_inj.mp (htoDigits huid), UInt32.toNat_inj.mp (htoDigits hgid)⟩

/-- The response to an identity that was not granted tells which one is in force. -/
theorem refusal_injective {requested first second : FsIdentity}
    (h : Response.ofFailure (refusal requested first) = Response.ofFailure (refusal requested second)) :
    first = second := by
  simp only [Response.ofFailure, RemoteError.ofFailure, Response.error.injEq, RemoteError.mk.injEq] at h
  have hmessage : "privilege error: " ++ s!"requested {requested.shown}, thread has {first.shown}" =
      "privilege error: " ++ s!"requested {requested.shown}, thread has {second.shown}" := h.2
  rw [String.append_right_inj] at hmessage
  exact shown_injective ((String.append_right_inj _).mp hmessage)

/-- The identity is the requested one, or else the failure names the identity that is in force. -/
theorem apply_ensures (requested before : FsIdentity) :
    (apply requested).Ensures (fun result now ↦ now.IsMixOf before requested ∧
      if now = requested then result = .ok () else result = .error (refusal requested now)) before := by
  apply ensures_ask_both
  intro now hmix
  by_cases hnow : now = requested
  · rw [if_pos hnow]
    exact ensures_pure ⟨hmix, by rw [if_pos hnow]⟩
  · rw [if_neg hnow]
    exact ensures_throw ⟨hmix, by rw [if_neg hnow]; rfl⟩

/-- The identity is the given one, or else its loss is reported. -/
def KeepsOrReports (identity : FsIdentity) (result : Except Failure α) (now : FsIdentity) : Prop :=
  now = identity ∨ ∃ message, result = .error (.identityRestore message)

/-- A success leaves the identity as it should be. -/
theorem KeepsOrReports.eq_of_ok {identity now : FsIdentity} {value : α}
    (h : identity.KeepsOrReports (.ok value) now) : now = identity := by
  obtain hnow | ⟨message, hmessage⟩ := h
  · exact hnow
  · cases hmessage

/-- A failure says the same whatever the operation would have given. -/
theorem KeepsOrReports.of_error {identity now : FsIdentity} {failure : Failure}
    (h : identity.KeepsOrReports (.error failure : Except Failure α) now) :
    identity.KeepsOrReports (.error failure : Except Failure β) now := by
  obtain hnow | ⟨message, hmessage⟩ := h
  · exact .inl hnow
  · cases hmessage
    exact .inr ⟨message, rfl⟩

/-- What follows may take for granted that nothing has been lost. -/
theorem keepsOrReports_bind {identity : FsIdentity} {operation : Operation α} {next : α → Operation β}
    (h : operation.Ensures (KeepsOrReports identity) before)
    (hnext : ∀ value, (next value).Ensures (KeepsOrReports identity) identity) :
    Operation.Ensures (KeepsOrReports identity) (operation >>= next) before := by
  apply h.bind
  · intro value now hkept
    rw [hkept.eq_of_ok]
    exact hnext value
  · intro failure now hkept
    exact hkept.of_error

theorem keepsOrReports_of_keeps {operation : Operation α} (h : operation.KeepsIdentity)
    (before : FsIdentity) : operation.Ensures (KeepsOrReports before) before :=
  (h before).mono fun _ _ hkept ↦ .inl hkept

/-- The identity is the previous one again, or else its loss is reported. -/
theorem restore_ensures (previous before : FsIdentity) :
    (restore previous).Ensures (KeepsOrReports previous) before := by
  apply ensures_ask_both
  intro now _
  by_cases hnow : now = previous
  · rw [if_pos hnow]
    exact ensures_pure (.inl hnow)
  · rw [if_neg hnow]
    exact ensures_throw (.inr ⟨_, rfl⟩)

/-- An identity that is granted comes with the one to restore.  If it is refused, the earlier one is in
force, or else its loss is reported. -/
theorem escalate_ensures (target before : FsIdentity) :
    (escalate target).Ensures (fun result now ↦
      match result with
      | .ok previous => previous = before
      | .error _ => before.KeepsOrReports result now) before := by
  apply ensures_ask_both
  intro now _
  by_cases hnow : now = target
  · rw [if_pos hnow]
    exact ensures_pure rfl
  · rw [if_neg hnow]
    apply (restore_ensures before now).bind
    · intro _ after hrestored
      exact ensures_throw (.inl hrestored.eq_of_ok)
    · intro failure after hrestored
      exact hrestored.of_error

/-- Work that returns under whatever identity leaves the earlier one in force, or its loss is reported. -/
theorem within_ensures (target before : FsIdentity) {work : Operation α}
    (hwork : ∀ now, work.Ensures (fun _ _ ↦ True) now) :
    (within target work).Ensures (KeepsOrReports before) before := by
  apply (escalate_ensures target before).bind
  · rintro previous now rfl
    apply Operation.ensures_lift_bind (hwork now).attempt
    rintro outcome after ⟨result, rfl, -⟩
    apply keepsOrReports_bind (restore_ensures previous after)
    intro _
    exact keepsOrReports_of_keeps (keeps_ofResult result) previous
  · intro failure now hrefused
    exact hrefused.of_error

end FsIdentity

/-- The image is opened under the caller's identity, and the device is attached within the bracket. -/
theorem LoopArgs.perform_ensures (args : LoopArgs) (before : FsIdentity) :
    args.perform.Ensures before.KeepsOrReports before := by
  apply FsIdentity.keepsOrReports_bind (FsIdentity.keepsOrReports_of_keeps (keeps_ofResult _) before)
  intro source
  have hopen : (source.openImage args.mode).Confined KernelCall.asksId none :=
    source.openImage_confined args.mode
  apply FsIdentity.keepsOrReports_bind (FsIdentity.keepsOrReports_of_keeps hopen.keeps before)
  intro image
  have hgroup : (Operation.ask .diskGroup).Confined KernelCall.asksId none := Operation.confined_ask rfl
  apply FsIdentity.keepsOrReports_bind (FsIdentity.keepsOrReports_of_keeps hgroup.keeps before)
  intro gid
  have hattach : (LoopDevice.attach args image source.name).Confined KernelCall.asksId none :=
    (LoopDevice.attach_confined args image source.name).allow fun _ ↦ KernelCall.asksId_of_isGuarded
  have hreturns (now : FsIdentity) :
      (LoopDevice.attach args image source.name).Ensures (fun _ _ ↦ True) now :=
    (hattach.keeps now).mono fun _ _ _ ↦ trivial
  apply FsIdentity.keepsOrReports_bind (FsIdentity.within_ensures ⟨0, gid⟩ before hreturns)
  intro index
  exact ensures_pure (.inl rfl)

end ContainerConstruction
