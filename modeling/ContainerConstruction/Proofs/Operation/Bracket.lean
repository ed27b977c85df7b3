import ContainerConstruction.Executor
import ContainerConstruction.Proofs.Operation.Identity
import ContainerConstruction.Proofs.Program.Run

/-!
# The identity bracket

Work inside a bracket is done at most once, and only under the very identity that was asked for.  The identity
before the bracket is asked for again on every path, also if the work fails or panics.  If it is not granted
and the bracket returns, the failure says so whatever the work gave.

Nothing is assumed about the work: it may change the identity itself, and it may hold further brackets.
Brackets inside one another are closed in the reverse order, each with the identity that its own opening has
found.
-/

namespace ContainerConstruction

open Program (Runs)

variable {σ α : Type}

namespace FsIdentity

/-- The calls that ask for an identity and read back what came of it. -/
def switchCalls (identity : FsIdentity) : List KernelCall :=
  [.setFsUid identity.uid, .setFsGid identity.gid, .setFsUid noId, .setFsGid noId]

/-- Asks for an identity, and gives the one before and the one that is read back. -/
def switch (identity : FsIdentity) : Operation (FsIdentity × FsIdentity) := do
  let uid ← Operation.ask (.setFsUid identity.uid)
  let gid ← Operation.ask (.setFsGid identity.gid)
  let now ← current
  return (⟨uid, gid⟩, now)

/-- The failure of an identity that could not be taken back. -/
def loss (previous now : FsIdentity) : Failure :=
  .identityRestore s!"expected {previous.shown}, thread still has {now.shown}"

/-- The failure of a bracket whose identity was not granted. -/
def denial (target now : FsIdentity) : Failure :=
  .privilege s!"escalation to {target.shown} refused, thread reached {now.shown}"

/-- To take an identity back is to switch to it and report if that fails. -/
theorem restore_eq (previous : FsIdentity) :
    restore previous = (do
      let (_, now) ← switch previous
      if now = previous then return () else throw (loss previous now)) := rfl

/-- To take an identity on is to switch to it and to go back if that fails. -/
theorem escalate_eq (target : FsIdentity) :
    escalate target = (do
      let (previous, now) ← switch target
      if now = target then return previous
      else
        restore previous
        throw (denial target now)) := rfl

end FsIdentity

namespace IdentityKernel

variable (kernel : IdentityKernel σ)

def switched (identity : FsIdentity) (state : σ) : σ := kernel.worker.after identity.switchCalls state

/-- Reading the user id changes nothing. -/
theorem answer_readUid (state : σ) :
    (kernel.worker.answer (.setFsUid FsIdentity.noId) state).1 = (kernel.identity state).uid ∧
      kernel.identity (kernel.worker.answer (.setFsUid FsIdentity.noId) state).2 = kernel.identity state := by
  obtain ⟨hanswer, hkept | ⟨hne, -⟩⟩ := kernel.permits (.setFsUid FsIdentity.noId) state
  · exact ⟨hanswer, hkept⟩
  · exact absurd rfl hne

/-- Reading the group id changes nothing. -/
theorem answer_readGid (state : σ) :
    (kernel.worker.answer (.setFsGid FsIdentity.noId) state).1 = (kernel.identity state).gid ∧
      kernel.identity (kernel.worker.answer (.setFsGid FsIdentity.noId) state).2 = kernel.identity state := by
  obtain ⟨hanswer, hkept | ⟨hne, -⟩⟩ := kernel.permits (.setFsGid FsIdentity.noId) state
  · exact ⟨hanswer, hkept⟩
  · exact absurd rfl hne

/-- Asking for a user id gives the one before and leaves the group alone. -/
theorem answer_setUid (uid : UInt32) (state : σ) :
    (kernel.worker.answer (.setFsUid uid) state).1 = (kernel.identity state).uid ∧
      (kernel.identity (kernel.worker.answer (.setFsUid uid) state).2).gid = (kernel.identity state).gid := by
  obtain ⟨hanswer, hafter | ⟨-, hafter⟩⟩ := kernel.permits (.setFsUid uid) state
  · exact ⟨hanswer, by rw [hafter]⟩
  · exact ⟨hanswer, by rw [hafter]⟩

/-- Asking for a group id gives the one before and leaves the user alone. -/
theorem answer_setGid (gid : UInt32) (state : σ) :
    (kernel.worker.answer (.setFsGid gid) state).1 = (kernel.identity state).gid ∧
      (kernel.identity (kernel.worker.answer (.setFsGid gid) state).2).uid = (kernel.identity state).uid := by
  obtain ⟨hanswer, hafter | ⟨-, hafter⟩⟩ := kernel.permits (.setFsGid gid) state
  · exact ⟨hanswer, by rw [hafter]⟩
  · exact ⟨hanswer, by rw [hafter]⟩

/-- The identity after a switch is the one that the two requests have left. -/
theorem identity_switched (identity : FsIdentity) (state : σ) :
    kernel.identity (kernel.switched identity state) =
      kernel.identity (kernel.worker.after [.setFsUid identity.uid, .setFsGid identity.gid] state) := by
  let asked := kernel.worker.after [.setFsUid identity.uid, .setFsGid identity.gid] state
  calc
    _ = kernel.identity (kernel.worker.answer (.setFsUid FsIdentity.noId) asked).2 :=
      (kernel.answer_readGid _).2
    _ = kernel.identity asked := (kernel.answer_readUid asked).2

/-- A switch gives the identity before, and the one that is in force now. -/
theorem runs_switch (identity : FsIdentity) (state : σ) :
    Runs kernel.worker identity.switch.run state (kernel.worker.perform identity.switchCalls state).1
      (.returned (.ok (kernel.identity state, kernel.identity (kernel.switched identity state))))
      (kernel.switched identity state) where
  run_eq := by
    let named := (kernel.worker.answer (.setFsUid identity.uid) state).2
    let asked := (kernel.worker.answer (.setFsGid identity.gid) named).2
    let read := (kernel.worker.answer (.setFsUid FsIdentity.noId) asked).2
    have hbefore : (⟨(kernel.worker.answer (.setFsUid identity.uid) state).1,
        (kernel.worker.answer (.setFsGid identity.gid) named).1⟩ : FsIdentity) = kernel.identity state := by
      rw [(kernel.answer_setUid identity.uid state).1, (kernel.answer_setGid identity.gid named).1,
        (kernel.answer_setUid identity.uid state).2]
    have hnow : (⟨(kernel.worker.answer (.setFsUid FsIdentity.noId) asked).1,
        (kernel.worker.answer (.setFsGid FsIdentity.noId) read).1⟩ : FsIdentity) =
          kernel.identity (kernel.switched identity state) := by
      rw [(kernel.answer_readUid asked).1, (kernel.answer_readGid read).1, (kernel.answer_readUid asked).2,
        kernel.identity_switched identity state]
      rfl
    rw [← hbefore, ← hnow]
    rfl
  trace_eq := rfl

/-- Taking back an identity succeeds if it is in force afterwards, and reports its loss otherwise. -/
theorem runs_restore (previous : FsIdentity) (state : σ) :
    Runs kernel.worker previous.restore.run state (kernel.worker.perform previous.switchCalls state).1
      (.returned (if kernel.identity (kernel.switched previous state) = previous then .ok ()
        else .error (FsIdentity.loss previous (kernel.identity (kernel.switched previous state)))))
      (kernel.switched previous state) := by
  rw [FsIdentity.restore_eq]
  apply (kernel.runs_switch previous state).bind_ok_quiet
  by_cases hkept : kernel.identity (kernel.switched previous state) = previous
  · simp only [if_pos hkept]
    exact Program.runs_pure _ _ _
  · simp only [if_neg hkept]
    exact Program.runs_throw _ _ _

/-- Going on after taking back an identity. -/
theorem runs_restore_bind (previous : FsIdentity) (state : σ) {next : Operation α}
    {result : Except Failure α}
    (hnext : Runs kernel.worker next.run (kernel.switched previous state) [] (.returned result)
      (kernel.switched previous state)) :
    Runs kernel.worker (do previous.restore; next : Operation α).run state
      (kernel.worker.perform previous.switchCalls state).1
      (.returned (if kernel.identity (kernel.switched previous state) = previous then result
        else .error (FsIdentity.loss previous (kernel.identity (kernel.switched previous state)))))
      (kernel.switched previous state) := by
  have hrestore := kernel.runs_restore previous state
  by_cases hkept : kernel.identity (kernel.switched previous state) = previous
  · rw [if_pos hkept] at hrestore ⊢
    exact hrestore.bind_ok_quiet hnext
  · rw [if_neg hkept] at hrestore ⊢
    exact hrestore.bind_error _

/-! ## The three ways of a bracket -/

variable {target : FsIdentity} {state : σ}

theorem runs_escalate (hgranted : kernel.identity (kernel.switched target state) = target) :
    Runs kernel.worker target.escalate.run state (kernel.worker.perform target.switchCalls state).1
      (.returned (.ok (kernel.identity state))) (kernel.switched target state) := by
  rw [FsIdentity.escalate_eq]
  apply (kernel.runs_switch target state).bind_ok_quiet
  simp only [if_pos hgranted]
  exact Program.runs_pure _ _ _

/-- A bracket whose identity was not granted is closed at once. -/
theorem runs_within_denied (hdenied : kernel.identity (kernel.switched target state) ≠ target)
    (work : Operation α) :
    let before := kernel.identity state
    let opened := kernel.switched target state
    let closed := kernel.switched before opened
    Runs kernel.worker (FsIdentity.within target work).run state
      ((kernel.worker.perform target.switchCalls state).1 ++
        (kernel.worker.perform before.switchCalls opened).1)
      (.returned (.error (if kernel.identity closed = before
        then FsIdentity.denial target (kernel.identity opened)
        else FsIdentity.loss before (kernel.identity closed)))) closed := by
  intro before opened closed
  have hescalate : Runs kernel.worker target.escalate.run state
      ((kernel.worker.perform target.switchCalls state).1 ++
        (kernel.worker.perform before.switchCalls opened).1)
      (.returned (.error (if kernel.identity closed = before
        then FsIdentity.denial target (kernel.identity opened)
        else FsIdentity.loss before (kernel.identity closed)))) closed := by
    rw [FsIdentity.escalate_eq]
    apply (kernel.runs_switch target state).bind_ok
    simp only [if_neg hdenied]
    rw [apply_ite Except.error]
    exact kernel.runs_restore_bind before opened (Program.runs_throw _ _ _)
  exact hescalate.bind_error _

/-- A bracket whose work returns gives what the work gave, if the earlier identity is in force again. -/
theorem runs_within_returned (hgranted : kernel.identity (kernel.switched target state) = target)
    {work : Operation α} {events : List (Event Kernel)} {result : Except Failure α} {worked : σ}
    (hwork : Runs kernel.worker work.run (kernel.switched target state) events (.returned result) worked) :
    let before := kernel.identity state
    let closed := kernel.switched before worked
    Runs kernel.worker (FsIdentity.within target work).run state
      ((kernel.worker.perform target.switchCalls state).1 ++ (events ++
        (kernel.worker.perform before.switchCalls worked).1))
      (.returned (if kernel.identity closed = before then result
        else .error (FsIdentity.loss before (kernel.identity closed)))) closed := by
  intro before closed
  have hresult : Runs kernel.worker (Operation.ofResult result).run closed [] (.returned result) closed := by
    cases result with
    | ok value => exact Program.runs_pure _ _ _
    | error failure => exact Program.runs_throw _ _ _
  have hclose := kernel.runs_restore_bind before worked hresult
  exact (kernel.runs_escalate hgranted).bind_ok ((Runs.lift hwork.attempt).bind_ok hclose)

/-- A bracket whose work panics asks for the earlier identity before the panic goes on. -/
theorem runs_within_panicked (hgranted : kernel.identity (kernel.switched target state) = target)
    {work : Operation α} {events : List (Event Kernel)} {panic : Panic} {worked : σ}
    (hwork : Runs kernel.worker work.run (kernel.switched target state) events (.panicked panic) worked) :
    let before := kernel.identity state
    Runs kernel.worker (FsIdentity.within target work).run state
      ((kernel.worker.perform target.switchCalls state).1 ++ (events ++
        (kernel.worker.perform before.switchCalls worked).1))
      (.panicked panic) (kernel.switched before worked) := by
  intro before
  have hpanic : Runs kernel.worker (.panics panic : Program Kernel (Except Failure α))
      (kernel.switched before worked) [] (.panicked panic) (kernel.switched before worked) := ⟨rfl, rfl⟩
  have hclose : Runs kernel.worker (FsIdentity.restoreUnwinding before panic : Operation α) worked
      (kernel.worker.perform before.switchCalls worked).1 (.panicked panic)
      (kernel.switched before worked) := by
    have hrestore := (kernel.runs_restore before worked).bind (fun _ ↦ .panics panic) hpanic
    rw [List.append_nil] at hrestore
    exact hrestore
  exact (kernel.runs_escalate hgranted).bind_ok ((Runs.lift hwork.attempt).bind_ok hclose)

/-- The kernel grants both ids of an identity to a thread that asks for them. -/
def Grants (identity : FsIdentity) (state : σ) : Prop :=
  let named := (kernel.worker.answer (.setFsUid identity.uid) state).2
  (kernel.identity named).uid = identity.uid ∧
    (kernel.identity (kernel.worker.answer (.setFsGid identity.gid) named).2).gid = identity.gid

theorem identity_switched_of_grants {identity : FsIdentity} {state : σ} (h : kernel.Grants identity state) :
    kernel.identity (kernel.switched identity state) = identity := by
  let named := (kernel.worker.answer (.setFsUid identity.uid) state).2
  let asked := (kernel.worker.answer (.setFsGid identity.gid) named).2
  have huid : (kernel.identity asked).uid = identity.uid :=
    (kernel.answer_setGid identity.gid named).2.trans h.1
  have hgid : (kernel.identity asked).gid = identity.gid := h.2
  calc
    kernel.identity (kernel.switched identity state) = kernel.identity asked :=
      kernel.identity_switched identity state
    _ = ⟨(kernel.identity asked).uid, (kernel.identity asked).gid⟩ := rfl
    _ = ⟨identity.uid, identity.gid⟩ := by rw [huid, hgid]
    _ = identity := rfl

end IdentityKernel

/-! ## The laws of a bracket -/

/-- What a bracket comes to that finds the identity `before` and asks for `target`.  `opened` is the state in
which the work would begin, `worked` the one in which it would end, and `closed` the one after the bracket. -/
structure BracketLaws (kernel : IdentityKernel σ) (target before : FsIdentity) (work : Operation α)
    (opened worked : σ) (calls : List KernelCall) (outcome : Outcome (Except Failure α)) (closed : σ) :
    Prop where
  /-- The work is done once if the identity that is read back is the target, and else it is not done.  The last
  that a bracket does is to ask for the identity before it. -/
  course : (kernel.identity opened = target ∧ closed = kernel.switched before worked ∧
      calls = target.switchCalls ++ (work.run.calls kernel.worker opened ++ before.switchCalls)) ∨
    kernel.identity opened ≠ target ∧ closed = kernel.switched before opened ∧
      calls = target.switchCalls ++ before.switchCalls
  /-- A bracket that returns under another identity than the one before says so, whatever the work gave. -/
  lost : ∀ result, outcome = .returned result → kernel.identity closed ≠ before →
    result = .error (FsIdentity.loss before (kernel.identity closed))
  /-- A bracket that returns under the identity before it gives what the work gave, or the denial if the work was
  not done. -/
  kept : ∀ result, outcome = .returned result → kernel.identity closed = before →
    (kernel.identity opened = target ∧ (work.run.run kernel.worker opened).1 = .returned result) ∨
      kernel.identity opened ≠ target ∧ result = .error (FsIdentity.denial target (kernel.identity opened))
  /-- A bracket panics as its work does, and not otherwise. -/
  panicked : ∀ panic, outcome = .panicked panic ↔
    kernel.identity opened = target ∧ (work.run.run kernel.worker opened).1 = .panicked panic
  /-- When the executor meets the panic, the identity is back if the kernel has granted it. -/
  unwound : ∀ panic, outcome = .panicked panic → kernel.Grants before worked →
    kernel.identity closed = before ∧ Executor.settle outcome = .error Executor.panicFailure

namespace FsIdentity

variable (kernel : IdentityKernel σ)

/-- Brackets inside one another, the outermost first, around a piece of work. -/
def nest (targets : List FsIdentity) (work : Operation α) : Operation α := targets.foldr within work

/-- The calls of a bracket are those for the two switches, with the work between if the first was
granted. -/
theorem calls_within (target : FsIdentity) (work : Operation α) (state : σ) :
    (within target work).run.calls kernel.worker state = target.switchCalls ++
      ((if kernel.identity (kernel.switched target state) = target
        then work.run.calls kernel.worker (kernel.switched target state) else []) ++
        (kernel.identity state).switchCalls) := by
  by_cases hgranted : kernel.identity (kernel.switched target state) = target
  · rw [if_pos hgranted]
    have hwork := Program.runs_self kernel.worker work.run (kernel.switched target state)
    cases houtcome : (work.run.run kernel.worker (kernel.switched target state)).1 with
    | returned result =>
      rw [houtcome] at hwork
      rw [(kernel.runs_within_returned hgranted hwork).calls_eq, List.map_append, List.map_append,
        Machine.map_call_perform, Machine.map_call_perform]
      rfl
    | panicked panic =>
      rw [houtcome] at hwork
      rw [(kernel.runs_within_panicked hgranted hwork).calls_eq, List.map_append, List.map_append,
        Machine.map_call_perform, Machine.map_call_perform]
      rfl
  · rw [if_neg hgranted, (kernel.runs_within_denied hgranted work).calls_eq, List.map_append,
      Machine.map_call_perform, Machine.map_call_perform]
    rfl

/-- Brackets inside one another are opened up to the first one that is denied, if any, and the work is done
only if none is.  All that were opened are closed in the reverse order. -/
theorem calls_nest (targets : List FsIdentity) (work : Operation α) (state : σ) :
    ∃ granted denied, targets = granted ++ denied ∧
      let opened := kernel.worker.after (granted.flatMap switchCalls) state
      let found := kernel.identity state :: granted
      kernel.identity opened = found.getLast (List.cons_ne_nil _ _) ∧
        (nest targets work).run.calls kernel.worker state = granted.flatMap switchCalls ++
          match denied with
          | [] => work.run.calls kernel.worker opened ++ found.dropLast.reverse.flatMap switchCalls
          | target :: _ => target.switchCalls ++ found.reverse.flatMap switchCalls := by
  induction targets generalizing state with
  | nil => exact ⟨[], [], rfl, rfl, by simp [nest, Machine.after, Machine.perform]⟩
  | cons target inner ih =>
    have hcalls := calls_within kernel target (nest inner work) state
    by_cases hgranted : kernel.identity (kernel.switched target state) = target
    · rw [if_pos hgranted] at hcalls
      obtain ⟨granted, denied, hsplit, hfound, hinner⟩ := ih (kernel.switched target state)
      rw [hgranted] at hfound hinner
      have hopened : kernel.worker.after ((target :: granted).flatMap switchCalls) state =
          kernel.worker.after (granted.flatMap switchCalls) (kernel.switched target state) := by
        rw [List.flatMap_cons, Machine.after_append]
        rfl
      refine ⟨target :: granted, denied, by rw [hsplit]; rfl, ?_, ?_⟩
      · rw [hopened, hfound]
        rfl
      · rw [hopened]
        refine hcalls.trans ?_
        rw [hinner]
        cases denied with
        | nil => simp [List.append_assoc]
        | cons next others => simp [List.append_assoc]
    · rw [if_neg hgranted] at hcalls
      refine ⟨[], target :: inner, rfl, rfl, hcalls.trans ?_⟩
      simp

/-- What a bracket does and what comes of it, on every kernel, for all work, and also for work inside any
number of further brackets. -/
theorem bracket_laws (target : FsIdentity) (work : Operation α) (state : σ) :
    let opened := kernel.switched target state
    BracketLaws kernel target (kernel.identity state) work opened (work.run.run kernel.worker opened).2
        ((within target work).run.calls kernel.worker state)
        ((within target work).run.run kernel.worker state).1
        ((within target work).run.run kernel.worker state).2 ∧
      ∀ targets, ∃ granted denied, targets = granted ++ denied ∧
        let opened := kernel.worker.after (granted.flatMap switchCalls) state
        let found := kernel.identity state :: granted
        kernel.identity opened = found.getLast (List.cons_ne_nil _ _) ∧
          (nest targets work).run.calls kernel.worker state = granted.flatMap switchCalls ++
            match denied with
            | [] => work.run.calls kernel.worker opened ++ found.dropLast.reverse.flatMap switchCalls
            | target :: _ => target.switchCalls ++ found.reverse.flatMap switchCalls := by
  intro opened
  refine ⟨?_, fun targets ↦ calls_nest kernel targets work state⟩
  have hcalls := calls_within kernel target work state
  by_cases hgranted : kernel.identity opened = target
  · have hwork := Program.runs_self kernel.worker work.run opened
    rw [if_pos hgranted] at hcalls
    cases houtcome : (work.run.run kernel.worker opened).1 with
    | returned result =>
      rw [houtcome] at hwork
      rw [(kernel.runs_within_returned hgranted hwork).run_eq]
      exact {
        course := .inl ⟨hgranted, rfl, hcalls⟩
        lost := by
          intro given hgiven hlost
          rw [if_neg hlost] at hgiven
          cases hgiven
          rfl
        kept := by
          intro given hgiven hkept
          rw [if_pos hkept] at hgiven
          exact .inl ⟨hgranted, houtcome.trans hgiven⟩
        panicked := fun _ ↦ ⟨nofun, fun h ↦ nomatch houtcome.symm.trans h.2⟩
        unwound := nofun }
    | panicked panic =>
      rw [houtcome] at hwork
      rw [(kernel.runs_within_panicked hgranted hwork).run_eq]
      exact {
        course := .inl ⟨hgranted, rfl, hcalls⟩
        lost := nofun
        kept := nofun
        panicked := by
          intro other
          rw [houtcome]
          exact ⟨fun h ↦ ⟨hgranted, by cases h; rfl⟩, fun h ↦ by cases h.2; rfl⟩
        unwound := fun _ _ hgrants ↦ ⟨kernel.identity_switched_of_grants hgrants, rfl⟩ }
  · rw [if_neg hgranted] at hcalls
    rw [(kernel.runs_within_denied hgranted work).run_eq]
    exact {
      course := .inr ⟨hgranted, rfl, hcalls⟩
      lost := by
        intro given hgiven hlost
        rw [if_neg hlost] at hgiven
        cases hgiven
        rfl
      kept := by
        intro given hgiven hkept
        rw [if_pos hkept] at hgiven
        cases hgiven
        exact .inr ⟨hgranted, rfl⟩
      panicked := fun _ ↦ ⟨nofun, fun h ↦ absurd h.1 hgranted⟩
      unwound := nofun }

end FsIdentity

end ContainerConstruction
