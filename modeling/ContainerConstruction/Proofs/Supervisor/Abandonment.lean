import ContainerConstruction.Proofs.Supervisor.Handshake

/-!
# Contained processes whose supervisor is gone

The contained process holds a copy of the supervisor's end of the control channel, and no move makes it let go
of that copy.  For itself the channel therefore never comes to its end: a process that is abandoned before it
was released does not start, but it does not learn that it is abandoned either, and waits for good.  The copy
is all that keeps it from learning: without it the next read would tell.
-/

namespace ContainerConstruction.Handshake

/-! ## Who holds the supervisor's end -/

def withoutCopy (handshake : Handshake) : Handshake :=
  { handshake with holders := handshake.holders.filter (· ≠ .contained) }

/-- The contained process holds the supervisor's end, and so does the supervisor while it can use it. -/
def Held (handshake : Handshake) : Prop :=
  handshake.holders = if handshake.supervisorHolds then [.supervisor, .contained] else [.contained]

theorem held_afterFork : afterFork.Held := rfl

variable {engine : Engine} {moves : List HandshakeMove} {handshake next : Handshake}

theorem Held.withoutSupervisor (h : handshake.Held) :
    handshake.withoutSupervisor.holders = [.contained] := by
  unfold Handshake.withoutSupervisor
  unfold Held at h
  rw [h]
  split <;> rfl

/-- Only closing and dying take the end away from the supervisor, and both do. -/
theorem Held.supervisorHolds_step (h : handshake.Held) {move : HandshakeMove}
    (hstep : handshake.step engine move = some next) :
    next.supervisorHolds = (handshake.supervisorHolds && move ≠ .close && move ≠ .die) := by
  unfold step at hstep
  cases move <;> obtain ⟨-, hnext⟩ := Option.ite_none_right_eq_some.mp hstep <;> cases hnext
  case close =>
    unfold Handshake.supervisorHolds
    rw [h.withoutSupervisor]
    simp
  all_goals simp [Handshake.supervisorHolds]

/-- The contained process lets go of the supervisor's end in no move. -/
theorem Held.step (h : handshake.Held) {move : HandshakeMove}
    (hstep : handshake.step engine move = some next) : next.Held := by
  have hholds := h.supervisorHolds_step hstep
  unfold Held
  unfold Handshake.step at hstep
  cases move <;> obtain ⟨-, hnext⟩ := Option.ite_none_right_eq_some.mp hstep <;> cases hnext
  case close => simpa [hholds] using h.withoutSupervisor
  case die => simpa [hholds] using h.withoutSupervisor
  all_goals exact h

/-- The contained process is a holder itself, so that nothing but a byte ends its reading. -/
theorem Held.canRead_iff (h : handshake.Held) : handshake.canRead = true ↔ handshake.channel ≠ [] := by
  have hholders : handshake.holders.isEmpty = false := by
    unfold Held at h
    rw [h]
    split <;> rfl
  simp [canRead, hholders]

/-- A process that reads a byte does what its engine has it do. -/
theorem start_of_channel {channel : List UInt8} (h : channel ≠ []) :
    engine.start (.ok (channel.take 1)) = engine.released := by
  obtain ⟨byte, rest, rfl⟩ := List.exists_cons_of_ne_nil h
  rfl

/-! ## What has become of a handshake -/

/-- What is known of a handshake after moves: who holds the end, and that a process knows what to do only
after a release. -/
structure Settled (engine : Engine) (moves : List HandshakeMove) (handshake : Handshake) : Prop where
  held : handshake.Held
  holds_iff : handshake.supervisorHolds = true ↔ .close ∉ moves ∧ .die ∉ moves
  waiting_iff : handshake.channel = [] ∧ handshake.start = none ↔ .release ∉ moves
  started : ∀ result, handshake.start = some result → result = engine.released

theorem settled_afterFork : Settled engine [] afterFork where
  held := held_afterFork
  holds_iff := by decide
  waiting_iff := by decide
  started := nofun

/-- A read takes the byte of a release, and turns a process that waits into one that has started. -/
theorem Settled.read (h : Settled engine moves handshake) (hbyte : handshake.channel ≠ [])
    (hstart : next.start = some (engine.start (.ok (handshake.channel.take 1)))) :
    (next.channel = [] ∧ next.start = none ↔ .release ∉ moves ++ [.read]) ∧
      ∀ result, next.start = some result → result = engine.released := by
  have hreleased : .release ∈ moves := by
    by_contra hnot
    exact hbyte (h.waiting_iff.mpr hnot).1
  constructor
  · simp [hstart, hreleased]
  · intro result hresult
    rw [hstart, start_of_channel hbyte] at hresult
    exact (Option.some.inj hresult).symm

theorem Settled.step (h : Settled engine moves handshake) {move : HandshakeMove}
    (hstep : handshake.step engine move = some next) : Settled engine (moves ++ [move]) next := by
  have hheld := h.held.step hstep
  have hholds : next.supervisorHolds = true ↔ .close ∉ moves ++ [move] ∧ .die ∉ moves ++ [move] := by
    rw [h.held.supervisorHolds_step hstep]
    have hmoves := h.holds_iff
    grind
  suffices hprocess : (next.channel = [] ∧ next.start = none ↔ .release ∉ moves ++ [move]) ∧
      ∀ result, next.start = some result → result = engine.released from
    ⟨hheld, hholds, hprocess.1, hprocess.2⟩
  unfold Handshake.step at hstep
  cases move <;> obtain ⟨hable, hnext⟩ := Option.ite_none_right_eq_some.mp hstep <;> cases hnext
  case release => exact ⟨by simp, h.started⟩
  case read =>
    have hbyte := h.held.canRead_iff.mp (Bool.and_eq_true_iff.mp hable).1
    exact h.read hbyte rfl
  -- the other moves leave the channel and the process as they are
  all_goals
    refine ⟨?_, h.started⟩
    rw [List.mem_append, not_or]
    exact h.waiting_iff.trans (by simp)

/-- By induction on the moves, the last one split off. -/
theorem settled_run (moves : List HandshakeMove) {handshake : Handshake}
    (h : run engine afterFork moves = some handshake) : Settled engine moves handshake := by
  induction moves using List.reverseRecOn generalizing handshake with
  | nil =>
    cases h
    exact settled_afterFork
  | append_singleton moves move ih =>
    rw [run_concat] at h
    obtain ⟨before, hbefore, hstep⟩ := Option.bind_eq_some_iff.mp h
    exact (ih hbefore).step hstep

/-! ## Abandoned processes -/

theorem isAbandoned_iff (handshake : Handshake) :
    handshake.isAbandoned = true ↔
      (handshake.channel = [] ∧ handshake.start = none) ∧ ¬handshake.supervisorHolds = true := by
  simp [isAbandoned]

/-- A process is abandoned when the supervisor is gone without having released it. -/
theorem Settled.isAbandoned_iff (h : Settled engine moves handshake) :
    handshake.isAbandoned = true ↔ .release ∉ moves ∧ (.close ∈ moves ∨ .die ∈ moves) := by
  calc
    _ ↔ (handshake.channel = [] ∧ handshake.start = none) ∧ ¬handshake.supervisorHolds = true :=
      handshake.isAbandoned_iff
    _ ↔ .release ∉ moves ∧ ¬(.close ∉ moves ∧ .die ∉ moves) := by rw [h.waiting_iff, h.holds_iff]
    _ ↔ _ := by rw [not_and_or, not_not, not_not]

/-- An abandoned process reads for ever. -/
theorem Held.canRead_of_abandoned (h : handshake.Held) (habandoned : handshake.isAbandoned = true) :
    handshake.canRead = false := by
  have hchannel := (handshake.isAbandoned_iff.mp habandoned).1.1
  simpa [hchannel] using h.canRead_iff

/-- An abandoned process has nothing to read, and nobody can release it. -/
theorem Held.abandoned_step (h : handshake.Held) (habandoned : handshake.isAbandoned = true)
    {move : HandshakeMove} (hstep : handshake.step engine move = some next) :
    next.isAbandoned = true ∧ move ≠ .read := by
  have hholds := h.supervisorHolds_step hstep
  have hread := h.canRead_of_abandoned habandoned
  rw [isAbandoned_iff] at habandoned ⊢
  obtain ⟨hwaiting, hgone⟩ := habandoned
  have hnext : ¬next.supervisorHolds = true := by simp [hholds, hgone]
  unfold Handshake.step at hstep
  cases move <;> obtain ⟨hable, heq⟩ := Option.ite_none_right_eq_some.mp hstep <;> cases heq
  case afterFork => exact ⟨⟨hwaiting, hnext⟩, nofun⟩
  case release => exact absurd hable hgone
  case close => exact absurd hable hgone
  case die => exact ⟨⟨hwaiting, hnext⟩, nofun⟩
  case read => simp [hread] at hable

/-- By induction on the moves: an abandoned process stays abandoned, and does not read. -/
theorem Held.abandoned_run (h : handshake.Held) (habandoned : handshake.isAbandoned = true)
    {later : List HandshakeMove} (hrun : run engine handshake later = some next) :
    next.Held ∧ next.isAbandoned = true ∧ .read ∉ later := by
  unfold run at hrun
  induction later generalizing handshake with
  | nil =>
    cases hrun
    exact ⟨h, habandoned, List.not_mem_nil⟩
  | cons move later ih =>
    rw [List.foldlM_cons] at hrun
    obtain ⟨between, hstep, hrest⟩ := Option.bind_eq_some_iff.mp hrun
    obtain ⟨hbetween, hmove⟩ := h.abandoned_step habandoned hstep
    obtain ⟨hheld, hnext, hlater⟩ := ih (h.step hstep) hbetween hrest
    refine ⟨hheld, hnext, ?_⟩
    rw [List.mem_cons, not_or]
    exact ⟨hmove.symm, hlater⟩

/-- Without its copy an abandoned process reads the end of the channel. -/
theorem Held.told (h : handshake.Held) (habandoned : handshake.isAbandoned = true) (engine : Engine) :
    ∃ next, handshake.withoutCopy.step engine .read = some next ∧
      next.start = some (.error (.process "control channel closed before start")) := by
  obtain ⟨⟨hchannel, hstart⟩, hgone⟩ := handshake.isAbandoned_iff.mp habandoned
  have hholders : handshake.withoutCopy.holders = [] := by
    unfold withoutCopy
    unfold Held at h
    rw [h, if_neg hgone]
    rfl
  have hable : (handshake.withoutCopy.canRead && handshake.withoutCopy.start.isNone) = true := by
    rw [canRead, hholders, show handshake.withoutCopy.start = none from hstart]
    simp
  refine ⟨_, if_pos hable, ?_⟩
  rw [show handshake.withoutCopy.channel = [] from hchannel]
  rfl

/-- What becomes of a contained process that is held back after a fork. -/
structure AbandonmentLaws (engine : Engine) (moves : List HandshakeMove) (handshake : Handshake) : Prop where
  /-- Abandoned is a process whose supervisor has closed its end or died without releasing it. -/
  abandoned_iff : handshake.isAbandoned = true ↔ .release ∉ moves ∧ (.close ∈ moves ∨ .die ∈ moves)
  /-- Reading comes to an end by a byte alone, and never by the end of the channel. -/
  canRead_iff : handshake.canRead = true ↔ handshake.channel ≠ []
  /-- An abandoned process stays so: whatever happens, it reads nothing and does not know what to do. -/
  waits : handshake.isAbandoned = true → ∀ later next, run engine handshake later = some next →
    next.start = none ∧ next.canRead = false ∧ .read ∉ later
  /-- A process that knows what to do was released, and does what its engine has it do. -/
  started : ∀ result, handshake.start = some result → .release ∈ moves ∧ result = engine.released
  /-- It is the copy of the supervisor's end that keeps an abandoned process from being told. -/
  told : handshake.isAbandoned = true → ∃ next, handshake.withoutCopy.step engine .read = some next ∧
    next.start = some (.error (.process "control channel closed before start"))

/-- A contained process starts only if it was released, and never learns that it was abandoned. -/
theorem abandonment_laws (engine : Engine) (moves : List HandshakeMove) {handshake : Handshake}
    (h : run engine afterFork moves = some handshake) : AbandonmentLaws engine moves handshake := by
  have hsettled := settled_run moves h
  have hheld := hsettled.held
  exact {
    abandoned_iff := hsettled.isAbandoned_iff
    canRead_iff := hheld.canRead_iff
    waits := fun habandoned later next hrun ↦ by
      obtain ⟨hnext, hstill, hread⟩ := hheld.abandoned_run habandoned hrun
      exact ⟨(next.isAbandoned_iff.mp hstill).1.2, hnext.canRead_of_abandoned hstill, hread⟩
    started := fun result hstart ↦ by
      refine ⟨?_, hsettled.started result hstart⟩
      by_contra hnot
      simp [(hsettled.waiting_iff.mpr hnot).2] at hstart
    told := fun habandoned ↦ hheld.told habandoned engine }

/-- A supervisor that dies before the release leaves a process behind. -/
theorem abandonment_laws_dying :
    run (Engine.fresh .standard) afterFork [.afterFork, .die] = some ⟨[], [.contained], false, none⟩ ∧
      AbandonmentLaws (Engine.fresh .standard) [.afterFork, .die] ⟨[], [.contained], false, none⟩ :=
  ⟨rfl, abandonment_laws (Engine.fresh .standard) [.afterFork, .die] rfl⟩

/-- The process that a dead supervisor has left behind cannot read: its channel has not come to its end. -/
theorem abandonment_unnoticed :
    ∃ handshake, run (Engine.fresh .standard) afterFork [.afterFork, .die] = some handshake ∧
      handshake.isAbandoned = true ∧ handshake.canRead = false ∧
      handshake.step (Engine.fresh .standard) .read = none :=
  ⟨_, rfl, rfl, rfl, rfl⟩

end ContainerConstruction.Handshake
