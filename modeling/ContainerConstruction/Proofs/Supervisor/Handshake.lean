import ContainerConstruction.Supervisor.Handshake
import Mathlib.Data.List.Induction

/-!
# Contained processes wait

Nothing but a release puts a byte into the control channel, so that a contained process that has started
was released before it read.
-/

namespace ContainerConstruction.Handshake

variable (engine : Engine)

theorem run_concat (handshake : Handshake) (moves : List HandshakeMove) (move : HandshakeMove) :
    run engine handshake (moves ++ [move]) =
      (run engine handshake moves).bind fun before ↦ before.step engine move := by
  unfold run
  rw [List.foldlM_append]
  refine congrArg _ (funext fun before ↦ ?_)
  exact bind_pure _

/-- A process that starts has read a byte. -/
theorem channel_ne_nil_of_start {channel : List UInt8} {start : Start}
    (h : engine.start (.ok (channel.take 1)) = .ok start) : channel ≠ [] := by
  intro hempty
  rw [hempty] at h
  cases h

/-- What is known of a handshake after moves: a byte in the channel comes from a release, and a start from a
read with a release before it. -/
structure Waits (moves : List HandshakeMove) (handshake : Handshake) : Prop where
  released : handshake.channel ≠ [] → .release ∈ moves
  started : ∀ start, handshake.start = some (.ok start) →
    ∃ before after, moves = before ++ .read :: after ∧ .release ∈ before

variable {engine} {moves : List HandshakeMove} {handshake next : Handshake}

/-- All that a move can change about the channel and the contained process. -/
theorem step_cases {move : HandshakeMove} (h : handshake.step engine move = some next) :
    (move = .release ∧ next.start = handshake.start) ∨
      (move = .read ∧ next.channel = handshake.channel.drop 1 ∧
        next.start = some (engine.start (.ok (handshake.channel.take 1)))) ∨
      next.channel = handshake.channel ∧ next.start = handshake.start := by
  unfold step at h
  cases move <;> obtain ⟨-, hnext⟩ := Option.ite_none_right_eq_some.mp h <;> cases hnext
  case release => exact .inl ⟨rfl, rfl⟩
  case read => exact .inr (.inl ⟨rfl, rfl, rfl⟩)
  all_goals exact .inr (.inr ⟨rfl, rfl⟩)

/-- A start that is known stays where it is when a move follows. -/
theorem Waits.started_append (h : Waits moves handshake) (move : HandshakeMove) {start : Start}
    (hstart : handshake.start = some (.ok start)) :
    ∃ before after, moves ++ [move] = before ++ .read :: after ∧ .release ∈ before := by
  obtain ⟨before, after, hmoves, hrelease⟩ := h.started start hstart
  refine ⟨before, after ++ [move], ?_, hrelease⟩
  rw [hmoves, List.append_assoc]
  rfl

/-- Every move keeps the start behind the read, and the read behind the release. -/
theorem Waits.step (h : Waits moves handshake) {move : HandshakeMove}
    (hstep : handshake.step engine move = some next) : Waits (moves ++ [move]) next := by
  obtain ⟨rfl, hstart⟩ | ⟨rfl, hchannel, hstart⟩ | ⟨hchannel, hstart⟩ := step_cases hstep
  · exact {
      released := fun _ ↦ List.mem_append_right _ (List.mem_singleton_self _)
      started := fun start hok ↦ h.started_append _ (hstart ▸ hok) }
  · constructor
    · intro hbyte
      refine List.mem_append_left _ (h.released fun hempty ↦ hbyte ?_)
      rw [hchannel, hempty]
      rfl
    · intro start hok
      rw [hstart] at hok
      have hbyte := channel_ne_nil_of_start engine (Option.some.inj hok)
      exact ⟨moves, [], rfl, h.released hbyte⟩
  · exact {
      released := fun hbyte ↦ List.mem_append_left _ (h.released (hchannel ▸ hbyte))
      started := fun start hok ↦ h.started_append _ (hstart ▸ hok) }

/-- By induction on the moves, the last one split off. -/
theorem waits_run (moves : List HandshakeMove) {handshake : Handshake}
    (h : run engine afterFork moves = some handshake) : Waits moves handshake := by
  induction moves using List.reverseRecOn generalizing handshake with
  | nil =>
    cases h
    exact ⟨fun hbyte ↦ absurd rfl hbyte, nofun⟩
  | append_singleton moves move ih =>
    rw [run_concat] at h
    obtain ⟨before, hbefore, hstep⟩ := Option.bind_eq_some_iff.mp h
    exact (ih hbefore).step hstep

end ContainerConstruction.Handshake
