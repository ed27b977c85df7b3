import ContainerConstruction.Host.Execution
import ContainerConstruction.Proofs.Host.Removal
import Mathlib.Tactic.SplitIfs

/-!
# Who a contained program runs as

A process asks for an id unless its real one is that id already, and a program starts with the real and the
effective ids of the process.  So a program runs as requested if and only if the process honours the request:
where the real id is the requested one the effective id must be too, and elsewhere the process must be allowed
to change.  A process all of whose ids agree honours every request that is granted.

The ids are those with which the kernel is asked to run the program.  Program files that change them once more
are not considered.
-/

namespace ContainerConstruction

theorem ProcessSpec.wanted_self (id : UInt32) : ProcessSpec.wanted (some id) id = none := by
  simp [ProcessSpec.wanted]

theorem ProcessSpec.wanted_of_ne {id real : UInt32} (h : real ≠ id) :
    ProcessSpec.wanted (some id) real = some id := by
  simp [ProcessSpec.wanted, h.symm]

namespace Credentials

/-! ## Ids -/

/-- The user ids or the group ids of a process. -/
structure Ids where
  real : UInt32
  effective : UInt32
  saved : UInt32

namespace Ids

/-- A process has an id, really and effectively. -/
structure Have (id : UInt32) (ids : Ids) : Prop where
  real : ids.real = id
  effective : ids.effective = id

/-- A process gets to have an id by asking for it unless it is the real one. -/
structure Honour (id : UInt32) (mayChange : Bool) (ids : Ids) : Prop where
  present : ids.real = id → ids.effective = id
  absent : ids.real ≠ id → mayChange = true

/-- All ids agree. -/
structure Agree (ids : Ids) : Prop where
  effective : ids.effective = ids.real
  saved : ids.saved = ids.real

/-- What becomes of the ids of a process that asks for one unless it is the real one, and is granted it. -/
inductive Taken (id : UInt32) (mayChange : Bool) (ids : Ids) : Ids → Prop
  | kept (hreal : ids.real = id) : Taken id mayChange ids ids
  | changed (hreal : ids.real ≠ id) (hchange : mayChange = true) : Taken id mayChange ids ⟨id, id, id⟩
  /-- A saved id is taken on as the effective one only. -/
  | lent (hreal : ids.real ≠ id) (hchange : mayChange = false) (hsaved : ids.saved = id) :
    Taken id mayChange ids { ids with effective := id }

variable {id : UInt32} {mayChange : Bool} {ids after : Ids}

/-- A process gets to have the id it asks for exactly if the request is honoured. -/
theorem Taken.have_iff (h : Taken id mayChange ids after) : after.Have id ↔ ids.Honour id mayChange := by
  cases h with
  | kept hreal => exact ⟨fun h ↦ ⟨fun _ ↦ h.effective, absurd hreal⟩, fun h ↦ ⟨hreal, h.present hreal⟩⟩
  | changed hreal hchange => exact ⟨fun _ ↦ ⟨(absurd · hreal), fun _ ↦ hchange⟩, fun _ ↦ ⟨rfl, rfl⟩⟩
  | lent hreal hchange =>
    refine ⟨fun h ↦ absurd h.real hreal, fun h ↦ ?_⟩
    rw [h.absent hreal] at hchange
    cases hchange

/-- Where all ids agree, a request that is granted is honoured. -/
theorem Taken.honour_of_agree (h : Taken id mayChange ids after) (hagree : ids.Agree) :
    ids.Honour id mayChange := by
  cases h with
  | kept hreal => exact ⟨fun _ ↦ hagree.effective.trans hreal, absurd hreal⟩
  | changed hreal hchange => exact ⟨(absurd · hreal), fun _ ↦ hchange⟩
  | lent hreal _ hsaved => exact absurd (hagree.saved.symm.trans hsaved) hreal

end Ids

def userIds (credentials : Credentials) : Ids :=
  ⟨credentials.realUid, credentials.effectiveUid, credentials.savedUid⟩

def groupIds (credentials : Credentials) : Ids :=
  ⟨credentials.realGid, credentials.effectiveGid, credentials.savedGid⟩

/-- A process runs as a user and a group. -/
structure RunsAs (identity : ProcessIdentity) (credentials : Credentials) : Prop where
  user : credentials.userIds.Have identity.uid
  group : credentials.groupIds.Have identity.gid

structure Honours (identity : ProcessIdentity) (credentials : Credentials) : Prop where
  user : credentials.userIds.Honour identity.uid credentials.mayChange
  group : credentials.groupIds.Honour identity.gid credentials.mayChange

structure Agrees (credentials : Credentials) : Prop where
  user : credentials.userIds.Agree
  group : credentials.groupIds.Agree

/-! ## Requests -/

variable {identity : ProcessIdentity} {credentials taken : Credentials}

/-- A group is asked for first; nothing else is changed by that. -/
structure TakesGroup (gid : UInt32) (credentials taken : Credentials) : Prop where
  group : credentials.groupIds.Taken gid credentials.mayChange taken.groupIds
  user : taken.userIds = credentials.userIds
  mayChange : taken.mayChange = credentials.mayChange

structure TakesUser (uid : UInt32) (credentials taken : Credentials) : Prop where
  user : credentials.userIds.Taken uid credentials.mayChange taken.userIds
  group : taken.groupIds = credentials.groupIds

theorem takesGroup_of_setGid {gid : UInt32} (hreal : credentials.realGid ≠ gid)
    (h : credentials.setGid gid = .ok taken) : TakesGroup gid credentials taken := by
  unfold setGid at h
  split_ifs at h with hnone hchange hown <;> cases h
  · exact ⟨.changed hreal hchange, rfl, rfl⟩
  · exact ⟨.lent hreal (eq_false_of_ne_true hchange) (hown.resolve_left hreal.symm).symm, rfl, rfl⟩

theorem takesUser_of_setUid {uid : UInt32} (hreal : credentials.realUid ≠ uid)
    (h : credentials.setUid uid = .ok taken) : TakesUser uid credentials taken := by
  unfold setUid at h
  split_ifs at h with hnone hchange hown <;> cases h
  · exact ⟨.changed hreal hchange, rfl⟩
  · exact ⟨.lent hreal (eq_false_of_ne_true hchange) (hown.resolve_left hreal.symm).symm, rfl⟩

theorem takesUser_of_assume {uid : UInt32}
    (h : credentials.assume (ProcessSpec.wanted (some uid) credentials.realUid) none = .ok taken) :
    TakesUser uid credentials taken := by
  by_cases hreal : credentials.realUid = uid
  · rw [hreal, ProcessSpec.wanted_self] at h
    cases h
    exact ⟨.kept hreal, rfl⟩
  · rw [ProcessSpec.wanted_of_ne hreal] at h
    exact takesUser_of_setUid hreal h

/-- What becomes of the ids of a process that asks for a user and a group. -/
structure Takes (identity : ProcessIdentity) (credentials taken : Credentials) : Prop where
  user : credentials.userIds.Taken identity.uid credentials.mayChange taken.userIds
  group : credentials.groupIds.Taken identity.gid credentials.mayChange taken.groupIds

theorem takes_of_assume
    (h : credentials.assume (ProcessSpec.wanted (some identity.uid) credentials.realUid)
      (ProcessSpec.wanted (some identity.gid) credentials.realGid) = .ok taken) :
    Takes identity credentials taken := by
  by_cases hreal : credentials.realGid = identity.gid
  · rw [hreal, ProcessSpec.wanted_self] at h
    obtain ⟨huser, hgroup⟩ := takesUser_of_assume h
    exact ⟨huser, by rw [hgroup]; exact .kept hreal⟩
  · rw [ProcessSpec.wanted_of_ne hreal] at h
    cases hset : credentials.setGid identity.gid with
    | error refusal =>
      simp only [assume, hset] at h
      cases h
    | ok grouped =>
      obtain ⟨hgroup, hsame, hchange⟩ := takesGroup_of_setGid hreal hset
      simp only [assume, hset] at h
      have hrealUid : credentials.realUid = grouped.realUid := congrArg Ids.real hsame.symm
      rw [hrealUid] at h
      obtain ⟨huser, hkept⟩ := takesUser_of_assume h
      exact ⟨hsame ▸ hchange ▸ huser, hkept ▸ hgroup⟩

/-- A process runs as whom it is asked to exactly if both requests are honoured. -/
theorem Takes.runsAs_iff (h : Takes identity credentials taken) :
    taken.RunsAs identity ↔ credentials.Honours identity :=
  ⟨fun hruns ↦ ⟨h.user.have_iff.mp hruns.user, h.group.have_iff.mp hruns.group⟩,
    fun hhonours ↦ ⟨h.user.have_iff.mpr hhonours.user, h.group.have_iff.mpr hhonours.group⟩⟩

theorem Takes.honours_of_agrees (h : Takes identity credentials taken) (hagrees : credentials.Agrees) :
    credentials.Honours identity :=
  ⟨h.user.honour_of_agree hagrees.user, h.group.honour_of_agree hagrees.group⟩

/-- Starting a program changes nothing of whom it runs as. -/
theorem runsAs_execute : credentials.execute.RunsAs identity ↔ credentials.RunsAs identity :=
  ⟨fun h ↦ ⟨⟨h.user.real, h.user.effective⟩, ⟨h.group.real, h.group.effective⟩⟩,
    fun h ↦ ⟨⟨h.user.real, h.user.effective⟩, ⟨h.group.real, h.group.effective⟩⟩⟩

end Credentials

/-! ## Programs -/

namespace Execution

variable {who : Host.Accessor} {credentials : Credentials} {spec : ProcessSpec} {host : Host}
  {program : Readied} {failure : Failure}

/-- What keeps a process from being launched is the lack of a program, or a text that no kernel takes. -/
theorem failure_of_launch? (h : spec.launch? credentials = .error failure) :
    failure = .config "process has no arguments" ∨
      ∃ name cause, failure = ProcessSpec.execFailure name cause := by
  unfold ProcessSpec.launch? at h
  cases hargs : spec.args with
  | nil =>
    rw [hargs] at h
    cases h
    exact .inl rfl
  | cons name arguments =>
    simp only [hargs] at h
    split_ifs at h
    cases h
    exact .inr ⟨name, _, rfl⟩

theorem ids_of_launch? {launch : Launch} (h : spec.launch? credentials = .ok launch) :
    launch.uid = ProcessSpec.wanted spec.uid credentials.realUid ∧
      launch.gid = ProcessSpec.wanted spec.gid credentials.realGid := by
  unfold ProcessSpec.launch? at h
  cases hargs : spec.args with
  | nil =>
    rw [hargs] at h
    cases h
  | cons name arguments =>
    simp only [hargs] at h
    split_ifs at h
    cases h
    exact ⟨rfl, rfl⟩

theorem ofSpec_of_launch {launch : Launch} (h : spec.launch? credentials = .ok launch) :
    ofSpec who credentials spec host = (become who credentials launch host).mapError fun errno ↦
      ProcessSpec.execFailure launch.program (.errno errno) := by
  simp only [ofSpec, h, bind, Except.bind]
  cases become who credentials launch host <;> rfl

theorem failure_of_ofSpec (h : ofSpec who credentials spec host = .error failure) :
    failure = .config "process has no arguments" ∨
      ∃ name cause, failure = ProcessSpec.execFailure name cause := by
  cases hlaunch : spec.launch? credentials with
  | error other =>
    simp only [ofSpec, hlaunch] at h
    cases h
    exact failure_of_launch? hlaunch
  | ok launch =>
    rw [ofSpec_of_launch hlaunch] at h
    cases hbecome : become who credentials launch host with
    | ok program =>
      rw [hbecome] at h
      cases h
    | error errno =>
      rw [hbecome] at h
      cases h
      exact .inr ⟨_, _, rfl⟩

/-- The program starts under the ids that the process was granted. -/
theorem assume_of_become {launch : Launch} (h : become who credentials launch host = .ok program) :
    ∃ taken, credentials.assume launch.uid launch.gid = .ok taken ∧
      program.task.who.identity = ⟨taken.effectiveUid, taken.effectiveGid⟩ := by
  unfold become at h
  cases hassume : credentials.assume launch.uid launch.gid with
  | error refusal =>
    simp only [hassume] at h
    cases h
  | ok taken =>
    refine ⟨taken, rfl, ?_⟩
    simp only [hassume, pure_bind] at h
    cases hdirectory : launch.directory with
    | none =>
      rw [hdirectory] at h
      obtain ⟨image, -, h⟩ := Host.bind_ok_iff.mp h
      cases h
      rfl
    | some path =>
      rw [hdirectory] at h
      obtain ⟨directory, -, h⟩ := Host.bind_ok_iff.mp h
      obtain ⟨image, -, h⟩ := Host.bind_ok_iff.mp h
      cases h
      rfl

/-- The program of a process starts as `ProcessSpec.startedAs` says. -/
theorem startedAs_of_ofSpec (h : ofSpec who credentials spec host = .ok program) :
    ∃ started, spec.startedAs credentials = .ok started ∧
      program.task.who.identity = ⟨started.effectiveUid, started.effectiveGid⟩ := by
  cases hlaunch : spec.launch? credentials with
  | error other =>
    simp only [ofSpec, hlaunch] at h
    cases h
  | ok launch =>
    rw [ofSpec_of_launch hlaunch] at h
    cases hbecome : become who credentials launch host with
    | error errno =>
      rw [hbecome] at h
      cases h
    | ok other =>
      rw [hbecome] at h
      cases h
      obtain ⟨huid, hgid⟩ := ids_of_launch? hlaunch
      obtain ⟨taken, htaken, hwho⟩ := assume_of_become hbecome
      rw [huid, hgid] at htaken
      exact ⟨taken.execute, by rw [ProcessSpec.startedAs, htaken]; rfl, hwho⟩

end Execution

/-! ## Engines -/

/-- Whom an engine is asked to run its program as. -/
def Engine.requested? : Engine → Option ProcessIdentity
  | .standard _ identity => identity
  | .oci config => (config.spec.bind (·.process)).map fun process ↦ ⟨process.user.uid, process.user.gid⟩
  | .imageBuild _ => none

/-- The process that an engine starts asks for the identity that the engine was asked for. -/
theorem Engine.asks_of_start {engine : Engine} {control : Engine.ControlRead} {spec : ProcessSpec}
    {identity : ProcessIdentity} (hstart : engine.start control = .ok (.run spec))
    (hrequested : engine.requested? = some identity) :
    spec.uid = some identity.uid ∧ spec.gid = some identity.gid := by
  have hreleased := released_of_start hstart
  cases engine with
  | standard config requested =>
    cases hrequested
    cases hreleased
    exact ⟨rfl, rfl⟩
  | oci config =>
    obtain ⟨process, hprocess, rfl⟩ := Option.map_eq_some_iff.mp hrequested
    simp only [released, OciConfig.process, hprocess] at hreleased
    cases hreleased
    exact ⟨rfl, rfl⟩
  | imageBuild config => cases hrequested

/-- What becomes of a program that is to run as a user and a group, whoever starts it. -/
structure ProcessSpec.StartLaws (identity : ProcessIdentity) (spec : ProcessSpec) : Prop where
  /-- Whatever keeps the program from running is told. -/
  refused : ∀ {who credentials host failure},
    Execution.ofSpec who credentials spec host = .error failure →
      failure = .config "process has no arguments" ∨ ∃ name cause, failure = execFailure name cause
  /-- A program that runs has the ids that the kernel has granted. -/
  started : ∀ {who credentials host program}, Execution.ofSpec who credentials spec host = .ok program →
    ∃ started, spec.startedAs credentials = .ok started ∧
      program.task.who.identity = ⟨started.effectiveUid, started.effectiveGid⟩ ∧
      (started.RunsAs identity ↔ credentials.Honours identity) ∧
      (credentials.Agrees → started.RunsAs identity)

/-- A program runs as requested if and only if the process that starts it honours the request, which a process
whose ids agree does. -/
theorem Engine.starts_as_requested_iff {engine : Engine} {control : Engine.ControlRead} {spec : ProcessSpec}
    {identity : ProcessIdentity} (hstart : engine.start control = .ok (.run spec))
    (hrequested : engine.requested? = some identity) : spec.StartLaws identity := by
  obtain ⟨huid, hgid⟩ := asks_of_start hstart hrequested
  refine ⟨Execution.failure_of_ofSpec, fun {who credentials host program} hprogram ↦ ?_⟩
  obtain ⟨started, hstarted, hwho⟩ := Execution.startedAs_of_ofSpec hprogram
  have hgranted := hstarted
  rw [ProcessSpec.startedAs, huid, hgid] at hgranted
  cases hassume : credentials.assume (ProcessSpec.wanted (some identity.uid) credentials.realUid)
      (ProcessSpec.wanted (some identity.gid) credentials.realGid) with
  | error refusal =>
    rw [hassume] at hgranted
    cases hgranted
  | ok taken =>
    rw [hassume] at hgranted
    cases hgranted
    have htakes := Credentials.takes_of_assume hassume
    have hiff : taken.execute.RunsAs identity ↔ credentials.Honours identity :=
      Credentials.runsAs_execute.trans htakes.runsAs_iff
    exact ⟨taken.execute, hstarted, hwho, hiff, fun hagrees ↦ hiff.mpr (htakes.honours_of_agrees hagrees)⟩

/-- An engine that is asked to run a tool as somebody. -/
def Engine.running (identity : ProcessIdentity) : Engine :=
  .standard { StandardConfig.empty with args := ["/true"] } (some identity)

def ProcessSpec.running (identity : ProcessIdentity) : ProcessSpec :=
  ⟨["/true"], [], none, some identity.uid, some identity.gid⟩

theorem Engine.running_starts_as_requested_iff :
    (running ⟨1000, 1000⟩).start (.ok [goByte]) = .ok (.run (.running ⟨1000, 1000⟩)) ∧
      (running ⟨1000, 1000⟩).requested? = some ⟨1000, 1000⟩ ∧
      (ProcessSpec.running ⟨1000, 1000⟩).StartLaws ⟨1000, 1000⟩ :=
  have hstart : (running ⟨1000, 1000⟩).start (.ok [goByte]) = .ok (.run (.running ⟨1000, 1000⟩)) := rfl
  have hrequested : (running ⟨1000, 1000⟩).requested? = some ⟨1000, 1000⟩ := rfl
  ⟨hstart, hrequested, starts_as_requested_iff hstart hrequested⟩

/-- A supervisor that belongs to the superuser, and that user 1000 has started. -/
def Credentials.ofSetUidRoot : Credentials := ⟨1000, 0, 0, 1000, 1000, 1000, true⟩

/-- A host with nothing but a tool. -/
def Host.equipped : Host :=
  { Host.initial with
    tree := ⟨[([], ⟨Host.owned 0o755, .directory⟩), (["true"], ⟨Host.owned 0o755, .tool "true"⟩)]⟩
    place := ⟨[], 0o022⟩ }

theorem Host.find_equipped :
    Lookup.find equipped.tree ⟨0, 1000⟩ [] true "/true" = .ok (["true"], ⟨owned 0o755, .tool "true"⟩) := by
  have hsteps : Lookup.steps "/true" = ["true"] := by decide
  have hroot : equipped.tree.node? [] = some ⟨owned 0o755, .directory⟩ := rfl
  have htool : equipped.tree.node? ["true"] = some ⟨owned 0o755, .tool "true"⟩ := rfl
  have hwalk :
      Lookup.walk equipped.tree ⟨0, 1000⟩ true Lookup.maximalLinks [] ["true"] = .ok (.present ["true"]) := by
    rw [Lookup.walk, hroot]
    simp only [List.nil_append, htool, Lookup.walk]
    rfl
  have hlocate : Lookup.locate equipped.tree ⟨0, 1000⟩ [] true "/true" = .ok (.present ["true"]) := by
    rw [Lookup.locate, hsteps]
    exact hwalk
  exact Lookup.find_eq_ok_iff.mpr ⟨hlocate, htool⟩

theorem ProgramImage.ofProgram_equipped :
    ofProgram ⟨⟨0, 1000⟩, ⟨[], 0o022⟩⟩ Host.equipped none "/true" [] =
      .ok ⟨"true", "/true", []⟩ := by
  have hload : ofFile ⟨⟨0, 1000⟩, ⟨[], 0o022⟩⟩ Host.equipped "/true" "/true" [] =
      .ok ⟨"true", "/true", []⟩ := by
    simp only [ofFile, maximalNesting, load, Host.find_equipped]
    rfl
  simp only [ofProgram, ofFileOrScript, hload]
  rfl

/-- That tool, ready to run as the superuser. -/
def Readied.privileged : Readied :=
  ⟨⟨"true", "/true", []⟩, ⟨⟨⟨0, 1000⟩, ⟨[], 0o022⟩⟩, Task.usualStreams, [], Execution.childPid⟩⟩

theorem Execution.ofSpec_equipped :
    ofSpec ⟨⟨0, 1000⟩, ⟨[], 0o022⟩⟩ .ofSetUidRoot (.running ⟨1000, 1000⟩) .equipped = .ok .privileged := by
  have hlaunch : (ProcessSpec.running ⟨1000, 1000⟩).launch? .ofSetUidRoot =
      .ok ⟨"/true", [], [], none, none, none⟩ := rfl
  have hassume : Credentials.ofSetUidRoot.assume none none = .ok .ofSetUidRoot := rfl
  have hbecome : become ⟨⟨0, 1000⟩, ⟨[], 0o022⟩⟩ .ofSetUidRoot ⟨"/true", [], [], none, none, none⟩ .equipped =
      .ok .privileged := by
    simp only [become, hassume, pure_bind]
    exact Host.bind_ok_iff.mpr ⟨_, ProgramImage.ofProgram_equipped, rfl⟩
  rw [ofSpec_of_launch hlaunch, hbecome]
  rfl

/-- A user asks for a tool to run as that user, and it runs as the superuser. -/
theorem Engine.running_starts_privileged :
    (running ⟨1000, 1000⟩).start (.ok [goByte]) = .ok (.run (.running ⟨1000, 1000⟩)) ∧
      (running ⟨1000, 1000⟩).requested? = some ⟨1000, 1000⟩ ∧
      ∃ program started,
        Execution.ofSpec ⟨⟨0, 1000⟩, ⟨[], 0o022⟩⟩ .ofSetUidRoot (.running ⟨1000, 1000⟩) .equipped = .ok program ∧
          (ProcessSpec.running ⟨1000, 1000⟩).startedAs .ofSetUidRoot = .ok started ∧
          program.task.who.identity.uid = 0 ∧ started.effectiveUid = 0 ∧ ¬started.RunsAs ⟨1000, 1000⟩ := by
  refine ⟨rfl, rfl, .privileged, .ofSetUidRoot, Execution.ofSpec_equipped, rfl, rfl, rfl, fun hruns ↦ ?_⟩
  exact absurd hruns.user.effective (by decide)

end ContainerConstruction
