import ContainerConstruction.Host.Execution
import ContainerConstruction.Proofs.Program.Run
import Mathlib.Data.List.Sublists

/-!
# The outcome of a build

A section is selected if the first entry that is decisive for it is not `none`.  `BuildConfig.PostDue` and
`BuildConfig.TestDue` say which scripts a build is to run; it runs them in order up to the first failure.

What scripts come to is left open: the program of a build makes two kinds of calls, to start a process and wait
for it, and to report a failure.  `ScriptRun.events` says which process is started for a script, and with which
environment.  Whatever is answered, `OutcomeLaws` holds of the scripts that were run.  A build on a host is this
program, with its processes started there; while one of them goes on, so does the build.
-/

namespace ContainerConstruction

namespace BuildConfig

/-! ## Sections -/

/-- An entry says whether a section is selected. -/
def IsDecisive (name entry : String) : Prop := entry = "none" ∨ entry = "all" ∨ entry = name

instance (name : String) : DecidablePred (IsDecisive name) := fun _ ↦ inferInstanceAs (Decidable (_ ∨ _))

/-- An entry is the first one that is decisive for a section. -/
structure Decides (name : String) (sections : List String) (entry : String) : Prop where
  decisive : IsDecisive name entry
  first : ∃ earlier later, sections = earlier ++ entry :: later ∧ ∀ other ∈ earlier, ¬IsDecisive name other

/-- A section is selected by the first entry that is decisive for it, unless that is `none`. -/
def Selected (name : String) (sections : List String) : Prop :=
  ∃ entry, Decides name sections entry ∧ entry ≠ "none"

/-- The deciding entry is the first decisive one. -/
theorem decides_iff {name entry : String} {sections : List String} :
    Decides name sections entry ↔ sections.find? (IsDecisive name ·) = some entry := by
  rw [List.find?_eq_some_iff_append]
  constructor
  · rintro ⟨hdecisive, earlier, later, hsections, hearlier⟩
    exact ⟨decide_eq_true hdecisive, earlier, later, hsections, fun other hother ↦ by simp [hearlier other hother]⟩
  · rintro ⟨hdecisive, earlier, later, hsections, hearlier⟩
    exact ⟨of_decide_eq_true hdecisive, earlier, later, hsections,
      fun other hother ↦ by simpa using hearlier other hother⟩

theorem selects_eq (name : String) (sections : List String) :
    selects name sections = (sections.find? (IsDecisive name ·)).any (· ≠ "none") := by
  induction sections with
  | nil => rfl
  | cons entry rest ih =>
    rw [selects, List.find?_cons]
    by_cases hnone : entry = "none"
    · simp [hnone, IsDecisive]
    by_cases hown : entry = "all" ∨ entry = name
    · simp [hnone, hown, IsDecisive]
    · simp [hnone, hown, IsDecisive, ih]

/-- A section is selected as `Selected` says. -/
theorem selects_iff {name : String} {sections : List String} :
    selects name sections = true ↔ Selected name sections := by
  simp [selects_eq, Selected, decides_iff, Option.any_eq_true]

/-- No other entry makes a difference. -/
theorem selects_congr {name : String} {sections others : List String}
    (h : ∀ entry, Decides name others entry ↔ Decides name sections entry) :
    selects name others = selects name sections := by
  have hfind : others.find? (IsDecisive name ·) = sections.find? (IsDecisive name ·) :=
    Option.ext fun entry ↦ by rw [← decides_iff, ← decides_iff, h]
  rw [selects_eq, selects_eq, hfind]

/-! ## Scripts -/

/-- A build has something to run after it has made its root. -/
structure PostDue (config : BuildConfig) (script : String) : Prop where
  selected : Selected "post" config.sections
  given : config.post = some script
  shown : ∃ c ∈ script.toList, Text.isBlank c = false

/-- A build has something to test it with. -/
structure TestDue (config : BuildConfig) (script : String) : Prop where
  selected : Selected "test" config.sections
  enabled : config.noTest = false
  given : config.test = some script
  shown : ∃ c ∈ script.toList, Text.isBlank c = false

theorem nonBlank_eq_some_iff {given : Option String} {script : String} :
    nonBlank given = some script ↔ given = some script ∧ ∃ c ∈ script.toList, Text.isBlank c = false := by
  simp [nonBlank, Option.filter_eq_some_iff, Text.isAllBlank]

def postScript (config : BuildConfig) : Option String :=
  if config.runsSection "post" then nonBlank config.post else none

def testScript (config : BuildConfig) : Option String :=
  if config.runsSection "test" && !config.noTest then nonBlank config.test else none

theorem scripts_eq (config : BuildConfig) : config.scripts =
    config.postScript.toList.map ("post", ·) ++ config.testScript.toList.map ("test", ·) := rfl

theorem postScript_eq_some_iff {config : BuildConfig} {script : String} :
    config.postScript = some script ↔ PostDue config script := by
  rw [postScript, Option.ite_none_right_eq_some, nonBlank_eq_some_iff, runsSection, selects_iff]
  exact ⟨fun ⟨hselected, hgiven, hshown⟩ ↦ ⟨hselected, hgiven, hshown⟩,
    fun ⟨hselected, hgiven, hshown⟩ ↦ ⟨hselected, hgiven, hshown⟩⟩

theorem testScript_eq_some_iff {config : BuildConfig} {script : String} :
    config.testScript = some script ↔ TestDue config script := by
  rw [testScript, Option.ite_none_right_eq_some, nonBlank_eq_some_iff, Bool.and_eq_true, Bool.not_eq_true',
    runsSection, selects_iff]
  exact ⟨fun ⟨⟨hselected, henabled⟩, hgiven, hshown⟩ ↦ ⟨hselected, henabled, hgiven, hshown⟩,
    fun ⟨hselected, henabled, hgiven, hshown⟩ ↦ ⟨⟨hselected, henabled⟩, hgiven, hshown⟩⟩

/-! ## Runs -/

/-- What a build asks for. -/
inductive StageCall where
  /-- Starts a process, and waits for its end. -/
  | start (launch : Launch)
  | report (failure : Failure)
  deriving DecidableEq, Repr

/-- A process cannot be started, or it ends in some way. -/
abbrev Stages : Interface where
  Call := StageCall
  Answer
    | .start _ => Except IoCause ExitStatus
    | .report _ => Unit

/-- The program of a build. -/
def stages (config : BuildConfig) : Program Stages Nat :=
  Execution.runSections (fun launch ↦ Program.ask (I := Stages) (.start launch))
    (fun failure ↦ Program.ask (I := Stages) (.report failure)) config

/-- A script that was run, and what became of its process. -/
structure ScriptRun where
  name : String
  script : String
  ended : Except IoCause ExitStatus

namespace ScriptRun

/-- Its process was started, and has ended with status zero. -/
def Succeeded (run : ScriptRun) : Prop := run.ended = .ok (.exited 0)

/-- The calls of running a script in an environment: the shell is started on it, and a failure is reported at
once. -/
def events (environment : List (String × String)) (run : ScriptRun) : List (Event Stages) :=
  ⟨.start ⟨"/bin/sh", ["-e", "-c", run.script], environment, none, none, none⟩, run.ended⟩ ::
    match scriptResult run.name run.ended with
    | .ok _ => []
    | .error failure => [⟨.report failure, ()⟩]

end ScriptRun

theorem scriptResult_eq_ok_iff {name : String} {ended : Except IoCause ExitStatus} :
    scriptResult name ended = .ok () ↔ ended = .ok (.exited 0) := by
  cases ended with
  | error cause => exact ⟨nofun, nofun⟩
  | ok status => cases status <;> simp [scriptResult, ExitStatus.isSuccess]

/-- Scripts are run in order up to the first failure, which decides the exit code. -/
inductive Passes : List (String × String) → List ScriptRun → Nat → Prop where
  | nil : Passes [] [] 0
  | passed {name script : String} {rest : List (String × String)} {runs : List ScriptRun} {code : Nat}
      (hrest : Passes rest runs code) :
      Passes ((name, script) :: rest) (⟨name, script, .ok (.exited 0)⟩ :: runs) code
  | failed {name script : String} (rest : List (String × String)) {ended : Except IoCause ExitStatus}
      (hended : ended ≠ .ok (.exited 0)) :
      Passes ((name, script) :: rest) [⟨name, script, ended⟩] failureExitCode

/-- By induction on the scripts; the case of one is what became of its process. -/
theorem yields_runInOrder (config : BuildConfig) (scripts : List (String × String)) :
    (runInOrder (Execution.runScript (fun launch ↦ Program.ask (I := Stages) (.start launch)) config)
      (fun failure ↦ Program.ask (I := Stages) (.report failure)) scripts).Yields
        fun events code ↦ ∃ runs,
          events = runs.flatMap (ScriptRun.events (Execution.buildVariables config)) ∧
            Passes scripts runs code := by
  induction scripts with
  | nil => exact Program.yields_done ⟨[], rfl, .nil⟩
  | cons first rest ih =>
    obtain ⟨name, script⟩ := first
    refine Program.yields_call fun ended ↦ ?_
    change Except IoCause ExitStatus at ended
    change Program.Yields (Program.bind (.done (scriptResult name ended)) _) _
    cases hresult : scriptResult name ended with
    | ok value =>
      obtain rfl := scriptResult_eq_ok_iff.mp hresult
      refine ih.mono ?_
      rintro events code ⟨runs, rfl, hpasses⟩
      exact ⟨_, rfl, .passed hpasses⟩
    | error failure =>
      have hended : ended ≠ .ok (.exited 0) := by
        rintro rfl
        cases hresult
      refine Program.yields_call fun _ ↦ Program.yields_done ⟨_, ?_, .failed rest hended⟩
      rw [List.flatMap_singleton, ScriptRun.events, hresult]
      rfl

namespace Passes

variable {scripts : List (String × String)} {runs : List ScriptRun} {code : Nat}

/-- The exit code tells whether every script that was run has succeeded. -/
theorem code_eq (h : Passes scripts runs code) :
    code = 0 ∧ (∀ run ∈ runs, run.Succeeded) ∨ code = failureExitCode ∧ ∃ run ∈ runs, ¬run.Succeeded := by
  induction h with
  | nil => exact .inl ⟨rfl, List.forall_mem_nil _⟩
  | passed hrest ih => simpa [ScriptRun.Succeeded] using ih
  | failed rest hended => exact .inr ⟨rfl, _, List.mem_cons_self, hended⟩

/-- Scripts are run after those before them, if these have all succeeded. -/
theorem of_append {first second : List (String × String)} (h : Passes (first ++ second) runs code) :
    (∃ earlier later, runs = earlier ++ later ∧ Passes first earlier 0 ∧ (∀ run ∈ earlier, run.Succeeded) ∧
      Passes second later code) ∨
    Passes first runs code ∧ ∃ run ∈ runs, ¬run.Succeeded := by
  induction first generalizing runs with
  | nil => exact .inl ⟨[], runs, rfl, .nil, List.forall_mem_nil _, h⟩
  | cons script rest ih =>
    cases h with
    | failed _ hended => exact .inr ⟨.failed rest hended, _, List.mem_cons_self, hended⟩
    | passed hrest =>
      obtain ⟨earlier, later, rfl, hearlier, hok, hlater⟩ | ⟨hruns, hfailed⟩ := ih hrest
      · exact .inl ⟨_ :: earlier, later, rfl, .passed hearlier, List.forall_mem_cons.mpr ⟨rfl, hok⟩, hlater⟩
      · obtain ⟨run, hrun, hfailed⟩ := hfailed
        exact .inr ⟨.passed hruns, run, List.mem_cons_of_mem _ hrun, hfailed⟩

/-- What is run of a single section. -/
structure OfSection (name : String) (given : Option String) (runs : List ScriptRun) : Prop where
  names : (runs.map (·.name)).Sublist [name]
  ran_iff (script : String) : (∃ ended, ⟨name, script, ended⟩ ∈ runs) ↔ given = some script

theorem ofSection {name : String} {given : Option String} (h : Passes (given.toList.map (name, ·)) runs code) :
    OfSection name given runs := by
  cases given with
  | none =>
    cases h
    exact ⟨List.nil_sublist _, by simp⟩
  | some script =>
    cases h with
    | failed rest hended => exact ⟨.refl _, fun other ↦ by simp [eq_comm]⟩
    | passed hrest =>
      cases hrest
      exact ⟨.refl _, fun other ↦ by simp [eq_comm]⟩

theorem OfSection.name_eq {name : String} {given : Option String} (h : OfSection name given runs) :
    ∀ run ∈ runs, run.name = name :=
  fun _ hrun ↦ List.mem_singleton.mp (h.names.subset (List.mem_map_of_mem hrun))

end Passes

/-- What was run of a build, and the exit code. -/
structure OutcomeLaws (config : BuildConfig) (runs : List ScriptRun) (code : Nat) : Prop where
  /-- Nothing but the two scripts is run, each at most once and in this order. -/
  ordered : (runs.map (·.name)).Sublist ["post", "test"]
  post (script : String) : (∃ ended, ⟨"post", script, ended⟩ ∈ runs) ↔ PostDue config script
  test (script : String) : (∃ ended, ⟨"test", script, ended⟩ ∈ runs) ↔
    TestDue config script ∧ ∀ run ∈ runs, run.name = "post" → run.Succeeded
  succeeded : code = 0 ↔ ∀ run ∈ runs, run.Succeeded
  failed : code ≠ 0 → code = 255

theorem outcomeLaws_of_passes {config : BuildConfig} {runs : List ScriptRun} {code : Nat}
    (h : Passes config.scripts runs code) : OutcomeLaws config runs code := by
  have hcode : (code = 0 ↔ ∀ run ∈ runs, run.Succeeded) ∧ (code ≠ 0 → code = 255) := by
    obtain ⟨rfl, hok⟩ | ⟨rfl, run, hrun, hfailed⟩ := h.code_eq
    · exact ⟨iff_of_true rfl hok, fun hne ↦ absurd rfl hne⟩
    · exact ⟨iff_of_false nofun fun hok ↦ hfailed (hok run hrun), fun _ ↦ rfl⟩
  rw [scripts_eq] at h
  obtain ⟨earlier, later, rfl, hearlier, hok, hlater⟩ | ⟨hruns, failing, hfailing, hfailed⟩ := h.of_append
  · -- The first script, if there is one, has succeeded, so the second is run in any case.
    have hpost := hearlier.ofSection
    have htest := hlater.ofSection
    have hnotPost : ∀ run ∈ later, run.name ≠ "post" := fun run hrun hname ↦
      absurd (hname.symm.trans (htest.name_eq run hrun)) (by decide)
    have hnotTest : ∀ run ∈ earlier, run.name ≠ "test" := fun run hrun hname ↦
      absurd (hname.symm.trans (hpost.name_eq run hrun)) (by decide)
    exact {
      ordered := by
        rw [List.map_append]
        exact hpost.names.append htest.names
      post := by
        intro script
        rw [← postScript_eq_some_iff, ← hpost.ran_iff]
        exact ⟨fun ⟨result, hrun⟩ ↦
          ⟨result, (List.mem_append.mp hrun).resolve_right fun hlate ↦ hnotPost _ hlate rfl⟩,
          fun ⟨result, hrun⟩ ↦ ⟨result, List.mem_append_left _ hrun⟩⟩
      test := by
        intro script
        rw [← testScript_eq_some_iff, ← htest.ran_iff]
        refine ⟨fun ⟨result, hrun⟩ ↦ ⟨⟨result, ?_⟩, fun run hmem hname ↦ ?_⟩,
          fun ⟨⟨result, hrun⟩, _⟩ ↦ ⟨result, List.mem_append_right _ hrun⟩⟩
        · exact (List.mem_append.mp hrun).resolve_left fun hearly ↦ hnotTest _ hearly rfl
        · exact hok run ((List.mem_append.mp hmem).resolve_right fun hlate ↦ hnotPost run hlate hname)
      succeeded := hcode.1
      failed := hcode.2 }
  · -- The first script has failed, and it is all that was run.
    have hpost := hruns.ofSection
    exact {
      ordered := hpost.names.trans (by decide)
      post := fun script ↦ by rw [← postScript_eq_some_iff, ← hpost.ran_iff]
      test := by
        intro script
        refine iff_of_false (fun ⟨result, hrun⟩ ↦ ?_) fun ⟨_, hok⟩ ↦
          hfailed (hok failing hfailing (hpost.name_eq failing hfailing))
        have hname : "test" = "post" := hpost.name_eq _ hrun
        exact absurd hname (by decide)
      succeeded := hcode.1
      failed := hcode.2 }

/-! ## On a host -/

/-- Answers the calls of a build on a host. -/
def answerOnHost (who : Host.Accessor) : (call : StageCall) → Execution.Waiting (Stages.Answer call)
  | .start launch => Execution.startAndWait who launch
  | .report failure => Execution.reportFailure failure

/-- A build on a host is its program, with its processes started there. -/
theorem interpret_stages (who : Host.Accessor) (config : BuildConfig) :
    config.stages.interpret (answerOnHost who) = Outcome.returned <$> Execution.runBuild who config := by
  unfold stages Execution.runBuild Execution.runSections runScripts
  induction config.scripts with
  | nil => rfl
  | cons first rest ih =>
    obtain ⟨name, script⟩ := first
    simp only [runInOrder, Execution.runScript, bind_assoc, pure_bind, map_bind,
      Program.interpret_ask_bind (I := Stages)]
    refine bind_congr fun ended ↦ ?_
    cases scriptResult name ended with
    | ok value => exact ih
    | error failure => rfl

section

open Execution

variable {who : Host.Accessor} {launch : Launch} {world after : World} {ending : Ending} {status : ExitStatus}

/-- A process that has ended was the program of its launch. -/
theorem startAndWait_eq_ok_iff : startAndWait who launch world = (.ok (.ok status), after) ↔
    launch.hasNul = false ∧ ∃ image ending,
      ProgramImage.ofFile who world.host launch.program launch.program launch.arguments = .ok image ∧
        run ⟨image, who, Task.usualStreams, launch.environment, childPid⟩ false world = ⟨ending, after⟩ ∧
          ending.exitStatus? = some status := by
  unfold startAndWait
  constructor
  · intro h
    split at h
    · cases h
    next hnul =>
    split at h
    · cases h
    next image himage =>
    dsimp only at h
    split at h
    next hstatus =>
      cases h
      exact ⟨by simpa using hnul, image, _, himage, rfl, hstatus⟩
    · cases h
  · rintro ⟨hnul, image, ending, himage, hrun, hstatus⟩
    simp only [hnul, himage, hrun, hstatus, Bool.false_eq_true, if_false]

/-- A process that is never done gives no exit status. -/
theorem exitStatus?_of_startAndWait (h : startAndWait who launch world = (.error ending, after)) :
    ending.exitStatus? = none := by
  unfold startAndWait at h
  split at h
  · cases h
  split at h
  · cases h
  dsimp only at h
  split at h
  · cases h
  next hstatus =>
    cases h
    exact hstatus

end

/-- What holds of a build, whatever its scripts come to. -/
structure BuildLaws (config : BuildConfig) : Prop where
  selected (name : String) : config.runsSection name = true ↔ Selected name config.sections
  /-- Only the first decisive entries make a difference. -/
  unaffected (sections : List String)
    (hpost : ∀ entry, Decides "post" sections entry ↔ Decides "post" config.sections entry)
    (htest : ∀ entry, Decides "test" sections entry ↔ Decides "test" config.sections entry) :
    stages { config with sections := sections } = config.stages ∧
      ∀ who, Execution.runBuild who { config with sections := sections } = Execution.runBuild who config
  /-- The processes that are started are those of the scripts that are due, each with the shell, its script and
  the environment of the build, and nothing else of the environment of the runtime. -/
  outcome : config.stages.Yields fun events code ↦ ∃ runs,
    events = runs.flatMap (ScriptRun.events (Environment.ofBindings (environment config.env))) ∧
      OutcomeLaws config runs code
  /-- On a host they are started there, one after the other. -/
  hosted (who : Host.Accessor) :
    config.stages.interpret (answerOnHost who) = Outcome.returned <$> Execution.runBuild who config
  /-- A process that has ended was the program of its launch, with the arguments and the environment of the
  launch; and one that goes on lets nothing come after it. -/
  started (who : Host.Accessor) (launch : Launch) (world after : World) :
    (∀ status, Execution.startAndWait who launch world = (.ok (.ok status), after) ↔
      launch.hasNul = false ∧ ∃ image ending,
        ProgramImage.ofFile who world.host launch.program launch.program launch.arguments = .ok image ∧
          Execution.run ⟨image, who, Task.usualStreams, launch.environment, Execution.childPid⟩ false world =
            ⟨ending, after⟩ ∧ ending.exitStatus? = some status) ∧
      ∀ ending, Execution.startAndWait who launch world = (.error ending, after) → ending.exitStatus? = none

theorem build_outcome (config : BuildConfig) : BuildLaws config where
  selected name := selects_iff
  unaffected sections hpost htest := by
    have hscripts : scripts { config with sections := sections } = config.scripts := by
      simp only [scripts, runsSection, selects_congr hpost, selects_congr htest]
      rfl
    refine ⟨?_, fun who ↦ ?_⟩
    · rw [stages, stages, Execution.runSections, Execution.runSections, runScripts, runScripts, hscripts]
      rfl
    · rw [Execution.runBuild, Execution.runBuild, Execution.runSections, Execution.runSections, runScripts,
        runScripts, hscripts]
      rfl
  outcome := (yields_runInOrder config config.scripts).mono fun _ _ ⟨runs, hevents, hpasses⟩ ↦
    ⟨runs, hevents, outcomeLaws_of_passes hpasses⟩
  hosted who := interpret_stages who config
  started who launch world after :=
    ⟨fun _ ↦ startAndWait_eq_ok_iff, fun _ ↦ exitStatus?_of_startAndWait⟩

end BuildConfig

end ContainerConstruction
