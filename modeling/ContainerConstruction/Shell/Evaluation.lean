import ContainerConstruction.Host.ProgramImage
import ContainerConstruction.Host.Tools
import ContainerConstruction.Shell.Arithmetic
import ContainerConstruction.Shell.Builtin
import ContainerConstruction.Shell.Parameter
import ContainerConstruction.Shell.Redirect

/-!
# Running programs

`runImage` runs a program on a host to its end.  Most of the module is the shell, which runs further
programs.  Recursion is bounded by fuel; a program that uses it up does not come to an end.

The last program of a shell takes the shell's place.
-/

namespace ContainerConstruction.Shell

/-! ## Commands -/

/-- Assigns values to variables. -/
def assignAll (assignments : List (String × Word)) (scene : Scene) : Except String Scene :=
  assignments.foldlM (fun scene (name, word) ↦
    (expandText scene.state word).map fun value ↦
      { scene with state := scene.state.assign name value }) scene

/-- The status of a program that could not be run, with its diagnostic. -/
def missing (line : Nat) (name : String) (errno : Errno) (scene : Scene) : Nat × Scene :=
  if errno = .noEntry || errno = .notDirectory then (127, scene.complain line s!"{name}: not found")
  else (126, scene.complain line s!"{name}: {errno.text}")

def withoutFinalNewlines (text : String) : String :=
  String.ofList (text.toList.reverse.dropWhile (· = '\n')).reverse

/-- The number that a name stands for in an expression. -/
def numberOf (state : State) (name : String) : Int := ((state.value? name).bind String.toInt?).getD 0

/-! ## Programs -/

/-- What a shell is asked to do by its arguments. -/
structure Invocation where
  options : List String
  /-- The script, if it is among the arguments. -/
  script : Option String
  operands : List String

/-- Reads the arguments of a shell. -/
def invocation (options : List String) (hasScript : Bool) : List String → Invocation
  | [] => ⟨options, none, []⟩
  | argument :: rest =>
    match argument.toList with
    | '-' :: letter :: letters =>
      invocation (options ++ [argument]) (hasScript || (letter :: letters).contains 'c') rest
    | _ => if hasScript then ⟨options, some argument, rest⟩ else ⟨options, none, argument :: rest⟩

/-- Sets a variable of an environment, which keeps its place. -/
def setBinding (environment : List (String × String)) (binding : String × String) :
    List (String × String) :=
  if (environment.lookup binding.1).isSome then
    environment.map fun known ↦ if known.1 = binding.1 then binding else known
  else environment ++ [binding]

/-- The assignments in front of a command, and the command. -/
def leadingAssignments : List String → List (String × String) × List String
  | [] => ([], [])
  | text :: rest =>
    match splitEntry text with
    | some binding => let (bindings, command) := leadingAssignments rest; (binding :: bindings, command)
    | none => ([], text :: rest)

/-- What is left of a program that took the place of a shell. -/
def asFlow : Ending × Scene → Flow × Scene
  | (ending, scene) => (.stop ending, scene)

/-- Says that a signal has ended a program, unless that is nothing unusual. -/
def announceEnd (signal : Nat) (scene : Scene) : Scene :=
  if signal = Signal.interrupt || signal = Signal.brokenPipe then scene
  else
    let description := (Signal.descriptions[signal - 1]?).getD s!"Unknown signal {signal}"
    { scene with world := scene.state.task.say 2 (description ++ "\n") scene.world }

/-- The status that a program leaves, or how it ends everything. -/
def settleProgram : Ending × Scene → Flow × Scene
  | (.exited code, scene) => scene.next code
  | (.killed signal, scene) => (announceEnd signal scene).next (128 + signal)
  | (ending, scene) => (.stop ending, scene)

/-- Shows the values that are assigned and the words of a command. -/
def trace (assignments : List (String × String)) (words : List String) (streams : Scene) (scene : Scene) :
    Scene :=
  if scene.state.isTraced && !(assignments.isEmpty && words.isEmpty) then
    let shown := assignments.map (fun (name, value) ↦ s!"{name}={value}") ++ words
    { scene with world := streams.state.task.say 2 ("+ " ++ " ".intercalate shown ++ "\n") scene.world }
  else scene

/-! ## Evaluation -/

mutual

def runImage : (fuel : Nat) → ProgramImage → Task → (isObserved : Bool) → World → Ending × World
  | 0, _, _, _, world => (.endless, world)
  | fuel + 1, image, task, isObserved, world =>
    if image.tool = "sh" then runShell fuel image task isObserved world
    else if image.tool = "env" then
      let isBare := image.arguments.head? = some "-i"
      let (bindings, command) :=
        leadingAssignments (if isBare then image.arguments.drop 1 else image.arguments)
      let task := { task with
        environment := bindings.foldl setBinding (if isBare then [] else task.environment) }
      match command with
      | [] => Tools.run "env" [] task world
      | program :: arguments =>
        match ProgramImage.ofProgram task.who world.host (task.binding? "PATH") program arguments with
        | .ok image => runImage fuel image task isObserved world
        | .error errno =>
          (.exited (if errno = .noEntry then 127 else 126),
            Tools.complain "env" s!"'{program}': {errno.text}" task world)
    else Tools.run image.tool image.arguments task world

def runShell : (fuel : Nat) → ProgramImage → Task → (isObserved : Bool) → World → Ending × World
  | 0, _, _, _, world => (.endless, world)
  | fuel + 1, image, task, isObserved, world =>
    let given := invocation [] false image.arguments
    let (script, name, arguments, world) : Except Errno String × String × List String × World :=
      match given.script, given.operands with
      | some script, [] => (.ok script, image.name, [], world)
      | some script, name :: arguments => (.ok script, name, arguments, world)
      | none, path :: arguments =>
        ((world.host.readBytes task.who path).map Text.Utf8.toTextLossy, path, arguments, world)
      | none, [] =>
        let (bytes, world) := world.readAll (task.stream 0)
        (bytes.map Text.Utf8.toTextLossy, image.name, [], world)
    let scene : Scene :=
      announceTraps (setOptions ⟨State.ofTask task name arguments isObserved, world⟩ given.options)
    match script with
    | .error errno =>
      let scene := scene.complain 0 s!"cannot open {name}: {openErrorText false errno}"
      (.exited 2, scene.world)
    | .ok script =>
      match Command.ofScript? script with
      | none => (.exited 2, (scene.complain 1 "Syntax error").world)
      | some command =>
        finish fuel (evaluate fuel ⟨false, given.script.isSome⟩ command scene)

/-- Ends a shell: what is to be done at the end is done now. -/
def finish : (fuel : Nat) → Flow × Scene → Ending × World
  | 0, (_, scene) => (.endless, scene.world)
  | fuel + 1, (flow, scene) =>
    let ending := match flow with
      | .stop ending => ending
      | _ => .exited scene.state.status
    match ending, scene.state.traps.lookup 0 with
    | .exited code, some action =>
      let bare := setTraps none [0] (scene.withStatus code)
      match runText fuel action bare with
      | (.stop ending, scene) => (ending, scene.world)
      | (_, scene) => (.exited code, scene.world)
    | _, _ => (ending, scene.world)

/-- Runs the commands of a text in a shell. -/
def runText : (fuel : Nat) → String → Scene → Flow × Scene
  | 0, _, scene => (.stop .endless, scene)
  | fuel + 1, text, scene =>
    match Command.ofScript? text with
    | none => scene.abort 1 "Syntax error"
    | some command => evaluate fuel ⟨false, false⟩ command scene

/-- Reacts to signals, those with the lowest numbers first. -/
def runTraps : (fuel : Nat) → List Nat → Flow × Scene → Flow × Scene
  | 0, _, (_, scene) => (.stop .endless, scene)
  | _ + 1, [], result => result
  | fuel + 1, signal :: rest, (.next, scene) =>
    match scene.state.traps.lookup signal with
    | none => runTraps fuel rest (.next, scene)
    | some action =>
      match runText fuel action scene with
      | (.next, after) => runTraps fuel rest (after.next scene.state.status)
      | result => result
  | _ + 1, _, result => result

/-- Reacts to the signals that have come in the meantime. -/
def reactToSignals : (fuel : Nat) → Flow × Scene → Flow × Scene
  | 0, (_, scene) => (.stop .endless, scene)
  | fuel + 1, (.next, scene) =>
    let arrived := scene.state.pending ++ if scene.state.isObserved then scene.world.pending else []
    if arrived.isEmpty then (.next, scene)
    else
      let due := (List.range 65).filter arrived.contains
      let world :=
        if scene.state.isObserved then { scene.world with pending := [] } else scene.world
      runTraps fuel due (.next, ⟨{ scene.state with pending := [] }, world⟩)
  | _ + 1, result => result

/-- Runs a program that the shell has found. -/
def runProgram : (fuel : Nat) → Mode → ProgramImage → Scene → Flow × Scene
  | 0, _, _, scene => (.stop .endless, scene)
  | fuel + 1, mode, image, scene =>
    let takesPlace := mode.isFinal && scene.state.traps.isEmpty
    let (ending, world) := runImage fuel image scene.state.childTask
      (takesPlace && scene.state.isObserved) scene.world
    let scene := { scene with world := world }
    if takesPlace then asFlow (ending, scene) else settleProgram (ending, scene)

/-- Runs the commands of a script, and gives what they write. -/
def capture : (fuel : Nat) → String → Scene → String × Scene
  | 0, _, scene => ("", scene)
  | fuel + 1, script, scene =>
    match Command.ofScript? script with
    | none => ("", (scene.complain 1 "Syntax error").withStatus 2)
    | some command =>
      let (number, world) := scene.world.newQueue []
      let inner := { scene.state with task := scene.state.task.withStream 1 (.queue number) }
      let (ending, world) := runApart fuel false command ⟨inner, world⟩
      (withoutFinalNewlines (Text.Utf8.toTextLossy (world.queue number)),
        (settleProgram (ending, { scene with world := world })).2)

/-- The text of a word that stands in a text of its own. -/
def resolveText : (fuel : Nat) → Context → String → Scene → Except String String × Scene
  | 0, _, _, scene => (.ok "", scene)
  | fuel + 1, context, text, scene =>
    match wholeWord context text with
    | none => (.error "Bad substitution", scene)
    | some word =>
      match resolveWord fuel word scene with
      | (.error message, scene) => (.error message, scene)
      | (.ok word, scene) => (expandText scene.state word, scene)

/-- Carries out an operation on a parameter. -/
def runOperation : (fuel : Nat) → (name : String) → ParameterOperation → (emptyCounts : Bool) → (word : String) →
    (quoted : Bool) → Scene → Except String Word × Scene
  | 0, _, _, _, _, _, scene => (.ok [], scene)
  | fuel + 1, name, operation, emptyCounts, word, quoted, scene =>
    let value := scene.state.parameter? name
    let isAbsent := value.isNone || (emptyCounts && value = some "")
    let found : Word := [.value (value.getD "") quoted]
    let context : Context := if quoted then .document else .whole
    let alternative : Except String Word × Scene :=
      match wholeWord context word with
      | none => (.error "Bad substitution", scene)
      | some word => resolveWord fuel word scene
    match operation with
    | .fallback => if isAbsent then alternative else (.ok found, scene)
    | .instead => if isAbsent then (.ok [], scene) else alternative
    | .initial =>
      if !isAbsent then (.ok found, scene)
      else
        match resolveText fuel context word scene with
        | (.error message, scene) => (.error message, scene)
        | (.ok text, scene) =>
          (.ok [.value text quoted], { scene with state := scene.state.assign name text })
    | .required =>
      if !isAbsent then (.ok found, scene)
      else
        match resolveText fuel context word scene with
        | (.error message, scene) => (.error message, scene)
        | (.ok text, scene) => (.error (absenceMessage name emptyCounts text), scene)
    | .cutFront longest | .cutBack longest =>
      match scene.state.expandParameter name, wholeWord .whole word with
      | .error message, _ => (.error message, scene)
      | .ok _, none => (.error "Bad substitution", scene)
      | .ok text, some word =>
        match resolveWord fuel word scene with
        | (.error message, scene) => (.error message, scene)
        | (.ok word, scene) =>
          let cut (pattern : Pattern) : Word :=
            let rest := match operation with
              | .cutFront _ => pattern.cutFront longest text.toList
              | _ => pattern.cutBack longest text.toList
            [.value (String.ofList rest) quoted]
          ((expandPattern scene.state word).map cut, scene)

/-- Carries out what a piece of a word asks for, and leaves the value in its place. -/
def resolvePiece : (fuel : Nat) → Piece → Scene → Except String Word × Scene
  | 0, _, scene => (.ok [], scene)
  | fuel + 1, .substitution script quoted, scene =>
    let (text, scene) := capture fuel script scene
    (.ok [.value text quoted], scene)
  | fuel + 1, .arithmetic expression, scene =>
    match resolveText fuel .document expression scene with
    | (.error message, scene) => (.error message, scene)
    | (.ok text, scene) =>
      match Arithmetic.evaluate (numberOf scene.state) text with
      | .error defect => (.error (defect.message text), scene)
      | .ok value => (.ok [.value (toString value) true], scene)
  | fuel + 1, .operation name operation quoted, scene =>
    match operationOf? operation.toList with
    | none => (.error "Bad substitution", scene)
    | some (operation, emptyCounts, word) =>
      runOperation fuel name operation emptyCounts (String.ofList word) quoted scene
  | _ + 1, piece, scene => (.ok [piece], scene)

/-- Carries out what a word asks for. -/
def resolveWord : (fuel : Nat) → Word → Scene → Except String Word × Scene
  | 0, _, scene | _ + 1, [], scene => (.ok [], scene)
  | fuel + 1, piece :: rest, scene =>
    match resolvePiece fuel piece scene with
    | (.error message, scene) => (.error message, scene)
    | (.ok front, scene) =>
      let (back, scene) := resolveWord fuel rest scene
      (back.map (front ++ ·), scene)

def resolveWords : (fuel : Nat) → List Word → Scene → Except String (List Word) × Scene
  | 0, _, scene | _ + 1, [], scene => (.ok [], scene)
  | fuel + 1, word :: rest, scene =>
    match resolveWord fuel word scene with
    | (.error message, scene) => (.error message, scene)
    | (.ok first, scene) =>
      let (others, scene) := resolveWords fuel rest scene
      (others.map (first :: ·), scene)

def runFunction : (fuel : Nat) → Mode → Command → List String → Scene → Flow × Scene
  | 0, _, _, _, scene => (.stop .endless, scene)
  | fuel + 1, mode, body, arguments, scene =>
    let outer := scene.state
    let inner := { outer with arguments := arguments, hidden := [] }
    let settle (after : Scene) : Flow × Scene :=
      let state := after.state.hidden.foldl State.restore after.state
      let state := { state with arguments := outer.arguments, hidden := outer.hidden }
      (.next, { after with state := state })
    match evaluate fuel mode.inner body { scene with state := inner } with
    | (.next, after) | (.back, after) => settle after
    | result => result

/-- Runs the commands of a file in the shell itself. -/
def runFile : (fuel : Nat) → (line : Nat) → (path : String) → Scene → Flow × Scene
  | 0, _, _, scene => (.stop .endless, scene)
  | fuel + 1, line, path, scene =>
    match scene.world.host.readBytes scene.state.task.who path with
    | .error errno => scene.abort line s!".: cannot open {path}: {openErrorText false errno}"
    | .ok bytes =>
      match runText fuel (Text.Utf8.toTextLossy bytes) scene with
      | (.back, after) => (.next, after)
      | result => result

/-- Runs a command whose words have been expanded and whose redirections are in force. -/
def runWords : (fuel : Nat) → Mode → (line : Nat) → List String → Scene → Flow × Scene
  | 0, _, _, _, scene => (.stop .endless, scene)
  | _ + 1, _, _, [], scene => (.next, scene)
  | fuel + 1, mode, line, name :: arguments, scene =>
    let find (program : String) (arguments : List String) :=
      ProgramImage.ofProgram scene.state.task.who scene.world.host (scene.state.value? "PATH") program
        arguments
    let function := if specialCommands.contains name then none else scene.state.functions.lookup name
    if let some body := function then runFunction fuel mode body arguments scene
    else if name = "eval" then runText fuel (" ".intercalate arguments) scene
    else if name = "." then runFile fuel line (arguments.head?.getD "") scene
    else if name = "command" then
      let functions := scene.state.functions
      let bare := { scene with state := { scene.state with functions := [] } }
      let (flow, after) := runWords fuel mode line arguments bare
      (flow, { after with state := { after.state with functions := functions } })
    else if name = "exec" then
      match arguments with
      | [] => scene.next 0
      | program :: arguments =>
        match find program arguments with
        | .error errno =>
          let (status, scene) := missing line s!"exec: {program}" errno scene
          (.stop (.exited status), scene)
        | .ok image =>
          runProgram fuel ⟨false, true⟩ image (setTraps none (scene.state.traps.map (·.1)) scene)
    else
      match runBuiltin line name arguments scene with
      | some result => result
      | none =>
        match find name arguments with
        | .ok image => runProgram fuel mode image scene
        | .error errno =>
          let (status, scene) := missing line name errno scene
          scene.next status

def runSimple : (fuel : Nat) → Mode → Simple → Scene → Flow × Scene
  | 0, _, _, scene => (.stop .endless, scene)
  | fuel + 1, mode, given, scene =>
    let status := if given.hasSubstitution then none else some 0
    let (resolved, scene) := resolveWords fuel given.allWords scene
    let command := given.withAllWords (resolved.toOption.getD [])
    let expanded := resolved.bind fun _ ↦ expandWords scene.world.host scene.state command.words
    match expanded with
    | .error message => scene.abort command.line message
    | .ok words =>
      let isSpecial := (words.head?.map specialCommands.contains).getD false
      match applyRedirections command.redirections scene with
      | .error message =>
        if isSpecial then scene.abort command.line message
        else (scene.complain command.line message).next 2
      | .ok redirected =>
        match assignAll command.assignments redirected with
        | .error message => scene.abort command.line message
        | .ok prepared =>
          let values := command.assignments.map fun (name, _) ↦
            (name, (prepared.state.value? name).getD "")
          let prepared := trace values words scene prepared
          let exported := command.assignments.foldl (fun state (name, _) ↦ state.markExported name)
            prepared.state
          let start :=
            if words.isEmpty then prepared.withStatus (status.getD prepared.state.status)
            else { prepared with state := exported }
          let (flow, after) := runWords fuel mode command.line words start
          let keepsStreams := words = ["exec"]
          let kept := if keepsStreams then after else restoreStreams scene after
          let bindings :=
            if words.isEmpty || isSpecial || command.assignments.isEmpty then kept.state.bindings
            else scene.state.bindings
          (flow, { kept with state := { kept.state with bindings := bindings } })

/-- Evaluates a command in a copy of the shell.  Only what it did to the world stays. -/
def runApart : (fuel : Nat) → (isTested : Bool) → Command → Scene → Ending × World
  | 0, _, _, scene => (.endless, scene.world)
  | fuel + 1, isTested, command, scene =>
    let copy := { scene.state with traps := [], pending := [], isObserved := false }
    finish fuel (evaluate fuel ⟨isTested, true⟩ command { scene with state := copy })

def runLoop : (fuel : Nat) → Mode → (untilSuccess : Bool) → (test body : Command) → Scene →
    Flow × Scene
  | 0, _, _, _, _, scene => (.stop .endless, scene)
  | fuel + 1, mode, untilSuccess, test, body, scene =>
    match evaluate fuel Mode.test test scene with
    | (.next, tested) =>
      if (tested.state.status = 0) = !untilSuccess then
        match evaluate fuel mode.inner body tested with
        | (.next, after) | (.again 1, after) | (.again 0, after) =>
          runLoop fuel mode untilSuccess test body after
        | (.leave 1, after) | (.leave 0, after) => after.next 0
        | (.leave (levels + 1), after) => (.leave levels, after)
        | (.again (levels + 1), after) => (.again levels, after)
        | result => result
      else tested.next scene.state.status
    | (.leave _, after) => after.next 0
    | result => result

/-- Repeats a body for every value of a variable. -/
def runIteration : (fuel : Nat) → Mode → (name : String) → List String → Command → Scene →
    Flow × Scene
  | 0, _, _, _, _, scene => (.stop .endless, scene)
  | _ + 1, _, _, [], _, scene => (.next, scene)
  | fuel + 1, mode, name, value :: values, body, scene =>
    match evaluate fuel mode.inner body { scene with state := scene.state.assign name value } with
    | (.next, after) | (.again 1, after) | (.again 0, after) =>
      runIteration fuel mode name values body after
    | (.leave 1, after) | (.leave 0, after) => after.next 0
    | (.leave (levels + 1), after) => (.leave levels, after)
    | (.again (levels + 1), after) => (.again levels, after)
    | result => result

/-- Runs the body of the first branch that has a pattern for a text. -/
def runSelection : (fuel : Nat) → Mode → (line : Nat) → (text : String) →
    List (List Word × Command) → Scene → Flow × Scene
  | 0, _, _, _, _, scene => (.stop .endless, scene)
  | _ + 1, _, _, _, [], scene => scene.next 0
  | fuel + 1, mode, line, text, (patterns, body) :: rest, scene =>
    let (resolved, scene) := resolveWords fuel patterns scene
    match resolved.bind (List.mapM (expandPattern scene.state)) with
    | .error message => scene.abort line message
    | .ok patterns =>
      if patterns.any (·.isMatch text.toList) then evaluate fuel mode body (scene.withStatus 0)
      else runSelection fuel mode line text rest scene

def evaluate : (fuel : Nat) → Mode → Command → Scene → Flow × Scene
  | 0, _, _, scene => (.stop .endless, scene)
  | fuel + 1, mode, command, scene =>
    match command with
    | .nothing => (.next, scene)
    | .simple command =>
      reactToSignals fuel (Scene.checkFailure mode (runSimple fuel mode command scene))
    | .sequence first .nothing => evaluate fuel mode first scene
    | .sequence first second =>
      match evaluate fuel mode.inner first scene with
      | (.next, after) => evaluate fuel mode second after
      | result => result
    | .both first second =>
      match evaluate fuel Mode.test first scene with
      | (.next, after) =>
        if after.state.status = 0 then evaluate fuel mode second after else (.next, after)
      | result => result
    | .either first second =>
      match evaluate fuel Mode.test first scene with
      | (.next, after) =>
        if after.state.status = 0 then (.next, after) else evaluate fuel mode second after
      | result => result
    | .negation command =>
      match evaluate fuel Mode.test command scene with
      | (.next, after) => after.next (if after.state.status = 0 then 1 else 0)
      | result => result
    | .pipe first second =>
      let (number, world) := scene.world.newQueue []
      let task := scene.state.task
      let writing := { scene.state with task := task.withStream 1 (.queue number) }
      let reading := { scene.state with task := task.withStream 0 (.queue number) }
      match runApart fuel mode.isTested first ⟨writing, world⟩ with
      | (.exited _, world) | (.killed _, world) =>
        let (ending, world) := runApart fuel mode.isTested second ⟨reading, world⟩
        Scene.checkFailure mode (settleProgram (ending, { scene with world := world }))
      | (ending, world) => (.stop ending, { scene with world := world })
    | .choice test body otherwise =>
      match evaluate fuel Mode.test test scene with
      | (.next, after) =>
        if after.state.status = 0 then evaluate fuel mode body after
        else
          match otherwise with
          | .nothing => after.next 0
          | otherwise => evaluate fuel mode otherwise after
      | result => result
    | .loop untilSuccess test body =>
      let (flow, after) := runLoop fuel mode untilSuccess test body (scene.withStatus 0).enterLoop
      (flow, after.withLoops scene.state.loops)
    | .iteration name words body =>
      let (resolved, scene) := resolveWords fuel words scene
      match resolved.bind (expandWords scene.world.host scene.state) with
      | .error message => scene.abort 1 message
      | .ok values =>
        let (flow, after) := runIteration fuel mode name values body (scene.withStatus 0).enterLoop
        (flow, after.withLoops scene.state.loops)
    | .selection line word branches =>
      match resolveWord fuel word scene with
      | (.error message, scene) => scene.abort line message
      | (.ok word, scene) =>
        match expandText scene.state word with
        | .error message => scene.abort line message
        | .ok text => runSelection fuel mode line text branches scene
    | .definition name body =>
      let functions := (name, body) :: scene.state.functions.filter (·.1 ≠ name)
      { scene with state := { scene.state with functions := functions } }.next 0
    | .subshell body =>
      let (ending, world) := runApart fuel mode.isTested body scene
      Scene.checkFailure mode (settleProgram (ending, { scene with world := world }))
    | .redirected line body redirections =>
      let (resolved, scene) := resolveWords fuel (redirections.map (·.target)) scene
      match resolved.bind fun targets ↦ applyRedirections (withTargets redirections targets) scene with
      | .error message => Scene.checkFailure mode ((scene.complain line message).next 2)
      | .ok redirected =>
        let (flow, after) := evaluate fuel mode.inner body redirected
        (flow, restoreStreams scene after)

end

end ContainerConstruction.Shell
