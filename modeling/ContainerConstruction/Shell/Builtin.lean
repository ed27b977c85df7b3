import ContainerConstruction.Shell.Testing
import ContainerConstruction.Shell.Trap
import ContainerConstruction.Shell.Writing

/-!
# Built-in commands

The commands that the shell carries out itself because they change it or look at it, and the writing ones
that it has for speed.  None of them runs another command.
-/

namespace ContainerConstruction.Shell

def runCd (line : Nat) (arguments : List String) (scene : Scene) : Flow × Scene :=
  let target := match arguments with
    | [] => (scene.state.value? "HOME").getD ""
    | "-" :: _ => (scene.state.value? "OLDPWD").getD ""
    | directory :: _ => directory
  let task := scene.state.task
  match scene.world.host.enterable task.who (if target.isEmpty then "." else target) with
  | .error _ => (scene.complain line s!"cd: can't cd to {target}").next 2
  | .ok directory =>
    let before := Host.shownPath task.who.place.directory
    let place := { task.who.place with directory := directory }
    let state := { scene.state with task := { task with who := { task.who with place := place } } }
    let after := Host.shownPath directory
    let scene := { scene with state :=
      (state.assignExported "OLDPWD" before).assignExported "PWD" after }
    if arguments.head? = some "-" then (scene.write (Text.Utf8.ofText (after ++ "\n"))).next 0
    else scene.next 0

/-- Sets options and positional parameters. -/
def setOptions (scene : Scene) : List String → Scene
  | [] => scene
  | "--" :: arguments => { scene with state := { scene.state with arguments := arguments } }
  | option :: rest =>
    match option.toList with
    | '-' :: letters => setOptions (letters.foldl (setOption true) scene) rest
    | '+' :: letters => setOptions (letters.foldl (setOption false) scene) rest
    | _ => { scene with state := { scene.state with arguments := option :: rest } }
where
  /-- Sets an option by its letter. -/
  setOption (on : Bool) (scene : Scene) (letter : Char) : Scene :=
    match letter with
    | 'e' => { scene with state := { scene.state with exitsOnError := on } }
    | 'u' => { scene with state := { scene.state with isStrict := on } }
    | 'x' => { scene with state := { scene.state with isTraced := on } }
    | 'f' => { scene with state := { scene.state with keepsPatterns := on } }
    | _ => scene

def runExport (scene : Scene) : List String → Scene
  | [] => scene
  | argument :: rest =>
    let state := match argument.toList.span (· ≠ '=') with
      | (name, _ :: value) => scene.state.assignExported (String.ofList name) (String.ofList value)
      | (name, []) => scene.state.markExported (String.ofList name)
    runExport { scene with state := state } rest

/-- Hides variables for as long as the present function runs, and sets some of them. -/
def runLocal (scene : Scene) : List String → Scene
  | [] => scene
  | argument :: rest =>
    let (name, value) := argument.toList.span (· ≠ '=')
    let state := scene.state.hide (String.ofList name)
    let state := match value with
      | [] => state
      | _ :: value => state.assign (String.ofList name) (String.ofList value)
    runLocal { scene with state := state } rest

/-- Divides a line among variables, of which the last one gets all that is left. -/
def assignLine (separators : List Char) (state : State) : List String → List Char → State
  | [], _ => state
  | [name], text =>
    let isBlank (c : Char) : Bool := separators.contains c && " \t\n".toList.contains c
    state.assign name (String.ofList ((text.dropWhile isBlank).reverse.dropWhile isBlank).reverse)
  | name :: others, text =>
    let isBlank (c : Char) : Bool := separators.contains c && " \t\n".toList.contains c
    let text := text.dropWhile isBlank
    let field := text.takeWhile (!separators.contains ·)
    let behind := (text.drop field.length).dropWhile isBlank
    let behind := match behind with
      | c :: rest => if separators.contains c then rest else behind
      | [] => []
    assignLine separators (state.assign name (String.ofList field)) others behind

/-- Reads a line into variables. -/
def runRead (arguments : List String) (scene : Scene) : Flow × Scene :=
  let names := if arguments.head? = some "-r" then arguments.drop 1 else arguments
  let ((bytes, isEnded), world) := scene.world.readLine (scene.state.task.stream 0)
  let state := assignLine scene.state.separators scene.state names (Text.Utf8.toTextLossy bytes).toList
  Scene.next (if isEnded then 0 else 1) ⟨state, world⟩

/-- Leaves loops or begins one again, if there are any. -/
def runLoopControl (make : Nat → Flow) (arguments : List String) (scene : Scene) : Flow × Scene :=
  if scene.state.loops = 0 then scene.next 0
  else (make ((arguments.head?.bind String.toNat?).getD 1), scene.withStatus 0)

/-- Finds out whether a condition holds. -/
def runTest (line : Nat) (name : String) (arguments : List String) (scene : Scene) : Flow × Scene :=
  if name = "[" && arguments.getLast? ≠ some "]" then (scene.complain line "[: missing ]").next 2
  else
    let condition := if name = "[" then arguments.dropLast else arguments
    match Testing.evaluate scene.state.task.who scene.world.host (condition.length + 1) condition with
    | .ok holds => scene.next (if holds then 0 else 1)
    | .error message => (scene.complain line s!"{name}: {message}").next 2

def octal? (text : String) : Option UInt32 :=
  if !text.isEmpty && text.toList.all Writing.isOctal then
    some (UInt32.ofNat (text.toList.foldl (fun value c ↦ value * 8 + (c.toNat - 48)) 0))
  else none

def runUmask (line : Nat) (arguments : List String) (scene : Scene) : Flow × Scene :=
  let task := scene.state.task
  match arguments with
  | [] =>
    let digits := Nat.toDigits 8 task.who.place.mask.toNat
    let padded := List.replicate (4 - digits.length) '0' ++ digits
    (scene.write (Text.Utf8.ofText (String.ofList padded ++ "\n"))).next 0
  | text :: _ =>
    match octal? text with
    | none => scene.abort line s!"umask: Illegal mode: {text}"
    | some mask =>
      let place := { task.who.place with mask := mask &&& 0o777 }
      { scene with state :=
          { scene.state with task := { task with who := { task.who with place := place } } } }.next 0

/-- Ends the shell with a status, or with that of the last command. -/
def runExit (line : Nat) (arguments : List String) (scene : Scene) : Flow × Scene :=
  match arguments with
  | [] => (.stop (.exited scene.state.status), scene)
  | text :: _ =>
    match text.toNat? with
    | some code => (.stop (.exited (code % 256)), scene.withStatus (code % 256))
    | none => scene.abort line s!"exit: Illegal number: {text}"

/-- The commands whose failure ends the shell. -/
def specialCommands : List String :=
  [":", ".", "eval", "exec", "exit", "export", "return", "set", "shift", "trap", "unset", "break", "continue"]

/-- A built-in command that runs no other, if it is one. -/
def runBuiltin (line : Nat) (name : String) (arguments : List String) (scene : Scene) :
    Option (Flow × Scene) :=
  match name with
  | ":" | "true" => some (scene.next 0)
  | "false" => some (scene.next 1)
  | "echo" => some ((scene.write (Writing.echo arguments)).next 0)
  | "printf" => some ((scene.write (Writing.printf arguments)).next 0)
  | "exit" => some (runExit line arguments scene)
  | "trap" => some (runTrap line arguments scene)
  | "kill" => some (runKill line arguments scene)
  | "cd" => some (runCd line arguments scene)
  | "pwd" =>
    some ((scene.write (Text.Utf8.ofText
      (Host.shownPath scene.state.task.who.place.directory ++ "\n"))).next 0)
  | "set" => some ((setOptions scene arguments).next 0)
  | "export" => some ((runExport scene arguments).next 0)
  | "unset" =>
    some ({ scene with state := arguments.foldl (fun state name ↦ state.forget name) scene.state }.next 0)
  | "shift" =>
    let count := (arguments.head?.bind String.toNat?).getD 1
    if scene.state.arguments.length < count then some (scene.abort line "shift: can't shift that many")
    else
      some ({ scene with state :=
        { scene.state with arguments := scene.state.arguments.drop count } }.next 0)
  | "umask" => some (runUmask line arguments scene)
  | "break" => some (runLoopControl .leave arguments scene)
  | "continue" => some (runLoopControl .again arguments scene)
  | "return" =>
    some (.back, match arguments.head?.bind String.toNat? with
      | some status => scene.withStatus (status % 256)
      | none => scene)
  | "local" => some ((runLocal scene arguments).next 0)
  | "read" => some (runRead arguments scene)
  | "wait" => some (scene.next 0)
  | "test" | "[" => some (runTest line name arguments scene)
  | _ => none

end ContainerConstruction.Shell
