import ContainerConstruction.Shell.Scene

/-!
# Signals of a shell

A shell may set a trap for a signal: a script that it runs once the present command is over.  A trap with
an empty script ignores the signal.  Signals without a trap act on the shell as on any program.
-/

namespace ContainerConstruction.Shell

/-- The number of a signal given by number or name. -/
def signalOf? (text : String) : Option Nat :=
  if text = "EXIT" then some 0
  else if !text.isEmpty && text.toList.all Char.isDigit then text.toNat?
  else
    let name := if "SIG".toList.isPrefixOf text.toList then text else "SIG" ++ text
    (Signal.names.findIdx? (· = name)).map (· + 1)

/-- Lets the world know what the observed process does about signals. -/
def announceTraps (scene : Scene) : Scene :=
  if scene.state.isObserved then
    let traps := scene.state.traps
    { scene with world := { scene.world with
        caught := (traps.filter fun (signal, action) ↦ signal ≠ 0 && !action.isEmpty).map (·.1)
        ignored := (traps.filter fun (signal, action) ↦ signal ≠ 0 && action.isEmpty).map (·.1) } }
  else scene

/-- Sets or resets traps. -/
def setTraps (action : Option String) (signals : List Nat) (scene : Scene) : Scene :=
  let others := scene.state.traps.filter fun (signal, _) ↦ !signals.contains signal
  let traps := match action with
    | none => others
    | some action => others ++ signals.map (·, action)
  announceTraps { scene with state := { scene.state with traps := traps } }

/-- The built-in command that sets traps. -/
def runTrap (line : Nat) (arguments : List String) (scene : Scene) : Flow × Scene :=
  let (action, names) : Option String × List String := match arguments with
    | [] => (none, [])
    | [name] => (none, [name])
    | "-" :: names => (none, names)
    | action :: names => (some action, names)
  match names.mapM signalOf? with
  | some signals => (setTraps action signals scene).next 0
  | none => (scene.complain line "trap: bad trap").next 1

/-- Sends a signal to the shell itself. -/
def signalSelf (signal : Nat) (scene : Scene) : Flow × Scene :=
  match scene.state.traps.lookup signal with
  | some action =>
    if signal = Signal.kill then (.stop (.killed signal), scene)
    else if action.isEmpty then scene.next 0
    else
      { scene with state := { scene.state with pending := scene.state.pending ++ [signal] } }.next 0
  | none =>
    if signal = 0 || World.isHarmless signal then scene.next 0
    else if [Signal.stop, 20, 21, 22].contains signal then (.stop .waiting, scene)
    else (.stop (.killed signal), scene)

/-- The built-in command that sends signals.  No process but the shell itself can be reached. -/
def runKill (line : Nat) (arguments : List String) (scene : Scene) : Flow × Scene :=
  let (signal, targets) : Option Nat × List String := match arguments with
    | "-s" :: name :: targets => (signalOf? name, targets)
    | first :: targets =>
      if first.toList.head? = some '-' then (signalOf? (String.ofList (first.toList.drop 1)), targets)
      else (some Signal.terminate, arguments)
    | [] => (none, [])
  match signal with
  | none => (scene.complain line "kill: Illegal option").next 2
  | some signal =>
    if targets = [toString scene.state.task.pid] then signalSelf signal scene
    else (scene.complain line "kill: No such process").next 1

end ContainerConstruction.Shell
