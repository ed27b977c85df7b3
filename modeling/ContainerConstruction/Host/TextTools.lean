import ContainerConstruction.Host.World

/-!
# Tools that write

The programs of a host that write what they are told or what they read.  A tool ends with an exit code,
and none of them runs another program.
-/

namespace ContainerConstruction

namespace Tools

/-- Ends with an exit code. -/
def finish (code : Nat) (world : World) : Ending × World := (.exited code, world)

/-- Writes a diagnostic. -/
def complain (tool message : String) (task : Task) (world : World) : World :=
  task.say 2 s!"{tool}: {message}\n" world

/-- Does something for each argument; the exit code is one if that failed for any. -/
def forEach (tool : String) (describe : String → Errno → String)
    (work : String → World → Except Errno World) (task : Task) : List String → World → Ending × World
  | [], world => finish 0 world
  | argument :: rest, world =>
    match work argument world with
    | .ok world => forEach tool describe work task rest world
    | .error errno =>
      let world := complain tool (describe argument errno) task world
      finish 1 (forEach tool describe work task rest world).2

/-! ## Writing -/

def echo (task : Task) : List String → World → Ending × World
  | "-n" :: arguments, world => finish 0 (task.say 1 (" ".intercalate arguments) world)
  | arguments, world => finish 0 (task.say 1 (" ".intercalate arguments ++ "\n") world)

/-- Writes what can be read, or the content of files. -/
def cat (task : Task) (arguments : List String) (world : World) : Ending × World :=
  match arguments with
  | [] =>
    let (result, world) := world.readAll (task.stream 0)
    match result with
    | .ok bytes => finish 0 (world.write (task.stream 1) bytes)
    | .error errno => finish 1 (complain "cat" s!"-: {errno.text}" task world)
  | _ =>
    forEach "cat" (fun path errno ↦ s!"{path}: {errno.text}")
      (fun path world ↦
        let (result, world) :=
          if path = "-" then world.readAll (task.stream 0)
          else (world.host.readBytes task.who path, world)
        result.map fun bytes ↦ world.write (task.stream 1) bytes)
      task arguments world

def pwd (task : Task) (world : World) : Ending × World :=
  finish 0 (task.say 1 (Host.shownPath task.who.place.directory ++ "\n") world)

def listEnvironment (task : Task) (world : World) : Ending × World :=
  finish 0 (task.say 1 (String.join (task.environment.map fun (name, value) ↦ s!"{name}={value}\n"))
    world)

/-- Writes user and group. -/
def id (task : Task) (arguments : List String) (world : World) : Ending × World :=
  let uid := toString task.who.identity.uid.toNat
  let gid := toString task.who.identity.gid.toNat
  match arguments with
  | ["-u"] => finish 0 (task.say 1 s!"{uid}\n" world)
  | ["-g"] | ["-G"] => finish 0 (task.say 1 s!"{gid}\n" world)
  | ["-un"] | ["-gn"] | ["-Gn"] => finish 0 (task.say 1 "root\n" world)
  | _ => finish 0 (task.say 1 s!"uid={uid}(root) gid={gid}(root) groups={gid}(root)\n" world)

/-- Writes the values of variables; the exit code is one if any is not there. -/
def printEnvironment (task : Task) (names : List String) (world : World) : Ending × World :=
  let values := names.filterMap task.binding?
  (.exited (if values.length = names.length then 0 else 1),
    task.say 1 (String.join (values.map (· ++ "\n"))) world)

/-! ## Lines -/

def linesOf (text : String) : List String :=
  match text.splitOn "\n" with
  | [] => []
  | lines => if lines.getLast? = some "" then lines.dropLast else lines

def ofLines (lines : List String) : String := String.join (lines.map (· ++ "\n"))

/-- Reads files, or what can be read if there are none. -/
def readInput (task : Task) (paths : List String) (world : World) : Except Errno (List UInt8) × World :=
  match paths with
  | [] => world.readAll (task.stream 0)
  | _ => ((paths.mapM (world.host.readBytes task.who)).map List.flatten, world)

/-- Writes what becomes of the input. -/
def onInput (tool : String) (paths : List String) (work : List UInt8 → List UInt8) (task : Task)
    (world : World) : Ending × World :=
  match readInput task paths world with
  | (.ok bytes, world) => finish 0 (world.write (task.stream 1) (work bytes))
  | (.error errno, world) =>
    finish 1 (complain tool (paths.head?.getD "-" ++ s!": {errno.text}") task world)

/-- What becomes of the lines of an input. -/
def onLines (work : List String → List String) (bytes : List UInt8) : List UInt8 :=
  Text.Utf8.ofText (ofLines (work (linesOf (Text.Utf8.toTextLossy bytes))))

def sort (task : Task) (paths : List String) : World → Ending × World :=
  onInput "sort" paths (onLines fun lines ↦ lines.mergeSort fun first second ↦ decide (first ≤ second)) task

/-- The options and the operands of arguments. -/
def optionsOf (arguments : List String) : List String × List String :=
  arguments.partition fun argument ↦ argument.toList.head? = some '-' && argument.length > 1

/-- Counts lines, words or bytes, of which one has to be chosen. -/
def wc (task : Task) (arguments : List String) : World → Ending × World :=
  let (options, paths) := optionsOf arguments
  let count (bytes : List UInt8) : Nat :=
    if options = ["-c"] then bytes.length
    else if options = ["-l"] then bytes.count 10
    else ((Text.Utf8.toTextLossy bytes).splitToList fun c ↦ " \t\n".toList.contains c).countP (!·.isEmpty)
  let name := String.join (paths.map (" " ++ ·))
  onInput "wc" paths (fun bytes ↦ Text.Utf8.ofText s!"{count bytes}{name}\n") task

def head (task : Task) (arguments : List String) : World → Ending × World :=
  match arguments with
  | "-n" :: count :: paths => onInput "head" paths (onLines (·.take (count.toNat?.getD 10))) task
  | paths => onInput "head" paths (onLines (·.take 10)) task

/-- Writes a series of numbers. -/
def seq (task : Task) (arguments : List String) (world : World) : Ending × World :=
  match arguments.mapM String.toNat? with
  | some [last] => finish 0 (task.say 1 (ofLines ((List.range last).map fun n ↦ toString (n + 1))) world)
  | some [first, last] =>
    finish 0 (task.say 1 (ofLines ((List.range (last + 1 - first)).map fun n ↦ toString (first + n))) world)
  | _ => finish 1 world

/-- Writes the last part of a path, without an ending that is not all of it. -/
def basename (task : Task) (arguments : List String) (world : World) : Ending × World :=
  let path := arguments.head?.getD ""
  let ending := (arguments.drop 1).head?.getD ""
  let name := (Path.components path).getLast?.getD (if Path.isAbsolute path then "/" else "")
  let shown :=
    if name ≠ ending && ending.toList.isSuffixOf name.toList then
      String.ofList (name.toList.take (name.length - ending.length))
    else name
  finish 0 (task.say 1 s!"{shown}\n" world)

/-- Writes a path without its last part. -/
def dirname (task : Task) (arguments : List String) (world : World) : Ending × World :=
  let path := arguments.head?.getD ""
  let front := "/".intercalate (Path.components path).dropLast
  let shown :=
    if Path.isAbsolute path then "/" ++ front else if front.isEmpty then "." else front
  finish 0 (task.say 1 s!"{shown}\n" world)

end Tools

end ContainerConstruction
