import ContainerConstruction.Shell.Scene

/-!
# Redirections

A redirection gives a descriptor another stream: a file, a text, or what another descriptor has.
-/

namespace ContainerConstruction.Shell

/-- The text of an error in opening a file. -/
def openErrorText (creates : Bool) (errno : Errno) : String :=
  if errno = .noEntry || errno = .notDirectory then
    if creates then "Directory nonexistent" else "No such file"
  else errno.text

/-- Opens a file for a descriptor. -/
def openFor (descriptor : Nat) (creates : Bool) (mode : Host.OpenMode) (path : String)
    (scene : Scene) : Except String Scene :=
  let task := scene.state.task
  match scene.world.host.openPath task.who mode path with
  | .error errno =>
    let verb := if creates then "create" else "open"
    .error s!"cannot {verb} {path}: {openErrorText creates errno}"
  | .ok (found, host) =>
    let world := { scene.world with host := host }
    match creates, host.contentAt found with
    | false, .ok bytes =>
      let (number, world) := world.newQueue bytes
      .ok ⟨{ scene.state with task := task.withStream descriptor (.queue number) }, world⟩
    | _, _ => .ok ⟨{ scene.state with task := task.withStream descriptor (.file found) }, world⟩

def applyRedirection (scene : Scene) (redirection : Redirection) : Except String Scene := do
  let target ← expandText scene.state redirection.target
  match redirection.kind with
  | .input => openFor redirection.descriptor false .reading target scene
  | .document =>
    let (number, world) := scene.world.newQueue (Text.Utf8.ofText target)
    let task := scene.state.task.withStream redirection.descriptor (.queue number)
    return ⟨{ scene.state with task := task }, world⟩
  | .output => openFor redirection.descriptor true .replacing target scene
  | .append => openFor redirection.descriptor true .extending target scene
  | .duplicate =>
    let task := scene.state.task
    let stream ← match target.toNat? with
      | some source => pure (task.stream source)
      | none => if target = "-" then pure Stream.sink else throw s!"Bad fd number"
    return { scene with state := { scene.state with task := task.withStream redirection.descriptor stream } }

def applyRedirections (redirections : List Redirection) (scene : Scene) : Except String Scene :=
  redirections.foldlM applyRedirection scene

/-- Takes the descriptors back that were in force before. -/
def restoreStreams (before : Scene) (scene : Scene) : Scene :=
  let task := { scene.state.task with streams := before.state.task.streams }
  { scene with state := { scene.state with task := task } }

end ContainerConstruction.Shell
