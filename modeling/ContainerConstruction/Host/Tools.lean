import ContainerConstruction.Host.FileTools

/-!
# Tools of a host

The programs that every host has.  A tool reads and writes its streams and the files of the host, and
ends with an exit code; none of them runs another program.
-/

namespace ContainerConstruction

namespace Tools

/-- Sleeps once, however long. -/
def sleep (world : World) : Ending × World :=
  let (rest, world) := world.sleep
  match rest with
  | .rested => finish 0 world
  | .struck signal => (.struck signal, world)
  | .waiting => (.waiting, world)

def run (tool : String) (arguments : List String) (task : Task) (world : World) : Ending × World :=
  match tool with
  | "true" => finish 0 world
  | "false" => finish 1 world
  | "echo" => echo task arguments world
  | "cat" => cat task arguments world
  | "pwd" => pwd task world
  | "env" => listEnvironment task world
  | "id" => id task arguments world
  | "touch" => touch task arguments world
  | "mkdir" => mkdir task arguments world
  | "rm" => rm task arguments world
  | "rmdir" => rmdir task arguments world
  | "chmod" => changeModes task arguments world
  | "ln" => link task arguments world
  | "cp" => copy task arguments world
  | "mv" => move task arguments world
  | "wc" => wc task arguments world
  | "sort" => sort task arguments world
  | "head" => head task arguments world
  | "seq" => seq task arguments world
  | "basename" => basename task arguments world
  | "dirname" => dirname task arguments world
  | "printenv" => printEnvironment task arguments world
  | "ls" => list task arguments world
  | "sleep" => sleep world
  | _ => finish 126 world

end Tools

end ContainerConstruction
