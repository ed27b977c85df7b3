import ContainerConstruction.CommandLine.Commands
import ContainerConstruction.Host.Provision

/-!
# The program

Runs a command on a host that is kept in memory: it begins as `Host.initial` with the files that the
arguments name, and nothing the command does reaches the machine itself.  The requests of a visitor are
read from standard input, and the responses are written to standard output as frames.
-/

namespace ContainerConstruction.CommandLine

/-- The entry of a file, if it can be read. -/
def readEntry (path : String) : IO (Option ProvisionEntry) := do
  try
    let content ← IO.FS.readBinFile path
    return some ⟨path, .file content.toList, none⟩
  catch _ =>
    return none

/-- All of standard input. -/
partial def readInput (stream : IO.FS.Stream) : IO (List UInt8) := do
  let chunk ← stream.read 65536
  if chunk.isEmpty then return []
  else return chunk.toList ++ (← readInput stream)

/-- The bytes of responses, as far as they can be sent. -/
def responseBytes (responses : List Response) : List UInt8 :=
  responses.flatMap fun response ↦ (Server.responseFrame response).toOption.getD []

/-- The host with the files that arguments name. -/
def hostFor (arguments : List String) : IO Host := do
  let entries ← (namedFiles arguments).filterMapM readEntry
  return (Host.initial.provideAll entries).toOption.getD Host.initial

def writeBytes (stream : IO.FS.Stream) (bytes : List UInt8) : IO Unit := do
  stream.write bytes.toByteArray
  stream.flush

end ContainerConstruction.CommandLine

open ContainerConstruction.CommandLine in
def main (arguments : List String) : IO UInt32 := do
  let host ← hostFor arguments
  let stream ← if awaitsVisitor arguments then readInput (← IO.getStdin) else pure []
  let result := execute arguments stream host
  writeBytes (← IO.getStdout) (result.output ++ responseBytes (result.responses.getD []))
  writeBytes (← IO.getStderr) result.errors
  return result.exitCode.toNat.toUInt32
