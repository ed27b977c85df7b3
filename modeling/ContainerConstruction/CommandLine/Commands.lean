import ContainerConstruction.CommandLine.Arguments
import ContainerConstruction.Host.Runtime

/-!
# Commands

What the program does on a host: `engines` lists the engines, `serve` answers the requests of one
visitor on a socket, and `run` runs a container and ends as the container did.  The settings of the
machine are read first, whatever the command is.

A command that fails says so in a line of its own and ends with code 1.  Arguments that are no command
end with code 2.
-/

namespace ContainerConstruction.CommandLine

/-- What a run of the program leaves behind. -/
structure Result where
  exitCode : Int
  /-- What was written for the user. -/
  output : List UInt8
  /-- What was written about failures. -/
  errors : List UInt8
  /-- The responses to the visitor, if a socket was offered. -/
  responses : Option (List Response)
  host : Host

namespace Result

def quiet (exitCode : Int) (host : Host) : Result := ⟨exitCode, [], [], none, host⟩

def saying (text : String) (host : Host) : Result :=
  { quiet 0 host with output := Text.Utf8.ofText text }

def failureLine (failure : Failure) : String := s!"Error: {failure.message}\n"

/-- The code of a command that failed. -/
def failureExitCode : Int := 1

/-- The code of arguments that are no command. -/
def misuseExitCode : Int := 2

/-- Ends a run with a failure. -/
def failed (failure : Failure) (result : Result) : Result :=
  { result with
    exitCode := failureExitCode
    errors := result.errors ++ Text.Utf8.ofText (failureLine failure) }

end Result

/-! ## Texts -/

def versionLine : String := "stockade 0.1.0\n"

def usageLine : String := "Usage: stockade [OPTIONS] <engines|serve|run>\n"

/-- The names of all engines, a line for each. -/
def engineLines : String := String.join (Runtime.registry.names.map (· ++ "\n"))

/-! ## Serving -/

def socketName : String := "privileged.sock"

/-- The socket to serve on if none is given. -/
def standardSocket (config : RuntimeConfig) : String := Path.join config.stateDir socketName

/-- Removes a socket, if there still is something to remove. -/
def dropSocket (socket : String) (host : Host) : Host :=
  match host.removeFile (host.accessor .server) socket with
  | .ok host => host
  | .error _ => host

/-- Serves the one who visits a socket.  `stream` is all that the visitor sends. -/
def serve (engine socket : String) (stream : List UInt8) (host : Host) : Result :=
  match Runtime.registry.lookup engine with
  | .error failure => (Result.quiet 0 host).failed failure
  | .ok registration =>
    match host.bindSocket (host.accessor .server) socket with
    | .error cause => (Result.quiet 0 (dropSocket socket host)).failed (.io socket cause)
    | .ok host =>
      let served := Server.serve registration.methods stream ⟨Runtime.ofHost host, false⟩
      let result : Result :=
        { Result.quiet 0 (dropSocket socket served.server.state.host) with
          responses := some served.responses }
      match served.result with
      | .ok _ => result
      | .error failure => result.failed failure

/-! ## Running -/

def run (config : RuntimeConfig) (path : String) (host : Host) : Result :=
  let (freshId, host) := host.freshName
  match RunConfig.load host.textReader freshId path with
  | .error failure => (Result.quiet 0 host).failed failure
  | .ok container =>
    let (status, runtime) := (Runtime.ofHost host).run (container.applyDefaults config)
    let result : Result := ⟨0, runtime.output, runtime.errors, none, runtime.host⟩
    match status with
    | .ok status => { result with exitCode := status.exitCode }
    | .error failure => result.failed failure

/-! ## The program -/

/-- The files that a request names, the settings of the machine first. -/
def Request.files (request : Request) : List String :=
  request.configFile ::
    match request.command with
    | .run path => [path]
    | .engines | .serve .. => []

/-- The files that arguments name. -/
def namedFiles (arguments : List String) : List String :=
  match parse arguments with
  | .request request => request.files
  | .version | .help | .misuse => []

/-- Whether arguments ask for serving, so that somebody's requests are needed. -/
def awaitsVisitor (arguments : List String) : Bool :=
  match parse arguments with
  | .request ⟨.serve .., _, _⟩ => true
  | _ => false

def perform (request : Request) (stream : List UInt8) (host : Host) : Result :=
  match RuntimeConfig.load host.textReader request.configFile with
  | .error failure => (Result.quiet 0 host).failed failure
  | .ok config =>
    match request.command with
    | .engines => Result.saying engineLines host
    | .serve socket engine => serve engine (socket.getD (standardSocket config)) stream host
    | .run path => run config path host

/-- Runs the program.  `stream` is what a visitor sends, if a socket is offered. -/
def execute (arguments : List String) (stream : List UInt8) (host : Host) : Result :=
  match parse arguments with
  | .misuse => Result.quiet Result.misuseExitCode host
  | .version => Result.saying versionLine host
  | .help => Result.saying usageLine host
  | .request request => perform request stream host

end ContainerConstruction.CommandLine
