import ToolGate.CommandLine.Request
import ToolGate.Report

/-!
# The program

A request is answered from the contents of the files that it names, by a
text on standard output, a report of what went wrong on standard error, and
an exit code.
-/

namespace ToolGate

/-- Why a file cannot be read. -/
inductive FileFault where
  /-- There is none. -/
  | missing
  /-- It is a directory. -/
  | directory
  /-- A part of its path is no directory. -/
  | notDirectory
  /-- Any other reason. -/
  | other (message : String)
deriving DecidableEq, Repr

/-- The wording of a reason. -/
def FileFault.message : FileFault → String
  | .missing => "No such file or directory (os error 2)"
  | .directory => "Is a directory (os error 21)"
  | .notDirectory => "Not a directory (os error 20)"
  | .other message => message

/-- The files as the program sees them. -/
abbrev Files := String → Except FileFault String

/-- Why a request fails. -/
inductive Failure where
  /-- A file cannot be read. -/
  | unreadable (path : String) (fault : FileFault)
  /-- A text, found at a place, is no JSON. -/
  | notJson (place : String) (error : JsonError)
  /-- The arguments of a call were rejected. -/
  | rejected (issues : List Issue)
  /-- An operation of the gate failed. -/
  | gate (error : GateError)

namespace Failure

/-- The wording of a failure, and of what caused it. -/
def describe : Failure → String × Option String
  | .unreadable path fault => ("Failed to read " ++ path, some fault.message)
  | .notJson place error => ("Invalid JSON in " ++ place, some error.message)
  | .rejected issues => ("arguments rejected: " ++ Issue.messages issues, none)
  | .gate error => (error.message, none)

/-- The report of a failure. -/
def report (failure : Failure) : String :=
  match failure.describe with
  | (text, none) => "Error: " ++ text ++ "\n"
  | (text, some cause) => "Error: " ++ text ++ "\n\nCaused by:\n    " ++ cause ++ "\n"

end Failure

/-- What a run of the program leaves. -/
structure Outcome where
  /-- The exit code. -/
  exitCode : UInt8
  /-- What stands on standard output. -/
  output : String
  /-- What stands on standard error. -/
  report : String
deriving DecidableEq, Repr

namespace Outcome

/-- A value on standard output. -/
def printed (value : Json) : String :=
  value.pretty ++ "\n"

/-- A run that gave a value. -/
def success (value : Json) : Outcome :=
  { exitCode := 0, output := printed value, report := "" }

/-- A run that failed, after some output. -/
def failed (output : String) (failure : Failure) : Outcome :=
  { exitCode := 1, output, report := failure.report }

end Outcome

namespace Program

/-- The name and number of this version. -/
def versionText : String := "mcp-hive-proxy 0.1.0\n"

/-- How the program is used. -/
def usageText : String :=
  "\n".intercalate
    ["Usage: mcp-hive-proxy [OPTIONS] <COMMAND>",
      "",
      "Commands:",
      "  check <DESCRIPTOR> <TOOL> [--args <JSON> | --args-file <FILE>]",
      "  inspect <DESCRIPTOR>",
      "  schema",
      "",
      "Options:",
      "  --server <NAME>",
      "  --gateway",
      "  --local",
      "  --credentials <TEXT>",
      "  -v, --verbose",
      "  -h, --help",
      "  -V, --version",
      ""]

/-- The JSON value in a text that was found at a place. -/
def readJson (place text : String) : Except Failure Json :=
  (Json.read text).mapError (Failure.notJson place)

/-- The JSON value in a file. -/
def readFile (files : Files) (path : String) : Except Failure Json := do
  readJson path (← (files path).mapError (Failure.unreadable path))

/-- The arguments of a call. -/
def readSource (files : Files) : CommandLine.ArgumentSource → Except Failure Json
  | .inline text => readJson "--args" text
  | .file path => readFile files path

/-- The server name that a description gives. -/
def serverName (description : Json) : Except Failure String :=
  match (description.get? "server").bind Json.string? with
  | some name => .ok name
  | none => .error (.gate (.malformedDescriptor "descriptor has no server name"))

/-- A dispatcher that has loaded the tools of a description. -/
def loadDescription (mode : GateMode) (description : Json) : Except Failure Dispatcher := do
  let name ← serverName description
  match Dispatcher.loadServer { mode } (.dryRun description) name with
  | (dispatcher, .ok _) => .ok dispatcher
  | (_, .error error) => .error (.gate error)

/-- The report on rejected arguments. -/
def rejection (tool : String) (issues : List Issue) : Json :=
  .object [("tool", .string tool), ("issues", .array (issues.map Issue.toJson))]

/-- Check the arguments of a call. -/
def check (settings : Settings) (files : Files) (descriptor tool : String)
    (source : CommandLine.ArgumentSource) : Except Failure Outcome := do
  let arguments ← readSource files source
  let description ← readFile files descriptor
  let dispatcher ← loadDescription settings.mode description
  match (dispatcher.call (.dryRun description) tool arguments).2 with
  | .ok output => .ok (.success output)
  | .error (.validation issues) =>
      .ok (.failed (Outcome.printed (rejection tool issues)) (.rejected issues))
  | .error error => .error (.gate error)

/-- Describe the tools of a server. -/
def inspect (files : Files) (descriptor : String) : Except Failure Outcome := do
  let description ← readFile files descriptor
  match GateError.fromHub Hub.Server.ofJson? description with
  | .ok server => .ok (.success (server.report default))
  | .error error => .error (.gate error)

/-- Answer a request. -/
def answer (files : Files) (request : CommandLine.Request) : Except Failure Outcome := do
  let settings ← (Settings.ofFlags request.flags).mapError .gate
  match request.command with
  | .check descriptor tool source => check settings files descriptor tool source
  | .inspect descriptor => inspect files descriptor
  | .printSchema => .ok (.success Hub.Server.format)

/-- What a run leaves that could not read its command line. -/
def refuse : CommandLine.UsageError → Outcome
  | .helpRequested => { exitCode := 0, output := usageText, report := "" }
  | .versionRequested => { exitCode := 0, output := versionText, report := "" }
  | _ => { exitCode := 2, output := "", report := usageText }

/-- Run the program on its arguments; credentials may be known beforehand. -/
def run (credentials : Option String) (files : Files) (arguments : List String) : Outcome :=
  match CommandLine.Request.read credentials arguments with
  | .error error => refuse error
  | .ok request =>
      match answer files request with
      | .ok outcome => outcome
      | .error failure => .failed "" failure

/-- The paths of the files that a request needs. -/
def filesNeeded (request : CommandLine.Request) : List String :=
  match request.command with
  | .check descriptor _ (.file path) => [path, descriptor]
  | .check descriptor _ (.inline _) => [descriptor]
  | .inspect descriptor => [descriptor]
  | .printSchema => []

end Program

end ToolGate
