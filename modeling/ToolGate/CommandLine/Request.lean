import ToolGate.CommandLine.Arguments
import ToolGate.Settings

/-!
# Requests

A command line asks for one of three things: to check the arguments of a
call, to describe the tools of a server, or to print the format of server
descriptions.  The flags of the gate may stand before the command and behind
it; those behind it count more.
-/

namespace ToolGate.CommandLine

/-- The flags of the gate. -/
def gateOptions : List OptionForm :=
  [{ name := "server", role := .valued true },
    { name := "gateway", role := .flag },
    { name := "local", role := .flag },
    { name := "credentials", role := .valued true },
    { name := "verbose", letter := some 'v', role := .flag }]

/-- The request for help. -/
def helpOption : OptionForm :=
  { name := "help", letter := some 'h', role := .help }

/-- The flags that readings give; an earlier reading of the list counts more than a later one. -/
def flagsOf (readings : List Reading) (credentials : Option String) : Flags :=
  let value? := fun name => readings.findSome? fun reading => reading.value? name
  let has := fun name => readings.any fun reading => reading.has name
  { server := value? "server"
    gateway := has "gateway"
    localServer := has "local"
    credentials := (value? "credentials" <|> credentials).getD ""
    verbose := has "verbose" }

/-- Read a list of arguments that holds nothing but flags; credentials may be known beforehand. -/
def readFlags (credentials : Option String) (arguments : List String) :
    Except UsageError Flags := do
  let (reading, _) ← readArguments { options := gateOptions ++ [helpOption] } {} arguments
  .ok (flagsOf [← reading.settle] credentials)

/-- Where the arguments of a call come from. -/
inductive ArgumentSource where
  /-- From the command line itself. -/
  | inline (text : String)
  /-- From a file. -/
  | file (path : String)
deriving DecidableEq, Repr

/-- What a command line asks for. -/
inductive Command where
  /-- Check the arguments of a call against a server description in a file. -/
  | check (descriptor tool : String) (source : ArgumentSource)
  /-- Describe the tools of a server description in a file. -/
  | inspect (descriptor : String)
  /-- Print the format of server descriptions. -/
  | printSchema
deriving DecidableEq, Repr

/-- A command with the flags of the gate. -/
structure Request where
  flags : Flags
  command : Command
deriving DecidableEq, Repr

namespace Request

/-- The words that begin a command. -/
def commandWords : List String :=
  ["check", "inspect", "schema", "help"]

/-- What may stand before a command. -/
def outerGrammar : Grammar :=
  { options :=
      gateOptions ++ [helpOption, { name := "version", letter := some 'V', role := .version }]
    commands := commandWords }

/-- The options and places of a command. -/
def commandGrammar (word : String) : Grammar :=
  match word with
  | "check" =>
      { options :=
          gateOptions ++
            [helpOption,
              { name := "args", role := .valued true },
              { name := "args-file", role := .valued false }]
        places := [("descriptor", false), ("tool", true)] }
  | "inspect" => { options := gateOptions ++ [helpOption], places := [("descriptor", false)] }
  | _ => { options := gateOptions ++ [helpOption] }

/-- Where the arguments come from: from one of two options, or else they are an empty object. -/
def argumentSource (reading : Reading) : Except UsageError ArgumentSource :=
  match reading.value? "args", reading.value? "args-file" with
  | some _, some _ => .error (.conflict "args")
  | some text, none => .ok (.inline text)
  | none, some path => .ok (.file path)
  | none, none => .ok (.inline "\x7b\x7d")

/-- The command of a word and what was read behind it. -/
def commandOf (word : String) (reading : Reading) : Except UsageError Command :=
  match word, reading.placed with
  | "check", [descriptor, tool] => return .check descriptor tool (← argumentSource reading)
  | "check", [_] => .error (.missingArgument "tool")
  | "inspect", [descriptor] => .ok (.inspect descriptor)
  | "schema", _ => .ok .printSchema
  | _, _ => .error (.missingArgument "descriptor")

/-- Whether a list of words names a command that help is asked about. -/
def helpFor (words : List String) : UsageError :=
  match words with
  | [] => .helpRequested
  | [word] => if commandWords.contains word then .helpRequested else .unknownCommand word
  | _ :: word :: _ => .unknownCommand word

/-- Read a command line; credentials may be known beforehand. -/
def read (credentials : Option String) (arguments : List String) : Except UsageError Request := do
  let (outer, rest) ← readArguments outerGrammar {} arguments
  match rest with
  | [] =>
      let _ ← outer.settle
      .error (.missingArgument "command")
  | "help" :: words => .error (helpFor words)
  | word :: arguments =>
      let (inner, _) ← readArguments (commandGrammar word) {} arguments
      let inner ← inner.settle
      let outer ← outer.settle
      .ok { flags := flagsOf [inner, outer] credentials, command := ← commandOf word inner }

end Request

end ToolGate.CommandLine
