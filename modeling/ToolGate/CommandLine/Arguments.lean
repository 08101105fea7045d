/-!
# Arguments

A list of arguments is read from left to right under a grammar: the options
that exist, how many free arguments may stand between them, and the words
that end the list because a command begins there.

An option that takes a value may have it attached behind `=`; otherwise the
next argument is the value, unless that argument is an option itself.  Such
an option is pending until something else is read, and only then it is
found to lack its value or to have been given before.
-/

namespace ToolGate.CommandLine

/-- Why a list of arguments is refused. -/
inductive UsageError where
  /-- Help is asked for. -/
  | helpRequested
  /-- The version is asked for. -/
  | versionRequested
  /-- There is no such option, or no place for a free argument. -/
  | unknownArgument (argument : String)
  /-- An option lacks its value, or the value is not admitted. -/
  | invalidValue (name : String)
  /-- An option takes no value but has one. -/
  | unexpectedValue (name : String)
  /-- An option is given twice, or beside another one that excludes it. -/
  | conflict (name : String)
  /-- An argument that must be given is missing. -/
  | missingArgument (name : String)
  /-- There is no such command. -/
  | unknownCommand (word : String)
deriving DecidableEq, Repr

/-- What an option does. -/
inductive OptionRole where
  /-- It holds or it does not. -/
  | flag
  /-- It takes a value, which may have to be non-empty. -/
  | valued (mayBeEmpty : Bool)
  /-- It asks for help. -/
  | help
  /-- It asks for the version. -/
  | version
deriving DecidableEq, Repr

/-- An option. -/
structure OptionForm where
  /-- The name behind two hyphens. -/
  name : String
  /-- The letter behind one hyphen. -/
  letter : Option Char := none
  /-- What it does. -/
  role : OptionRole
deriving DecidableEq, Repr

/-- What a list of arguments may hold. -/
structure Grammar where
  /-- The options. -/
  options : List OptionForm
  /-- The names of the free arguments, and whether each may be empty. -/
  places : List (String × Bool) := []
  /-- The words that begin a command. -/
  commands : List String := []
deriving Repr

/-- What has been read of a list of arguments. -/
structure Reading where
  /-- The options given so far, with their values. -/
  given : List (String × Option String) := []
  /-- An option whose value is read on its own, and the value if it has been read. -/
  pending : Option (OptionForm × Option String) := none
  /-- The free arguments so far. -/
  placed : List String := []
  /-- All further arguments are free ones. -/
  onlyFree : Bool := false
deriving Repr

namespace Reading

/-- An option has been given. -/
def has (reading : Reading) (name : String) : Bool :=
  reading.given.any fun entry => entry.1 == name

/-- The value of an option. -/
def value? (reading : Reading) (name : String) : Option String :=
  (reading.given.lookup name).join

/-- Take note of an option, which must be a new one. -/
def record (reading : Reading) (name : String) (value : Option String) :
    Except UsageError Reading :=
  if reading.has name then .error (.conflict name)
  else .ok { reading with given := reading.given ++ [(name, value)] }

/-- Take note of an option with its value. -/
def recordValue (reading : Reading) (option : OptionForm) (value : Option String) :
    Except UsageError Reading :=
  match value with
  | none => .error (.invalidValue option.name)
  | some value =>
      if option.role = .valued false ∧ value = "" then .error (.invalidValue option.name)
      else reading.record option.name (some value)

/-- Take note of the pending option. -/
def settle (reading : Reading) : Except UsageError Reading :=
  match reading.pending with
  | none => .ok reading
  | some (option, value) => { reading with pending := none }.recordValue option value

/-- The pending option still waits for its value. -/
def awaitsValue (reading : Reading) : Option OptionForm :=
  match reading.pending with
  | some (option, none) => some option
  | _ => none

/-- React to an option that stands alone. -/
def react (reading : Reading) (option : OptionForm) : Except UsageError Reading := do
  let reading ← reading.settle
  match option.role with
  | .help => .error .helpRequested
  | .version => .error .versionRequested
  | .flag => reading.record option.name none
  | .valued _ => .ok { reading with pending := some (option, none) }

/-- Read an option by its name, with an attached value if there is one. -/
def readName (grammar : Grammar) (reading : Reading) (name : String) (value : Option String) :
    Except UsageError Reading :=
  match grammar.options.find? fun option => option.name == name with
  | none => .error (.unknownArgument name)
  | some option =>
      match option.role, value with
      | .valued _, some value => do
          let reading ← reading.settle
          reading.recordValue option (some value)
      | _, some _ => .error (.unexpectedValue name)
      | _, none => reading.react option

/-- Read options by their letters. -/
def readLetters (grammar : Grammar) : Reading → List Char → Except UsageError Reading
  | reading, [] => .ok reading
  | reading, letter :: letters =>
      match grammar.options.find? fun option => option.letter == some letter with
      | none => .error (.unknownArgument (String.singleton letter))
      | some option => do readLetters grammar (← reading.react option) letters

/-- Put a free argument into the next place. -/
def place (grammar : Grammar) (reading : Reading) (argument : String) :
    Except UsageError Reading :=
  match grammar.places[reading.placed.length]? with
  | none => .error (.unknownArgument argument)
  | some (name, mayBeEmpty) => do
      let reading ← reading.settle
      if !mayBeEmpty && argument == "" then .error (.invalidValue name)
      else .ok { reading with placed := reading.placed ++ [argument] }

end Reading

/-- The two sides of the first equals sign. -/
def splitValue : List Char → List Char × Option (List Char)
  | [] => ([], none)
  | '=' :: rest => ([], some rest)
  | c :: rest =>
      let (name, value) := splitValue rest
      (c :: name, value)

/-- How an argument looks. -/
inductive ArgumentForm where
  /-- Two hyphens alone: all further arguments are free. -/
  | separator
  /-- Two hyphens and a name, maybe with an attached value. -/
  | named (name : String) (value : Option String)
  /-- One hyphen and letters. -/
  | lettered (letters : List Char)
  /-- Anything else, a hyphen alone included. -/
  | free
deriving DecidableEq, Repr

/-- The form of an argument. -/
def ArgumentForm.of (argument : String) : ArgumentForm :=
  match argument.toList with
  | ['-', '-'] => .separator
  | '-' :: '-' :: rest =>
      let (name, value) := splitValue rest
      .named (String.ofList name) (value.map String.ofList)
  | '-' :: letter :: letters => .lettered (letter :: letters)
  | _ => .free

/-- Read arguments up to their end, or up to a word that begins a command. -/
def readArguments (grammar : Grammar) :
    Reading → List String → Except UsageError (Reading × List String)
  | reading, [] => .ok (reading, [])
  | reading, argument :: rest =>
      if reading.onlyFree then do
        readArguments grammar (← reading.place grammar argument) rest
      else if reading.awaitsValue.isNone && reading.placed.isEmpty
          && grammar.commands.contains argument then
        .ok (reading, argument :: rest)
      else
        match ArgumentForm.of argument with
        | .separator => readArguments grammar { reading with onlyFree := true } rest
        | .named name value => do
            readArguments grammar (← reading.readName grammar name value) rest
        | .lettered letters => do
            readArguments grammar (← reading.readLetters grammar letters) rest
        | .free =>
            match reading.awaitsValue with
            | some option =>
                readArguments grammar { reading with pending := some (option, some argument) } rest
            | none => do readArguments grammar (← reading.place grammar argument) rest

end ToolGate.CommandLine
