import ToolGate.Issue
import ToolGate.Json.Reader

/-!
# Errors

Every operation of the gate fails for one of eight causes.  Each cause has a
wording and a code; the code has a number, and the hundreds of the number
name its category.
-/

namespace ToolGate

/-- A code that programs can act on. -/
inductive ErrorCode where
  | configurationInvalid
  | parsingFailed
  | invalidInput
  | validationFailed
  | externalServiceError
  | unsupportedOperation
  | messageMalformed
  | internalError
deriving DecidableEq, Repr

namespace ErrorCode

/-- All codes. -/
def all : List ErrorCode :=
  [.configurationInvalid, .parsingFailed, .invalidInput, .validationFailed,
    .externalServiceError, .unsupportedOperation, .messageMalformed, .internalError]

/-- The name of a code. -/
def name : ErrorCode → String
  | .configurationInvalid => "ConfigurationInvalid"
  | .parsingFailed => "ParsingFailed"
  | .invalidInput => "InvalidInput"
  | .validationFailed => "ValidationFailed"
  | .externalServiceError => "ExternalServiceError"
  | .unsupportedOperation => "UnsupportedOperation"
  | .messageMalformed => "MessageMalformed"
  | .internalError => "InternalError"

/-- The code of a name. -/
def ofName? (name : String) : Option ErrorCode :=
  all.find? fun code => code.name == name

/-- Read a code: its name, or an object with the name as its only key and `null` under it. -/
def ofJson? : Json → Option ErrorCode
  | .string name => ofName? name
  | .object [(name, .null)] => ofName? name
  | _ => none

/-- The number of a code. -/
def number : ErrorCode → Nat
  | .configurationInvalid => 1202
  | .parsingFailed => 1401
  | .invalidInput => 1402
  | .validationFailed => 1403
  | .externalServiceError => 1603
  | .unsupportedOperation => 1702
  | .messageMalformed => 1703
  | .internalError => 1901

/-- The category of a code, by the hundreds of its number. -/
def category (code : ErrorCode) : String :=
  match code.number / 100 with
  | 12 => "configuration"
  | 14 => "data"
  | 16 => "service"
  | 17 => "protocol"
  | 19 => "internal"
  | _ => "unknown"

end ErrorCode

/-- Why an operation failed. -/
inductive GateError where
  /-- Values were rejected. -/
  | validation (issues : List Issue)
  /-- The request makes no sense. -/
  | invalidInput (message : String)
  /-- No tool is registered under the name. -/
  | toolNotFound (name : String)
  /-- What the hub sent does not parse. -/
  | malformedDescriptor (message : String)
  /-- The configuration is wrong. -/
  | configuration (message : String)
  /-- The hub refused or failed. -/
  | hub (message : String)
  /-- A text is no JSON. -/
  | json (error : JsonError)
  /-- A file could not be used. -/
  | io (message : String)

namespace GateError

/-- The wording of an error. -/
def message : GateError → String
  | .validation issues => "Validation failed: " ++ Issue.messages issues
  | .invalidInput message => "Invalid input: " ++ message
  | .toolNotFound name => "Tool not found: " ++ name
  | .malformedDescriptor message => "Malformed descriptor: " ++ message
  | .configuration message => "Configuration error: " ++ message
  | .hub message => "Hub request failed: " ++ message
  | .json error => "JSON parsing error: " ++ error.message
  | .io message => "I/O error: " ++ message

/-- The code of an error. -/
def code : GateError → ErrorCode
  | .validation _ => .validationFailed
  | .invalidInput _ => .invalidInput
  | .toolNotFound _ => .unsupportedOperation
  | .malformedDescriptor _ => .messageMalformed
  | .configuration _ => .configurationInvalid
  | .hub _ => .externalServiceError
  | .json _ => .parsingFailed
  | .io _ => .internalError

/-- Trying again may help: the cause lies outside. -/
def isRetryable : GateError → Bool
  | .hub _ => true
  | .io _ => true
  | _ => false

end GateError

/-- The text for everything the hub sends that does not parse. -/
def malformedHubResponse : String := "Invalid response format from MCP-HUB"

/-- What a strict reader gives, with the error for what the hub sends. -/
def GateError.fromHub {α : Type} (read : Json → Option α) (content : Json) :
    Except GateError α :=
  match read content with
  | some result => .ok result
  | none => .error (.malformedDescriptor malformedHubResponse)

end ToolGate
