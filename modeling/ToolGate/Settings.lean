import ToolGate.Dispatcher
import ToolGate.Text.Class

/-!
# Settings

The settings of the gate are made from the flags on its command line.  They
can be shown for diagnosis, where credentials are never spelled out.
-/

namespace ToolGate

/-- The flags as they were given. -/
structure Flags where
  /-- The one server to serve. -/
  server : Option String := none
  /-- Serve all servers. -/
  gateway : Bool := false
  /-- The server runs on this machine. -/
  localServer : Bool := false
  /-- What the hub asks for. -/
  credentials : String := ""
  /-- Log more. -/
  verbose : Bool := false
deriving DecidableEq, Repr

/-- The settings of the gate. -/
structure Settings where
  /-- Which servers are served. -/
  mode : GateMode
  /-- The server runs on this machine. -/
  localServer : Bool
  /-- What the hub asks for. -/
  credentials : String
  /-- Log more. -/
  verbose : Bool
deriving DecidableEq, Repr

namespace Settings

/-- The mode for flags: one server if it is named and not all are asked for. -/
def modeOf (flags : Flags) : GateMode :=
  match flags.server with
  | some server => if flags.gateway then .gateway else .single server
  | none => .gateway

/-- The settings for flags; a server that is named must have a name. -/
def ofFlags (flags : Flags) : Except GateError Settings :=
  if (flags.server.map Text.isBlank).getD false then
    .error (.configuration "--server must not be empty")
  else
    .ok
      { mode := modeOf flags
        localServer := flags.localServer
        credentials := flags.credentials
        verbose := flags.verbose }

/-- There are credentials. -/
def hasCredentials (settings : Settings) : Bool :=
  settings.credentials != ""

/-- The hexadecimal digits of a number, without leading zeros. -/
def hexDigits (n : Nat) : String :=
  String.ofList (Nat.toDigits 16 n)

/-- A character of a quoted text: what cannot be seen by itself is written by its code. -/
def shownChar (c : Char) : String :=
  match c with
  | '"' => "\\\""
  | '\\' => "\\\\"
  | '\n' => "\\n"
  | '\r' => "\\r"
  | '\t' => "\\t"
  | c =>
      if c.toNat = 0 then "\\0"
      else if Text.graphemeExtenders.contains c || !Text.printables.contains c then
        "\\u\x7b" ++ hexDigits c.toNat ++ "\x7d"
      else String.singleton c

/-- A text in quotes. -/
def shownText (text : String) : String :=
  "\"" ++ String.join (text.toList.map shownChar) ++ "\""

/-- A truth value. -/
def shownBool (value : Bool) : String :=
  if value then "true" else "false"

/-- The mode as shown. -/
def shownMode : GateMode → String
  | .gateway => "Gateway"
  | .single server => "Single(" ++ shownText server ++ ")"

/-- The settings as shown, of credentials only whether there are any. -/
def shown (settings : Settings) : String :=
  "ProxyConfig \x7b mode: " ++ shownMode settings.mode
    ++ ", local: " ++ shownBool settings.localServer
    ++ ", credentials: " ++ shownText (if settings.hasCredentials then "<redacted>" else "<none>")
    ++ ", verbose: " ++ shownBool settings.verbose ++ " \x7d"

end Settings

end ToolGate
