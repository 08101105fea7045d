import ToolGate.Registry

/-!
# Dispatching calls

A dispatcher checks the arguments of a call against the shape of the tool
and forwards only what passes.  It runs either for one server, whose tools
keep their names, or as a gateway to all servers, whose tools are exposed
under joined names.  The hub is given by what it lists and by how it answers
calls; every forwarded call is recorded.
-/

namespace ToolGate

/-- Which servers a dispatcher serves. -/
inductive GateMode where
  /-- All servers, under joined names. -/
  | gateway
  /-- One server. -/
  | single (server : String)
deriving DecidableEq, Repr

namespace GateMode

/-- The dispatcher serves all servers. -/
def isGateway : GateMode → Bool
  | .gateway => true
  | .single _ => false

/-- The one server, if there is one. -/
def server? : GateMode → Option String
  | .gateway => none
  | .single server => some server

end GateMode

/-- A call that reached the hub. -/
structure ForwardedCall where
  server : String
  tool : String
  arguments : Json

/-- The hub as the dispatcher sees it. -/
structure HubLink where
  /-- The listing of a server. -/
  listTools : String → Except GateError Json
  /-- The answer to a call. -/
  answer : ForwardedCall → Except GateError Json

namespace HubLink

/-- A hub with fixed listings; calls are answered with their target and arguments, or all fail. -/
def canned (listings : List (String × Json)) (failure : Option String) : HubLink :=
  { listTools := fun server =>
      match listings.lookup server with
      | some listing => .ok listing
      | none => .error (.hub ("Unknown server '" ++ server ++ "'"))
    answer := fun call =>
      match failure with
      | some message => .error (.hub message)
      | none =>
          .ok <| .object
            [("content", .array [.object
                [("type", .string "text"), ("text", .string (call.server ++ "/" ++ call.tool))]]),
              ("structuredContent", call.arguments)] }

/-- A hub that has one listing for every server and gives the arguments of calls back. -/
def dryRun (listing : Json) : HubLink :=
  { listTools := fun _ => .ok listing
    answer := fun call => .ok call.arguments }

end HubLink

/-- A dispatcher: its registry and what it has forwarded. -/
structure Dispatcher where
  /-- The servers it serves. -/
  mode : GateMode
  /-- The registered tools. -/
  registry : Registry := {}
  /-- The calls that reached the hub, in order. -/
  forwarded : List ForwardedCall := []

namespace Dispatcher

/-- Register all tools of a server, under names that the mode gives. -/
def registerServer (dispatcher : Dispatcher) (server : Hub.Server) : Dispatcher :=
  { dispatcher with
    registry :=
      if dispatcher.mode.isGateway then dispatcher.registry.registerServerNamespaced server
      else dispatcher.registry.registerServer server }

/-- The server that the hub lists under a name, unless the dispatcher is bound to another one. -/
def listed (dispatcher : Dispatcher) (hub : HubLink) (server : String) :
    Except GateError Hub.Server :=
  match dispatcher.mode.server? with
  | some bound =>
      if bound = server then (hub.listTools server).bind (GateError.fromHub Hub.Server.ofJson?)
      else .error <| .invalidInput <|
        "Proxy is bound to server '" ++ bound ++ "', cannot load '" ++ server ++ "'"
  | none => (hub.listTools server).bind (GateError.fromHub Hub.Server.ofJson?)

/-- Register the tools that the hub lists for a server; the result is their number. -/
def loadServer (dispatcher : Dispatcher) (hub : HubLink) (server : String) :
    Dispatcher × Except GateError Nat :=
  match dispatcher.listed hub server with
  | .ok listed => (dispatcher.registerServer listed, .ok listed.tools.length)
  | .error error => (dispatcher, .error error)

/-- Remove the tool under a name; the result says whether there was one. -/
def deregisterTool (dispatcher : Dispatcher) (name : String) : Dispatcher × Bool :=
  ({ dispatcher with registry := dispatcher.registry.deregisterTool name },
    dispatcher.registry.contains name)

/-- The call to forward for a name and arguments, if the tool is there and accepts them. -/
def prepare (dispatcher : Dispatcher) (name : String) (arguments : Json) :
    Except GateError ForwardedCall :=
  match dispatcher.registry.validate name arguments with
  | .error error => .error error
  | .ok output =>
      match dispatcher.registry.get? name with
      | none => .error (.toolNotFound name)
      | some tool => .ok { server := tool.server, tool := tool.tool, arguments := output }

/-- Call a tool: what does not pass the check is answered here, all else by the hub. -/
def call (dispatcher : Dispatcher) (hub : HubLink) (name : String) (arguments : Json) :
    Dispatcher × Except GateError Json :=
  match dispatcher.prepare name arguments with
  | .error error => (dispatcher, .error error)
  | .ok call =>
      ({ dispatcher with forwarded := dispatcher.forwarded ++ [call] }, hub.answer call)

end Dispatcher

end ToolGate
