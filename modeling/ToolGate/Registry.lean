import ToolGate.GateError
import ToolGate.Hub.Tool
import ToolGate.ToolName

/-!
# The registry of tools

Every registered tool has its compiled shape under the name by which it is
exposed.  Names are listed in the order of registration; registering a name
again replaces its tool in place.
-/

namespace ToolGate

/-- A tool under its exposed name. -/
structure RegisteredTool where
  /-- The server that owns the tool. -/
  server : String
  /-- The name of the tool on its server. -/
  tool : String
  /-- A text for people. -/
  description : String
  /-- The shape of the arguments. -/
  shape : Shape
  /-- The schema shown to clients. -/
  inputSchema : Json

/-- The tools by exposed name. -/
structure Registry where
  /-- What happens to undeclared members of objects. -/
  policy : UnknownKeys := default
  /-- The tools, in order. -/
  tools : List (String × RegisteredTool) := []

namespace Registry

/-- The entry of a tool of a server. -/
def entryOf (policy : UnknownKeys) (server : String) (tool : Hub.Tool) : RegisteredTool :=
  { server
    tool := tool.name
    description := tool.description
    shape := tool.shape policy
    inputSchema := tool.inputSchema }

/-- Register a tool of a server under a name. -/
def registerTool (registry : Registry) (exposed server : String) (tool : Hub.Tool) : Registry :=
  { registry with
    tools := Entries.insert exposed (entryOf registry.policy server tool) registry.tools }

/-- Register all tools of a server, each under a name made from its own. -/
def registerAll (registry : Registry) (expose : String → String) (server : Hub.Server) :
    Registry :=
  server.tools.foldl
    (fun registry tool => registry.registerTool (expose tool.name) server.name tool) registry

/-- Register all tools of a server under their own names. -/
def registerServer (registry : Registry) (server : Hub.Server) : Registry :=
  registry.registerAll id server

/-- Register all tools of a server under names joined with the server's. -/
def registerServerNamespaced (registry : Registry) (server : Hub.Server) : Registry :=
  registry.registerAll (ToolName.join server.name) server

/-- The tool under a name. -/
def get? (registry : Registry) (name : String) : Option RegisteredTool :=
  registry.tools.lookup name

/-- A tool is registered under the name. -/
def contains (registry : Registry) (name : String) : Bool :=
  Entries.contains registry.tools name

/-- The exposed names, in order. -/
def names (registry : Registry) : List String :=
  Entries.names registry.tools

/-- The number of tools. -/
def size (registry : Registry) : Nat :=
  registry.tools.length

/-- No tool is registered. -/
def isEmpty (registry : Registry) : Bool :=
  registry.tools.isEmpty

/-- Remove the tool under a name. -/
def deregisterTool (registry : Registry) (name : String) : Registry :=
  { registry with tools := Entries.erase registry.tools name }

/-- Remove all tools of a server; the result is their number. -/
def deregisterServer (registry : Registry) (server : String) : Registry × Nat :=
  let kept := registry.tools.filter fun entry => entry.2.server != server
  ({ registry with tools := kept }, registry.size - kept.length)

/-- The output for arguments of the tool under a name. -/
def validate (registry : Registry) (name : String) (arguments : Json) : Except GateError Json :=
  match registry.get? name with
  | none => .error (.toolNotFound name)
  | some tool =>
      if arguments.isObject then
        match tool.shape.validate arguments with
        | .ok output => .ok output
        | .error issues => .error (.validation issues)
      else
        .error (.validation [⟨.root, .invalidType "object" arguments.typeName⟩])

end Registry

end ToolGate
