import ToolGate.Hub.Record
import ToolGate.Schema.Rendering
import ToolGate.Shape

/-!
# Tools and servers

A server of the hub offers tools; a tool declares its parameters.
-/

namespace ToolGate.Hub

/-- A tool that a server offers. -/
structure Tool where
  /-- The name of the tool on its server. -/
  name : String
  /-- A text for people. -/
  description : String
  /-- The parameters by name. -/
  parameters : List (String × SchemaNode)
  /-- The names of the parameters that must be given. -/
  required : List String

namespace Tool

/-- Read a tool. -/
def ofJson? (value : Json) : Option Tool := do
  let fields ← fields? ["name", "description", "input_schema", "required_inputs"] value
  let name ← requiredField Json.string? fields "name"
  let description ← requiredField Json.string? fields "description"
  let parameters ← requiredField SchemaNode.ofMembers? fields "input_schema"
  let required ← requiredField (list? Json.string?) fields "required_inputs"
  some { name, description, parameters, required }

/-- Write a tool. -/
def toJson (tool : Tool) : Json :=
  .object
    [("name", .string tool.name),
      ("description", .string tool.description),
      ("input_schema", .object (SchemaNode.entriesToJson tool.parameters)),
      ("required_inputs", strings tool.required)]

/-- The shape of the tool's arguments. -/
def shape (policy : UnknownKeys) (tool : Tool) : Shape :=
  Shape.infer policy tool.parameters tool.required

/-- The parameters as the schema of one object, which is how clients expect them. -/
def inputSchema (tool : Tool) : Json :=
  .object
    [("type", .string "object"),
      ("properties", .object (SchemaNode.entriesToJson tool.parameters)),
      ("required", strings tool.required)]

end Tool

/-- A server and its tools. -/
structure Server where
  /-- The identifier in the hub. -/
  id : String
  /-- The name of the server. -/
  name : String
  /-- The tools it offers. -/
  tools : List Tool

namespace Server

/-- Read a server. -/
def ofJson? (value : Json) : Option Server := do
  let fields ← fields? ["id", "server", "tools"] value
  let id ← requiredField Json.string? fields "id"
  let name ← requiredField Json.string? fields "server"
  let tools ← requiredField (list? Tool.ofJson?) fields "tools"
  some { id, name, tools }

/-- Write a server. -/
def toJson (server : Server) : Json :=
  .object
    [("id", .string server.id),
      ("server", .string server.name),
      ("tools", .array (server.tools.map Tool.toJson))]

/-- The first tool of a name. -/
def tool? (server : Server) (name : String) : Option Tool :=
  server.tools.find? fun tool => tool.name == name

end Server

end ToolGate.Hub
