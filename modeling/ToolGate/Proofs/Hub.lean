import ToolGate.Proofs.Hub.Reading
import ToolGate.Proofs.Schema.Rendering

/-!
# Tools between the hub and the clients

A tool is read from the hub and shown to clients by its input schema.  Its
parameters have been read as nodes, and such nodes survive being written, so
the input schema gives back all that the shape of the arguments is made of.
-/

namespace ToolGate

/-- The shape that the properties and the required names of an input schema describe. -/
def Shape.ofInputSchema? (policy : UnknownKeys) (schema : Json) : Option Shape := do
  let parameters ← (schema.get? "properties").bind SchemaNode.ofMembers?
  let required ← (schema.get? "required").bind (Hub.list? Json.string?)
  some (infer policy parameters required)

namespace Hub

/-- The tools of a server that is read have been read one by one. -/
theorem Server.exists_read_of_mem_tools {content : Json} {server : Server}
    (given : ofJson? content = some server) :
    ∀ tool ∈ server.tools, ∃ part, Tool.ofJson? part = some tool := by
  intro tool member
  rcases (ofJson?_eq_some_iff.mp given).tools with ⟨records, _, described⟩
  rcases described.exists_of_mem_right member with ⟨record, _, describes⟩
  exact ⟨record, Tool.ofJson?_eq_some_iff.mpr describes⟩

/-- The input schema of a tool describes its shape if its parameters survive being written. -/
theorem Tool.ofInputSchema?_inputSchema (policy : UnknownKeys) {tool : Tool}
    (back : ∀ parameter ∈ tool.parameters,
      SchemaNode.ofJson parameter.2.toJson = parameter.2) :
    Shape.ofInputSchema? policy tool.inputSchema = some (tool.shape policy) := by
  have properties : tool.inputSchema.get? "properties" =
      some (.object (SchemaNode.entriesToJson tool.parameters)) := rfl
  have required : tool.inputSchema.get? "required" = some (strings tool.required) := rfl
  rw [Shape.ofInputSchema?, properties, required, SchemaNode.entriesToJson_eq, Option.bind_some,
    Option.bind_some, SchemaNode.ofMembers?_toJson back, list?_string?_eq_some_iff.mpr rfl]
  rfl

/-- The parameters of a tool that was read from JSON survive being written. -/
theorem Tool.ofJson_toJson_of_mem_parameters {content : Json} {tool : Tool}
    (given : ofJson? content = some tool) :
    ∀ parameter ∈ tool.parameters, SchemaNode.ofJson parameter.2.toJson = parameter.2 := by
  intro parameter member
  rcases (ofJson?_eq_some_iff.mp given).parameters with ⟨members, _, same⟩
  rw [same] at member
  rcases List.mem_map.mp member with ⟨entry, _, rfl⟩
  exact SchemaNode.ofJson_toJson_ofJson entry.2

end Hub

end ToolGate
