import ToolGate.Hub.Tool

/-!
# Reports for people

A server is described by its tools, and a tool by a summary of the validator
of its arguments.
-/

namespace ToolGate

namespace Validator

mutual

/-- The summary of a validator. -/
def summary : Validator → Json
  | ⟨kind, description⟩ => .object (summaryMembers kind description)

/-- What every summary says, followed by what the kind adds. -/
def summaryMembers (kind : ValidatorKind) (description : String) : List (String × Json) :=
  [("kind", .string kind.name),
    ("nullable", .bool (match kind with | .nullable _ => true | _ => false)),
    ("description", .string description)]
  ++ kindDetails kind

/-- The details of a kind; a nullable one has those of the kind below it. -/
def kindDetails : ValidatorKind → List (String × Json)
  | .nullable ⟨inner, _⟩ => ownDetails inner
  | .object ⟨fields, _⟩ => [("fields", .object (fieldSummaries fields))]
  | .array ⟨items, _, _⟩ => itemDetails items
  | .tuple branches => [("branches", .array (branchSummaries branches))]
  | .union branches => [("branches", .array (branchSummaries branches))]
  | .intersection branches => [("branches", .array (branchSummaries branches))]
  | .record values => [("values", summary values)]
  | .literal value => [("value", value)]
  | _ => []

/-- The details of a kind below a nullable one, where a further nullable one has none. -/
def ownDetails : ValidatorKind → List (String × Json)
  | .object ⟨fields, _⟩ => [("fields", .object (fieldSummaries fields))]
  | .array ⟨items, _, _⟩ => itemDetails items
  | .tuple branches => [("branches", .array (branchSummaries branches))]
  | .union branches => [("branches", .array (branchSummaries branches))]
  | .intersection branches => [("branches", .array (branchSummaries branches))]
  | .record values => [("values", summary values)]
  | .literal value => [("value", value)]
  | _ => []

/-- The summary of what an array holds. -/
def itemDetails : Option Validator → List (String × Json)
  | none => []
  | some items => [("items", summary items)]

/-- The summaries of branches. -/
def branchSummaries : List Validator → List Json
  | [] => []
  | branch :: rest => summary branch :: branchSummaries rest

/-- The summaries of fields, each with a word on whether it may be missing. -/
def fieldSummaries : List (String × Field) → List (String × Json)
  | [] => []
  | (name, ⟨⟨kind, description⟩, optional⟩) :: rest =>
      (name, .object (summaryMembers kind description ++ [("optional", .bool optional)]))
        :: fieldSummaries rest

end

end Validator

namespace Hub

/-- The report on a tool. -/
def Tool.report (policy : UnknownKeys) (tool : Tool) : Json :=
  .object
    [("name", .string tool.name),
      ("description", .string tool.description),
      ("arguments", (tool.shape policy).toValidator.summary)]

/-- The report on a server. -/
def Server.report (policy : UnknownKeys) (server : Server) : Json :=
  .object
    [("server", .string server.name),
      ("tools", .array (server.tools.map (Tool.report policy)))]

/-- A schema of a type. -/
def schemaOfType (type : String) : Json :=
  .object [("type", .string type)]

/-- A schema of lists. -/
def schemaOfList (items : Json) : Json :=
  .object [("type", .string "array"), ("items", items)]

/-- The format of tool descriptions, as a JSON schema. -/
def Tool.format : Json :=
  .object
    [("description", .string "A tool exposed by a hub server"),
      ("type", .string "object"),
      ("required", strings ["description", "input_schema", "name", "required_inputs"]),
      ("properties", .object
        [("description", schemaOfType "string"),
          ("input_schema", .object
            [("description", .string "Parameter name to schema node"),
              ("type", .string "object"),
              ("additionalProperties", .bool true)]),
          ("name", schemaOfType "string"),
          ("required_inputs", schemaOfList (schemaOfType "string"))])]

/-- The format of server descriptions, as a JSON schema. -/
def Server.format : Json :=
  .object
    [("$schema", .string "http://json-schema.org/draft-07/schema#"),
      ("title", .string "ServerDescriptor"),
      ("description", .string "One hub server and its tools"),
      ("type", .string "object"),
      ("required", strings ["id", "server", "tools"]),
      ("properties", .object
        [("id", schemaOfType "string"),
          ("server", schemaOfType "string"),
          ("tools", schemaOfList
            (.object [("$ref", .string "#/definitions/ToolDescriptor")]))]),
      ("definitions", .object [("ToolDescriptor", Tool.format)])]

end Hub

end ToolGate
