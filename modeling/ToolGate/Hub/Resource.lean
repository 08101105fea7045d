import ToolGate.Hub.Record

/-!
# Resources

A server of the hub lists resources; a resource that has been read carries a
text, encoded bytes, or both.
-/

namespace ToolGate.Hub

/-- A resource that a server lists. -/
structure Resource where
  uri : String
  name : String
  description : Option String
  mimeType : Option String
deriving DecidableEq

namespace Resource

/-- Read a resource. -/
def ofJson? (value : Json) : Option Resource := do
  let fields ← fields? ["uri", "name", "description", "mimeType"] value
  let uri ← requiredField Json.string? fields "uri"
  let name ← requiredField Json.string? fields "name"
  let description ← optionalField Json.string? fields "description"
  let mimeType ← optionalField Json.string? fields "mimeType"
  some { uri, name, description, mimeType }

/-- Write a resource. -/
def toJson (resource : Resource) : Json :=
  .object <|
    [("uri", .string resource.uri), ("name", .string resource.name)]
      ++ optionalText "description" resource.description
      ++ optionalText "mimeType" resource.mimeType

end Resource

/-- The resources of one server. -/
structure Resources where
  id : String
  server : String
  resources : List Resource
deriving DecidableEq

namespace Resources

/-- Read the resources of a server. -/
def ofJson? (value : Json) : Option Resources := do
  let fields ← fields? ["id", "server", "resources"] value
  let id ← requiredField Json.string? fields "id"
  let server ← requiredField Json.string? fields "server"
  let resources ← requiredField (list? Resource.ofJson?) fields "resources"
  some { id, server, resources }

/-- Write the resources of a server. -/
def toJson (listing : Resources) : Json :=
  .object
    [("id", .string listing.id),
      ("server", .string listing.server),
      ("resources", .array (listing.resources.map Resource.toJson))]

end Resources

/-- The body of a resource. -/
structure ResourceContent where
  uri : String
  mimeType : Option String
  text : Option String
  blob : Option String
deriving DecidableEq

namespace ResourceContent

/-- The body holds something. -/
def hasBody (content : ResourceContent) : Bool :=
  content.text.isSome || content.blob.isSome

/-- Read a body, which holds a text, encoded bytes, or both. -/
def ofJson? (value : Json) : Option ResourceContent := do
  let fields ← fields? ["uri", "mimeType", "text", "blob"] value
  let uri ← requiredField Json.string? fields "uri"
  let mimeType ← optionalField Json.string? fields "mimeType"
  let text ← optionalField Json.string? fields "text"
  let blob ← optionalField Json.string? fields "blob"
  let content : ResourceContent := { uri, mimeType, text, blob }
  if content.hasBody then some content else none

/-- Write a body. -/
def toJson (content : ResourceContent) : Json :=
  .object <|
    [("uri", .string content.uri)]
      ++ optionalText "mimeType" content.mimeType
      ++ optionalText "text" content.text
      ++ optionalText "blob" content.blob

end ResourceContent

end ToolGate.Hub
