import ToolGate.Json.Equality

/-!
# Schema nodes

A schema node describes the values of one parameter.  Its keywords are read
leniently: one whose value has an unexpected type counts as absent, and a
node that is not an object has no keyword at all.  Keywords without further
nodes inside are kept apart from the children of a node.
-/

namespace ToolGate

/-- The type that a node declares. -/
inductive SchemaType where
  | string
  | number
  | integer
  | boolean
  | object
  | array
  | null
  /-- A name that stands for no known type. -/
  | unrecognized (name : String)
deriving DecidableEq, Repr

namespace SchemaType

/-- The type of a name. -/
def ofName : String → SchemaType
  | "string" => .string
  | "number" => .number
  | "integer" => .integer
  | "boolean" => .boolean
  | "object" => .object
  | "array" => .array
  | "null" => .null
  | name => .unrecognized name

/-- The name of a type. -/
def name : SchemaType → String
  | .string => "string"
  | .number => "number"
  | .integer => "integer"
  | .boolean => "boolean"
  | .object => "object"
  | .array => "array"
  | .null => "null"
  | .unrecognized name => name

end SchemaType

/-- The format that a string node asks for. -/
inductive StringFormat where
  | email
  | url
  | uuid
  | dateTime
  | date
  | time
  | ipv4
  | ipv6
  | ip
  /-- A name that stands for no known format. -/
  | other (name : String)
deriving DecidableEq, Repr

namespace StringFormat

/-- The format of a name; two formats have a second name. -/
def ofName : String → StringFormat
  | "email" => .email
  | "url" => .url
  | "uri" => .url
  | "uuid" => .uuid
  | "date-time" => .dateTime
  | "datetime" => .dateTime
  | "date" => .date
  | "time" => .time
  | "ipv4" => .ipv4
  | "ipv6" => .ipv6
  | "ip" => .ip
  | name => .other name

/-- The first name of a format. -/
def name : StringFormat → String
  | .email => "email"
  | .url => "url"
  | .uuid => "uuid"
  | .dateTime => "date-time"
  | .date => "date"
  | .time => "time"
  | .ipv4 => "ipv4"
  | .ipv6 => "ipv6"
  | .ip => "ip"
  | .other name => name

end StringFormat

/-- The keywords of a node that hold no further node. -/
structure Keywords where
  /-- The declared type. -/
  type : Option SchemaType := none
  /-- A text for people. -/
  description : Option String := none
  /-- The list of admitted values. -/
  enumeration : Option (List Json) := none
  /-- The one admitted value. -/
  constant : Option Json := none
  /-- Whether `null` is admitted beside all else. -/
  nullable : Bool := false
  /-- The least number of elements. -/
  minItems : Option UInt64 := none
  /-- The greatest number of elements. -/
  maxItems : Option UInt64 := none
  /-- The least number of characters. -/
  minLength : Option UInt64 := none
  /-- The greatest number of characters. -/
  maxLength : Option UInt64 := none
  /-- A regular expression for the whole string. -/
  pattern : Option String := none
  /-- The format of a string. -/
  format : Option StringFormat := none
  /-- A lower bound that is admitted itself. -/
  minimum : Option Binary64 := none
  /-- An upper bound that is admitted itself. -/
  maximum : Option Binary64 := none
  /-- A lower bound that is not admitted itself. -/
  exclusiveMinimum : Option Binary64 := none
  /-- An upper bound that is not admitted itself. -/
  exclusiveMaximum : Option Binary64 := none

/-- A schema node. -/
structure SchemaNode where
  /-- The keywords without nodes inside. -/
  keywords : Keywords := {}
  /-- The declared members of an object. -/
  properties : Option (List (String × SchemaNode)) := none
  /-- The node of every member of an object. -/
  additionalProperties : Option SchemaNode := none
  /-- The node of every element of an array. -/
  items : Option SchemaNode := none
  /-- The nodes of the elements of an array, place by place. -/
  prefixItems : Option (List SchemaNode) := none
  /-- Alternatives. -/
  anyOf : Option (List SchemaNode) := none
  /-- Alternatives under another name. -/
  oneOf : Option (List SchemaNode) := none
  /-- Nodes that all hold. -/
  allOf : Option (List SchemaNode) := none

/-- The part of a node that decides what it means. -/
inductive NodeKind where
  /-- One admitted value. -/
  | constant (value : Json)
  /-- Alternatives. -/
  | union (branches : List SchemaNode)
  /-- Nodes that all hold. -/
  | intersection (branches : List SchemaNode)
  /-- A declared type, or none. -/
  | typed (type : Option SchemaType)

namespace SchemaNode

instance : Inhabited SchemaNode := ⟨{}⟩

/-- A constant comes before alternatives, these before a conjunction, and this before a type. -/
def kind (node : SchemaNode) : NodeKind :=
  match node.keywords.constant with
  | some value => .constant value
  | none =>
      match node.anyOf <|> node.oneOf with
      | some branches => .union branches
      | none =>
          match node.allOf with
          | some branches => .intersection branches
          | none => .typed node.keywords.type

/-- The description, empty if there is none. -/
def descriptionText (node : SchemaNode) : String :=
  node.keywords.description.getD ""

end SchemaNode

end ToolGate
