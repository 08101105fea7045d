import ToolGate.Schema.Basic

/-!
# Writing schema nodes as JSON

A node is written as an object with its keywords in a fixed order; keywords
that are absent, and `nullable` when it does not hold, are not written.
-/

namespace ToolGate

namespace SchemaNode

/-- A member that is written if its value is there. -/
def optionalMember (name : String) (value : Option Json) : List (String × Json) :=
  match value with
  | some value => [(name, value)]
  | none => []

mutual

/-- The JSON form of a node. -/
def toJson : SchemaNode → Json
  | ⟨keywords, properties, additionalProperties, items, prefixItems, anyOf, oneOf, allOf⟩ =>
      .object <|
        optionalMember "type" (keywords.type.map fun type => .string type.name)
          ++ optionalMember "description" (keywords.description.map .string)
          ++ optionalMember "enum" (keywords.enumeration.map .array)
          ++ optionalMember "const" keywords.constant
          ++ optionalMember "nullable" (if keywords.nullable then some (.bool true) else none)
          ++ optionalMember "properties" (membersToJson? properties)
          ++ optionalMember "additionalProperties" (toJson? additionalProperties)
          ++ optionalMember "items" (toJson? items)
          ++ optionalMember "prefixItems" (listToJson? prefixItems)
          ++ optionalMember "minItems" (keywords.minItems.map .ofWord)
          ++ optionalMember "maxItems" (keywords.maxItems.map .ofWord)
          ++ optionalMember "minLength" (keywords.minLength.map .ofWord)
          ++ optionalMember "maxLength" (keywords.maxLength.map .ofWord)
          ++ optionalMember "pattern" (keywords.pattern.map .string)
          ++ optionalMember "format" (keywords.format.map fun format => .string format.name)
          ++ optionalMember "minimum" (keywords.minimum.map .ofBinary64)
          ++ optionalMember "maximum" (keywords.maximum.map .ofBinary64)
          ++ optionalMember "exclusiveMinimum" (keywords.exclusiveMinimum.map .ofBinary64)
          ++ optionalMember "exclusiveMaximum" (keywords.exclusiveMaximum.map .ofBinary64)
          ++ optionalMember "anyOf" (listToJson? anyOf)
          ++ optionalMember "oneOf" (listToJson? oneOf)
          ++ optionalMember "allOf" (listToJson? allOf)

/-- The JSON form of a child. -/
def toJson? : Option SchemaNode → Option Json
  | none => none
  | some node => some (toJson node)

/-- The JSON form of a list of children. -/
def listToJson? : Option (List SchemaNode) → Option Json
  | none => none
  | some nodes => some (.array (elementsToJson nodes))

/-- The JSON form of named children. -/
def membersToJson? : Option (List (String × SchemaNode)) → Option Json
  | none => none
  | some entries => some (.object (entriesToJson entries))

/-- The JSON forms of nodes. -/
def elementsToJson : List SchemaNode → List Json
  | [] => []
  | node :: rest => toJson node :: elementsToJson rest

/-- The JSON forms of named nodes. -/
def entriesToJson : List (String × SchemaNode) → List (String × Json)
  | [] => []
  | (name, node) :: rest => (name, toJson node) :: entriesToJson rest

end

end SchemaNode

end ToolGate
