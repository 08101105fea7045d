import ToolGate.Schema.Basic

/-!
# Reading schema nodes from JSON

Every JSON value reads as a node.  A keyword is taken from the first member
under its name.
-/

namespace ToolGate

namespace SchemaNode

/--
A count: a non-negative number of integer form, or a non-negative whole
number of float form cut off at the greatest word.
-/
def count? (value : Json) : Option UInt64 :=
  value.word? <|>
    match value.binary64? with
    | some x =>
        if (Binary64.zero false).le x && x.isWhole then some x.toWord else none
    | none => none

/-- The keywords that hold no further node, read from the members of an object. -/
def readKeywords (members : List (String × Json)) : Keywords :=
  { type := (members.lookup "type").bind Json.string? |>.map SchemaType.ofName
    description := (members.lookup "description").bind Json.string?
    enumeration := (members.lookup "enum").bind Json.array?
    constant := members.lookup "const"
    nullable := ((members.lookup "nullable").bind Json.bool?).getD false
    minItems := (members.lookup "minItems").bind count?
    maxItems := (members.lookup "maxItems").bind count?
    minLength := (members.lookup "minLength").bind count?
    maxLength := (members.lookup "maxLength").bind count?
    pattern := (members.lookup "pattern").bind Json.string?
    format := (members.lookup "format").bind Json.string? |>.map StringFormat.ofName
    minimum := (members.lookup "minimum").bind Json.binary64?
    maximum := (members.lookup "maximum").bind Json.binary64?
    exclusiveMinimum := (members.lookup "exclusiveMinimum").bind Json.binary64?
    exclusiveMaximum := (members.lookup "exclusiveMaximum").bind Json.binary64? }

mutual

/-- The node of a JSON value. -/
def ofJson : Json → SchemaNode
  | .object members => { readChildren members with keywords := readKeywords members }
  | _ => {}

/-- The node of a value that is given as an object. -/
def ofObject? : Json → Option SchemaNode
  | .object members => some { readChildren members with keywords := readKeywords members }
  | _ => none

/-- The nodes of a list. -/
def ofArray? : Json → Option (List SchemaNode)
  | .array elements => some (ofElements elements)
  | _ => none

/-- The named nodes of an object. -/
def ofMembers? : Json → Option (List (String × SchemaNode))
  | .object members => some (ofEntries members)
  | _ => none

/-- The nodes of elements. -/
def ofElements : List Json → List SchemaNode
  | [] => []
  | element :: rest => ofJson element :: ofElements rest

/-- The nodes of named values. -/
def ofEntries : List (String × Json) → List (String × SchemaNode)
  | [] => []
  | (name, value) :: rest => (name, ofJson value) :: ofEntries rest

/-- A node with the children that the members of an object give, and without other keywords. -/
def readChildren : List (String × Json) → SchemaNode
  | [] => {}
  | (name, value) :: rest =>
      match name with
      | "properties" => { readChildren rest with properties := ofMembers? value }
      | "additionalProperties" =>
          { readChildren rest with additionalProperties := ofObject? value }
      | "items" => { readChildren rest with items := ofObject? value }
      | "prefixItems" => { readChildren rest with prefixItems := ofArray? value }
      | "anyOf" => { readChildren rest with anyOf := ofArray? value }
      | "oneOf" => { readChildren rest with oneOf := ofArray? value }
      | "allOf" => { readChildren rest with allOf := ofArray? value }
      | _ => readChildren rest

end

end SchemaNode

end ToolGate
