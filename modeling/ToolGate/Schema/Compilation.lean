import ToolGate.Schema.Reading
import ToolGate.Validator.Basic

/-!
# From schema nodes to validators

Every node has a validator: a node that says nothing, says it in an unknown
way or contradicts itself accepts more rather than less.  A composition of
no branches accepts everything, and one of a single branch is that branch.
-/

namespace ToolGate

namespace SchemaNode

/-- The admitted values of a node; an empty list counts as none. -/
def enumeration? (keywords : Keywords) : Option (List Json) :=
  match keywords.enumeration with
  | some [] => none
  | other => other

/-- The validator of several values, of which one suffices. -/
def literals (values : List Json) : Validator :=
  match values with
  | [value] => .literal value
  | values => .ofKind (.union (values.map .literal))

/-- The strings of a list that holds nothing else. -/
def strings? (values : List Json) : Option (List String) :=
  values.mapM Json.string?

/-- The format of a node, unless it is an unknown one. -/
def knownFormat? (keywords : Keywords) : Option StringFormat :=
  match keywords.format with
  | some (.other _) => none
  | other => other

/-- The validator of a string node. -/
def compileString (keywords : Keywords) : Validator :=
  match enumeration? keywords with
  | some values =>
      match strings? values with
      | some allowed => .ofKind (.string { allowed := some allowed })
      | none => literals values
  | none =>
      .ofKind <| .string
        { minLength := keywords.minLength
          maxLength := keywords.maxLength
          pattern := keywords.pattern.bind Pattern.whole?
          format := knownFormat? keywords }

/-- The bounds of a node. -/
def numberRules (keywords : Keywords) : NumberRules :=
  { minimum := keywords.minimum
    maximum := keywords.maximum
    exclusiveMinimum := keywords.exclusiveMinimum
    exclusiveMaximum := keywords.exclusiveMaximum }

/-- The validator of a number node, the kind of which is made from its bounds. -/
def compileNumber (kind : NumberRules → ValidatorKind) (keywords : Keywords) : Validator :=
  match enumeration? keywords with
  | some values => literals values
  | none => .ofKind (kind (numberRules keywords))

/-- Branches joined by a composition, which one branch or none does not need. -/
def compose (join : List Validator → ValidatorKind) : List Validator → Validator
  | [] => .unknown
  | [branch] => branch
  | branches => .ofKind (join branches)

/-- The description and the nullable layer that a node puts around its validator. -/
def finish (keywords : Keywords) (validator : Validator) : Validator :=
  let described := validator.withDescription (keywords.description.getD "")
  if keywords.nullable then described.nullable else described

/-- The first of two optional lists of branches that is there. -/
def alternatives? (first second : Option (List Validator)) : Option (List Validator) :=
  first <|> second

/-- The validator of an object node from its compiled children. -/
def compileObject (policy : UnknownKeys) (fields : Option (List (String × Field)))
    (values : Option Validator) : Validator :=
  match fields, values with
  | some fields, _ => .ofKind (.object ⟨fields, policy⟩)
  | none, some values => .ofKind (.record values)
  | none, none => .unknown

/-- The validator of an array node from its compiled children. -/
def compileArray (keywords : Keywords) (slots : Option (List Validator))
    (items : Option Validator) : Validator :=
  match slots, items with
  | some slots, _ => .ofKind (.tuple slots)
  | none, some items => .ofKind (.array ⟨some items, keywords.minItems, keywords.maxItems⟩)
  | none, none => .ofKind (.array ⟨none, none, none⟩)

mutual

/-- The validator of a node, whose objects treat undeclared members by a policy. -/
def compile (policy : UnknownKeys) : SchemaNode → Validator
  | ⟨keywords, properties, additionalProperties, items, prefixItems, anyOf, oneOf, allOf⟩ =>
      finish keywords <|
        match keywords.constant with
        | some value => .literal value
        | none =>
            match alternatives? (compileList? policy anyOf) (compileList? policy oneOf) with
            | some branches => compose .union branches
            | none =>
                match compileList? policy allOf with
                | some branches => compose .intersection branches
                | none =>
                    match keywords.type with
                    | some .string => compileString keywords
                    | some .number => compileNumber .number keywords
                    | some .integer => compileNumber .integer keywords
                    | some .boolean => .ofKind .boolean
                    | some .null => .ofKind .null
                    | some .object =>
                        compileObject policy (compileFields? policy properties)
                          (compile? policy additionalProperties)
                    | some .array =>
                        compileArray keywords (compileList? policy prefixItems)
                          (compile? policy items)
                    | some (.unrecognized _) => .unknown
                    | none => .unknown

/-- The validator of a child. -/
def compile? (policy : UnknownKeys) : Option SchemaNode → Option Validator
  | none => none
  | some node => some (compile policy node)

/-- The validators of a list of children. -/
def compileList? (policy : UnknownKeys) : Option (List SchemaNode) → Option (List Validator)
  | none => none
  | some nodes => some (compileList policy nodes)

/-- The fields of named children, all of which must be there. -/
def compileFields? (policy : UnknownKeys) :
    Option (List (String × SchemaNode)) → Option (List (String × Field))
  | none => none
  | some entries => some (compileFields policy entries)

/-- The validators of nodes. -/
def compileList (policy : UnknownKeys) : List SchemaNode → List Validator
  | [] => []
  | node :: rest => compile policy node :: compileList policy rest

/-- The fields of named nodes, all of which must be there. -/
def compileFields (policy : UnknownKeys) :
    List (String × SchemaNode) → List (String × Field)
  | [] => []
  | (name, node) :: rest => (name, ⟨compile policy node, false⟩) :: compileFields policy rest

end

end SchemaNode

end ToolGate
