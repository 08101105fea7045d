import ToolGate.Schema.Compilation
import ToolGate.Validator.Check

/-!
# Shapes of arguments

A tool declares its parameters as named schema nodes and a list of required
names.  The shape of its arguments has one field for each parameter, in the
order of the declaration, that may be missing unless the list names it.
-/

namespace ToolGate

namespace Shape

/-- The shape of parameters, of which those in a list must be given. -/
def infer (policy : UnknownKeys) (parameters : List (String × SchemaNode))
    (required : List String) : Shape :=
  { fields := parameters.map fun entry =>
      (entry.1, ⟨entry.2.compile policy, !required.contains entry.1⟩)
    unknownKeys := policy }

/-- The shape of parameters given as a JSON object; another value declares none. -/
def inferFromJson (policy : UnknownKeys) (parameters : Json) (required : List String) : Shape :=
  infer policy ((SchemaNode.ofMembers? parameters).getD []) required

/-- The validator of objects of the shape. -/
def toValidator (shape : Shape) : Validator :=
  .ofKind (.object shape)

/-- The output for arguments, or the issues found in them. -/
def validate (shape : Shape) (arguments : Json) : Except (List Issue) Json :=
  Validator.verdict (Validator.checkKind (.object shape) arguments .root #[])

/-- The field of a name. -/
def get? (shape : Shape) (name : String) : Option Field :=
  shape.fields.lookup name

/-- The names of all fields. -/
def fieldNames (shape : Shape) : List String :=
  Entries.names shape.fields

/-- The names of the fields that must be given. -/
def requiredNames (shape : Shape) : List String :=
  Entries.names (shape.fields.filter fun entry => !entry.2.optional)

/-- The number of fields. -/
def size (shape : Shape) : Nat :=
  shape.fields.length

/-- There is no field. -/
def isEmpty (shape : Shape) : Bool :=
  shape.fields.isEmpty

end Shape

end ToolGate
