import ToolGate.Issue
import ToolGate.Pattern
import ToolGate.Schema.Basic

/-!
# Validators

A validator is a tree that checks values and gives them back as they are to
be passed on.  Each tree has a description for people; the kind of the tree
decides what is accepted.
-/

namespace ToolGate

/-- The rules for strings. -/
structure StringRules where
  /-- The only admitted strings; no other rule counts beside them. -/
  allowed : Option (List String) := none
  /-- The least number of characters. -/
  minLength : Option UInt64 := none
  /-- The greatest number of characters. -/
  maxLength : Option UInt64 := none
  /-- A pattern that the string matches. -/
  pattern : Option Pattern := none
  /-- A format that the string has. -/
  format : Option StringFormat := none

/-- The bounds of numbers. -/
structure NumberRules where
  /-- A lower bound that is admitted itself. -/
  minimum : Option Binary64 := none
  /-- An upper bound that is admitted itself. -/
  maximum : Option Binary64 := none
  /-- A lower bound that is not admitted itself. -/
  exclusiveMinimum : Option Binary64 := none
  /-- An upper bound that is not admitted itself. -/
  exclusiveMaximum : Option Binary64 := none
deriving DecidableEq

/-- What happens to members of an object that no field declares. -/
inductive UnknownKeys where
  /-- They are left out of the output. -/
  | strip
  /-- They are passed on unchecked. -/
  | passthrough
  /-- They are issues. -/
  | strict
deriving DecidableEq, Repr

instance : Inhabited UnknownKeys := ⟨.passthrough⟩

mutual

/-- A validator. -/
structure Validator where
  /-- What the validator accepts. -/
  kind : ValidatorKind
  /-- A text for people. -/
  description : String

/-- What a validator accepts. -/
inductive ValidatorKind where
  /-- Strings. -/
  | string (rules : StringRules)
  /-- Numbers. -/
  | number (rules : NumberRules)
  /-- Whole numbers. -/
  | integer (rules : NumberRules)
  /-- Truth values. -/
  | boolean
  /-- The value `null`. -/
  | null
  /-- Every value. -/
  | unknown
  /-- One value. -/
  | literal (value : Json)
  /-- Arrays whose elements all follow one validator. -/
  | array (rules : ArrayRules)
  /-- Arrays with a validator for each place. -/
  | tuple (slots : List Validator)
  /-- Objects with declared fields. -/
  | object (shape : Shape)
  /-- Objects whose members all follow one validator. -/
  | record (values : Validator)
  /-- Values that some branch accepts. -/
  | union (branches : List Validator)
  /-- Values that every branch accepts. -/
  | intersection (branches : List Validator)
  /-- The value `null` and what another validator accepts. -/
  | nullable (inner : Validator)

/-- The rules for arrays. -/
structure ArrayRules where
  /-- The validator of every element. -/
  items : Option Validator
  /-- The least number of elements. -/
  minItems : Option UInt64
  /-- The greatest number of elements. -/
  maxItems : Option UInt64

/-- The declared fields of an object, and what happens to others. -/
structure Shape where
  /-- The fields by name, in order. -/
  fields : List (String × Field)
  /-- What happens to members that no field declares. -/
  unknownKeys : UnknownKeys

/-- A declared field. -/
structure Field where
  /-- The validator of the member. -/
  validator : Validator
  /-- Whether the member may be missing. -/
  optional : Bool

end

instance : Inhabited Validator := ⟨⟨.unknown, ""⟩⟩

namespace ValidatorKind

/-- The name of a kind. -/
def name : ValidatorKind → String
  | .string _ => "string"
  | .number _ => "number"
  | .integer _ => "integer"
  | .boolean => "boolean"
  | .null => "null"
  | .unknown => "unknown"
  | .literal _ => "literal"
  | .array _ => "array"
  | .tuple _ => "tuple"
  | .object _ => "object"
  | .record _ => "record"
  | .union _ => "union"
  | .intersection _ => "intersection"
  | .nullable _ => "nullable"

/-- The kind with another policy for undeclared members, through any number of nullable layers. -/
def withUnknownKeys (policy : UnknownKeys) : ValidatorKind → ValidatorKind
  | .object ⟨fields, _⟩ => .object ⟨fields, policy⟩
  | .nullable ⟨inner, description⟩ => .nullable ⟨withUnknownKeys policy inner, description⟩
  | kind => kind

end ValidatorKind

namespace Validator

/-- A validator without description. -/
def ofKind (kind : ValidatorKind) : Validator :=
  ⟨kind, ""⟩

/-- The validator of every value. -/
def unknown : Validator :=
  .ofKind .unknown

/-- The validator of one value. -/
def literal (value : Json) : Validator :=
  .ofKind (.literal value)

/-- The validator of objects with the given members, all of which must be there. -/
def object (fields : List (String × Validator)) : Validator :=
  .ofKind (.object ⟨fields.map fun entry => (entry.1, ⟨entry.2, false⟩), default⟩)

/-- The validator that admits `null` too; the description stays. -/
def nullable (validator : Validator) : Validator :=
  ⟨.nullable validator, validator.description⟩

/-- The validator with another description. -/
def withDescription (validator : Validator) (description : String) : Validator :=
  { validator with description }

/-- The validator with another policy for undeclared members of its own objects. -/
def withUnknownKeys (validator : Validator) (policy : UnknownKeys) : Validator :=
  { validator with kind := validator.kind.withUnknownKeys policy }

/-- The validator is a nullable one. -/
def isNullable (validator : Validator) : Bool :=
  match validator.kind with
  | .nullable _ => true
  | _ => false

mutual

/-- A value may be missing only if every value is accepted. -/
def allowsAbsent : Validator → Bool
  | ⟨kind, _⟩ => kindAllowsAbsent kind

/-- The rule for missing values by kind. -/
def kindAllowsAbsent : ValidatorKind → Bool
  | .unknown => true
  | .nullable inner => allowsAbsent inner
  | _ => false

end

end Validator

end ToolGate
