import ToolGate.Proofs.Validator.Structure

/-!
# Where a validator looks

A validator hands parts of a value on to the validators inside it: elements
and members one step further down, and the value itself to the branches of
an intersection and through a layer for `null`.  A union hands nothing on,
as what its branches find is never reported.  The path of a part is made of
the steps that lead to it, and it resolves to the part.
-/

namespace ToolGate.Validator

/-- The first validator hands a part of the value, at most one step below, on to the second. -/
inductive Enters : Validator → Json → FieldPath → Validator → Json → Prop where
  | element {items : Validator} {minItems maxItems : Option UInt64} {description : String}
      {elements : List Json} {index : Nat} {element : Json}
      (present : elements[index]? = some element) :
      Enters ⟨.array ⟨some items, minItems, maxItems⟩, description⟩ (.array elements)
        [.index index] items element
  | slot {slots : List Validator} {description : String} {elements : List Json} {index : Nat}
      {slot : Validator} {element : Json} (arity : elements.length = slots.length)
      (declared : slots[index]? = some slot) (present : elements[index]? = some element) :
      Enters ⟨.tuple slots, description⟩ (.array elements) [.index index] slot element
  | field {fields : List (String × Field)} {policy : UnknownKeys} {description : String}
      {entries : List (String × Json)} {entry : String × Field} {member : Json}
      (declared : entry ∈ fields) (present : entries.lookup entry.1 = some member) :
      Enters ⟨.object ⟨fields, policy⟩, description⟩ (.object entries)
        [.key entry.1] entry.2.validator member
  | member {values : Validator} {description : String} {entries : List (String × Json)}
      {key : String} {member : Json} (present : entries.lookup key = some member) :
      Enters ⟨.record values, description⟩ (.object entries) [.key key] values member
  | branch {branches : List Validator} {description : String} {value : Json}
      {branch : Validator} (member : branch ∈ branches) :
      Enters ⟨.intersection branches, description⟩ value .root branch value
  | inner {inner : Validator} {description : String} {value : Json} (present : value ≠ .null) :
      Enters ⟨.nullable inner, description⟩ value .root inner value

/-- A part of the value is handed on, along a path, until the second validator has it. -/
inductive Reaches : Validator → Json → FieldPath → Validator → Json → Prop where
  | here (validator : Validator) (value : Json) : Reaches validator value .root validator value
  | further {outer middle inner : Validator} {value part deepPart : Json}
      {step path : FieldPath} (enters : Enters outer value step middle part)
      (reaches : Reaches middle part path inner deepPart) :
      Reaches outer value (step ++ path) inner deepPart

variable {outer inner : Validator} {value part : Json} {step path : FieldPath}

/-- A path that goes on from a part goes on in it. -/
theorem Enters.at?_append (enters : Enters outer value step inner part) (path : FieldPath) :
    value.at? (step ++ path) = part.at? path := by
  cases enters with
  | element present => simp [Json.at?, Json.step?, present]
  | slot _ _ present => simp [Json.at?, Json.step?, present]
  | field _ present => simp [Json.at?, Json.step?, present]
  | member present => simp [Json.at?, Json.step?, present]
  | branch _ => rfl
  | inner _ => rfl

/-- The path to a part resolves to it. -/
theorem Reaches.at? (reaches : Reaches outer value path inner part) :
    value.at? path = some part := by
  induction reaches with
  | here validator value => rfl
  | further enters _ ih => rw [enters.at?_append, ih]

theorem Enters.mem_children {kind : ValidatorKind} {description : String}
    (enters : Enters ⟨kind, description⟩ value step inner part) : inner ∈ kind.children := by
  cases enters with
  | element _ => exact List.mem_cons_self
  | slot _ declared _ => exact List.mem_of_getElem? declared
  | field declared _ => exact ValidatorKind.field_mem_children declared
  | member _ => exact List.mem_cons_self
  | branch member => exact member
  | inner _ => exact List.mem_cons_self

/-- A part of a well-formed value is well formed. -/
theorem Enters.wellFormed (enters : Enters outer value step inner part)
    (formed : value.WellFormed) : part.WellFormed := by
  cases enters with
  | element present =>
      exact Json.wellFormed_array.mp formed part (List.mem_of_getElem? present)
  | slot _ _ present =>
      exact Json.wellFormed_array.mp formed part (List.mem_of_getElem? present)
  | field _ present => exact formed.lookup present
  | member present => exact formed.lookup present
  | branch _ => exact formed
  | inner _ => exact formed

end ToolGate.Validator
