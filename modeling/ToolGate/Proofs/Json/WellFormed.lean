import ToolGate.Json.Basic
import ToolGate.Proofs.Entries

/-!
# Induction on JSON values

A value is built from values inside arrays and objects, so a property of all
values is proved from the property of these.  A value is well formed when
this holds throughout: every object in it has distinct keys.
-/

namespace ToolGate.Json

theorem sizeOf_lt_of_mem_elements {element : Json} {elements : List Json}
    (member : element ∈ elements) : sizeOf element < sizeOf (Json.array elements) := by
  have smaller := List.sizeOf_lt_of_mem member
  simp only [Json.array.sizeOf_spec]
  omega

theorem sizeOf_lt_of_mem_members {member : String × Json} {members : List (String × Json)}
    (inside : member ∈ members) : sizeOf member.2 < sizeOf (Json.object members) := by
  have smaller := List.sizeOf_lt_of_mem inside
  rcases member with ⟨key, value⟩
  simp only [Prod.mk.sizeOf_spec] at smaller
  simp only [Json.object.sizeOf_spec]
  omega

/-- A property that passes from parts of arrays and objects to the whole holds of all values. -/
@[induction_eliminator]
theorem inductionOnParts {motive : Json → Prop}
    (null : motive .null)
    (bool : ∀ value, motive (.bool value))
    (number : ∀ value, motive (.number value))
    (string : ∀ value, motive (.string value))
    (array : ∀ elements, (∀ element ∈ elements, motive element) → motive (.array elements))
    (object : ∀ members, (∀ member ∈ members, motive member.2) → motive (.object members)) :
    (value : Json) → motive value
  | .null => null
  | .bool value => bool value
  | .number value => number value
  | .string value => string value
  | .array elements =>
      array elements fun element _ =>
        inductionOnParts null bool number string array object element
  | .object members =>
      object members fun member _ =>
        inductionOnParts null bool number string array object member.2
termination_by value => sizeOf value
decreasing_by
  · exact sizeOf_lt_of_mem_elements (by assumption)
  · exact sizeOf_lt_of_mem_members (by assumption)

theorem wellFormedElements_iff {elements : List Json} :
    WellFormedElements elements ↔ ∀ element ∈ elements, element.WellFormed := by
  induction elements with
  | nil => simp [WellFormedElements]
  | cons element rest ih => simp [WellFormedElements, ih]

theorem wellFormedMembers_iff {members : List (String × Json)} :
    WellFormedMembers members ↔ ∀ member ∈ members, member.2.WellFormed := by
  induction members with
  | nil => simp [WellFormedMembers]
  | cons member rest ih => simp [WellFormedMembers, ih]

/-- Only arrays and objects have parts that may be ill-formed. -/
theorem wellFormed_iff {value : Json} :
    value.WellFormed ↔
      match value with
      | .array elements => ∀ element ∈ elements, element.WellFormed
      | .object members => Entries.Distinct members ∧ ∀ member ∈ members, member.2.WellFormed
      | _ => True := by
  cases value <;> simp [WellFormed, wellFormedElements_iff, wellFormedMembers_iff]

@[simp]
theorem wellFormed_null : WellFormed .null :=
  wellFormed_iff.mpr trivial

@[simp]
theorem wellFormed_bool (value : Bool) : WellFormed (.bool value) :=
  wellFormed_iff.mpr trivial

@[simp]
theorem wellFormed_number (value : JsonNumber) : WellFormed (.number value) :=
  wellFormed_iff.mpr trivial

@[simp]
theorem wellFormed_string (value : String) : WellFormed (.string value) :=
  wellFormed_iff.mpr trivial

@[simp]
theorem wellFormed_array {elements : List Json} :
    WellFormed (.array elements) ↔ ∀ element ∈ elements, element.WellFormed :=
  wellFormed_iff

@[simp]
theorem wellFormed_object {members : List (String × Json)} :
    WellFormed (.object members) ↔
      Entries.Distinct members ∧ ∀ member ∈ members, member.2.WellFormed :=
  wellFormed_iff

/-- The members of a well-formed object are well formed. -/
theorem WellFormed.lookup {members : List (String × Json)} (formed : WellFormed (.object members))
    {key : String} {value : Json} (found : members.lookup key = some value) :
    value.WellFormed :=
  (wellFormed_object.mp formed).2 _ (Entries.mem_of_lookup found)

end ToolGate.Json
