import ToolGate.Proofs.Json.WellFormed
import ToolGate.Validator.Basic

/-!
# The tree of a validator

A validator is a tree of kinds.  This module names the validators directly
inside a kind, gives the induction that follows them, and says what it means
that a property holds everywhere in a tree.  A tree is well formed when its
literals are and no object in it declares a field twice.
-/

namespace ToolGate.ValidatorKind

/-- The validators directly inside a kind. -/
def children : ValidatorKind → List Validator
  | .array ⟨items, _, _⟩ => items.toList
  | .tuple slots => slots
  | .object ⟨fields, _⟩ => fields.map fun entry => entry.2.validator
  | .record values => [values]
  | .union branches => branches
  | .intersection branches => branches
  | .nullable inner => [inner]
  | .string _ | .number _ | .integer _ | .boolean | .null | .unknown | .literal _ => []

/-- The validator of a field is directly inside the object. -/
theorem field_mem_children {entry : String × Field} {fields : List (String × Field)}
    {policy : UnknownKeys} (member : entry ∈ fields) :
    entry.2.validator ∈ (object ⟨fields, policy⟩).children := by
  rw [children]
  exact List.mem_map.mpr ⟨entry, member, rfl⟩

theorem sizeOf_lt_of_mem_children {child : Validator} {kind : ValidatorKind}
    (member : child ∈ kind.children) : sizeOf child < sizeOf kind := by
  cases kind with
  | array rules =>
      rcases rules with ⟨items, minItems, maxItems⟩
      obtain rfl := Option.mem_toList.mp member
      simp only [array.sizeOf_spec, ArrayRules.mk.sizeOf_spec, Option.some.sizeOf_spec]
      omega
  | tuple slots =>
      have smaller := List.sizeOf_lt_of_mem (show _ ∈ slots from member)
      simp only [tuple.sizeOf_spec]
      omega
  | object shape =>
      rcases shape with ⟨fields, policy⟩
      rcases List.mem_map.mp member with ⟨⟨name, ⟨validator, optional⟩⟩, inside, same⟩
      have smaller := List.sizeOf_lt_of_mem inside
      simp only at same
      subst same
      simp only [Prod.mk.sizeOf_spec, Field.mk.sizeOf_spec] at smaller
      simp only [object.sizeOf_spec, Shape.mk.sizeOf_spec]
      omega
  | record values =>
      obtain rfl := List.mem_singleton.mp member
      simp only [record.sizeOf_spec]
      omega
  | union branches =>
      have smaller := List.sizeOf_lt_of_mem (show _ ∈ branches from member)
      simp only [union.sizeOf_spec]
      omega
  | intersection branches =>
      have smaller := List.sizeOf_lt_of_mem (show _ ∈ branches from member)
      simp only [intersection.sizeOf_spec]
      omega
  | nullable inner =>
      obtain rfl := List.mem_singleton.mp member
      simp only [nullable.sizeOf_spec]
      omega
  | _ => simp [children] at member

/-- The literals of a kind are well formed and its fields have distinct names. -/
def Sound : ValidatorKind → Prop
  | .literal value => value.WellFormed
  | .object ⟨fields, _⟩ => Entries.Distinct fields
  | _ => True

end ToolGate.ValidatorKind

namespace ToolGate.Validator

/-- A property that passes from the validators inside a validator to it holds of every validator. -/
theorem inductionOnChildren {motive : Validator → Prop}
    (step : ∀ kind description, (∀ child ∈ kind.children, motive child) →
      motive ⟨kind, description⟩) :
    (validator : Validator) → motive validator
  | ⟨kind, description⟩ => step kind description fun child _ => inductionOnChildren step child
termination_by validator => sizeOf validator
decreasing_by
  have smaller := ValidatorKind.sizeOf_lt_of_mem_children (by assumption : child ∈ kind.children)
  simp only [Validator.mk.sizeOf_spec]
  omega

/-- Induction over a tree by kind, with the validators inside each kind at hand. -/
@[induction_eliminator]
theorem inductionOnKinds {motive : Validator → Prop}
    (string : ∀ rules description, motive ⟨.string rules, description⟩)
    (number : ∀ rules description, motive ⟨.number rules, description⟩)
    (integer : ∀ rules description, motive ⟨.integer rules, description⟩)
    (boolean : ∀ description, motive ⟨.boolean, description⟩)
    (null : ∀ description, motive ⟨.null, description⟩)
    (unknown : ∀ description, motive ⟨.unknown, description⟩)
    (literal : ∀ expected description, motive ⟨.literal expected, description⟩)
    (array : ∀ items minItems maxItems description, (∀ child ∈ items, motive child) →
      motive ⟨.array ⟨items, minItems, maxItems⟩, description⟩)
    (tuple : ∀ slots description, (∀ slot ∈ slots, motive slot) →
      motive ⟨.tuple slots, description⟩)
    (object : ∀ fields policy description, (∀ entry ∈ fields, motive entry.2.validator) →
      motive ⟨.object ⟨fields, policy⟩, description⟩)
    (record : ∀ values description, motive values → motive ⟨.record values, description⟩)
    (union : ∀ branches description, (∀ branch ∈ branches, motive branch) →
      motive ⟨.union branches, description⟩)
    (intersection : ∀ branches description, (∀ branch ∈ branches, motive branch) →
      motive ⟨.intersection branches, description⟩)
    (nullable : ∀ inner description, motive inner → motive ⟨.nullable inner, description⟩)
    (validator : Validator) : motive validator := by
  induction validator using inductionOnChildren with
  | step kind description ih =>
      cases kind with
      | string rules => exact string rules description
      | number rules => exact number rules description
      | integer rules => exact integer rules description
      | boolean => exact boolean description
      | null => exact null description
      | unknown => exact unknown description
      | literal expected => exact literal expected description
      | array rules =>
          rcases rules with ⟨items, minItems, maxItems⟩
          exact array items minItems maxItems description fun child member =>
            ih child (Option.mem_toList.mpr member)
      | tuple slots => exact tuple slots description ih
      | object shape =>
          rcases shape with ⟨fields, policy⟩
          exact object fields policy description fun entry member =>
            ih entry.2.validator (ValidatorKind.field_mem_children member)
      | record values => exact record values description (ih values List.mem_cons_self)
      | union branches => exact union branches description ih
      | intersection branches => exact intersection branches description ih
      | nullable inner => exact nullable inner description (ih inner List.mem_cons_self)

/-- A property holds of the kind of a validator and of every kind inside it. -/
inductive Everywhere (property : ValidatorKind → Prop) : Validator → Prop where
  | intro {kind : ValidatorKind} {description : String} (here : property kind)
      (inside : ∀ child ∈ kind.children, Everywhere property child) :
      Everywhere property ⟨kind, description⟩

section Everywhere

variable {property : ValidatorKind → Prop} {kind : ValidatorKind} {description : String}

theorem everywhere_iff :
    Everywhere property ⟨kind, description⟩ ↔
      property kind ∧ ∀ child ∈ kind.children, Everywhere property child := by
  constructor
  · intro everywhere
    cases everywhere with
    | intro here inside => exact ⟨here, inside⟩
  · rintro ⟨here, inside⟩
    exact .intro here inside

theorem Everywhere.here (everywhere : Everywhere property ⟨kind, description⟩) : property kind :=
  (everywhere_iff.mp everywhere).1

theorem Everywhere.child (everywhere : Everywhere property ⟨kind, description⟩)
    {child : Validator} (member : child ∈ kind.children) : Everywhere property child :=
  (everywhere_iff.mp everywhere).2 child member

/-- A property of a field's validator follows from the object. -/
theorem Everywhere.field {fields : List (String × Field)} {policy : UnknownKeys}
    (everywhere : Everywhere property ⟨.object ⟨fields, policy⟩, description⟩)
    {entry : String × Field} (member : entry ∈ fields) :
    Everywhere property entry.2.validator :=
  everywhere.child (ValidatorKind.field_mem_children member)

/-- A property may be weakened at every kind. -/
theorem Everywhere.imp {weaker : ValidatorKind → Prop} {validator : Validator}
    (everywhere : Everywhere property validator)
    (implies : ∀ kind, property kind → weaker kind) : Everywhere weaker validator := by
  induction everywhere with
  | intro here inside ih => exact .intro (implies _ here) ih

end Everywhere

/-- All literals in the tree are well formed and no object in it declares a field twice. -/
def WellFormed (validator : Validator) : Prop :=
  validator.Everywhere ValidatorKind.Sound

end ToolGate.Validator

namespace ToolGate.Shape

/-- The validator of the objects of the shape is well formed. -/
def WellFormed (shape : Shape) : Prop :=
  (Validator.ofKind (.object shape)).WellFormed

end ToolGate.Shape
