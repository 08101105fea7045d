import ToolGate.Proofs.Schema.Correctness
import ToolGate.Proofs.Validator.Widening
import ToolGate.Shape

/-!
# What may be missing

Whether a value may be missing is decided on the compiled tree, below any
number of layers for `null`.  A tree that accepts absence gives every value
back as it is, so nothing that a schema asks for can be evaded by leaving a
required member out.
-/

namespace ToolGate

open Verdict ValidatorKind

namespace Validator

/-- A validator that accepts absence has nothing to say about any value. -/
theorem validate_of_allowsAbsent {validator : Validator}
    (absent : validator.allowsAbsent = true) (value : Json) :
    validator.validate value = .ok value := by
  induction validator with
  | unknown description => exact validate_unknown_ok.mpr rfl
  | nullable inner description ih =>
      by_cases isNull : value = .null
      · exact validate_nullable_ok.mpr (.inl ⟨isNull, isNull⟩)
      · exact validate_nullable_ok.mpr (.inr ⟨isNull, ih absent⟩)
  | _ => cases absent

/-- Where a field that must be given is missing and accepted, its validator accepts everything. -/
theorem validate_of_missing_field {shape : Shape} {arguments output : Json}
    (accepted : shape.validate arguments = .ok output) {name : String} {field : Field}
    (declared : (name, field) ∈ shape.fields) (required : field.optional = false)
    (missing : arguments.get? name = none) (value : Json) :
    field.validator.validate value = .ok value := by
  rcases shape with ⟨fields, policy⟩
  have asValidator : validate ⟨.object ⟨fields, policy⟩, ""⟩ arguments = .ok output := accepted
  rcases validate_object_ok.mp asValidator with ⟨members, rfl, fieldsAccept, _⟩
  rcases (fieldsAccept _ declared).absent missing with optional | absent
  · cases required.symm.trans optional
  · exact validate_of_allowsAbsent absent value

end Validator

open Validator

namespace SchemaNode

/-- The node with `null` admitted beside all else, or not. -/
def withNullable (nullable : Bool) (node : SchemaNode) : SchemaNode :=
  { node with keywords := { node.keywords with nullable } }

/-- Whether a node admits `null` is no matter for absence. -/
theorem allowsAbsent_withNullable (policy : UnknownKeys) (nullable : Bool) (node : SchemaNode) :
    ((node.withNullable nullable).compile policy).allowsAbsent =
      (node.compile policy).allowsAbsent := by
  have sameCore : (node.withNullable nullable).core policy = node.core policy := rfl
  rw [compile_eq, compile_eq, allowsAbsent_finish, allowsAbsent_finish, sameCore]

end SchemaNode

/--
Only unconstrained members may be missing.  The validator of a node accepts
absence exactly if the node is unconstrained, then it gives every value back
as it is, and it makes no difference whether the node admits `null`.  So if
arguments are accepted although a required parameter is missing, the schema
of the parameter accepts every value unchanged.
-/
theorem only_unconstrained_missing (policy : UnknownKeys) :
    (∀ node : SchemaNode,
      let validator := node.compile policy
      ((∃ output, validator.parse none = .ok output) ↔ node.Unconstrained) ∧
      (∀ output, validator.parse none = .ok output →
        ∀ value, validator.validate value = .ok value) ∧
      ∀ nullable, ((node.withNullable nullable).compile policy).parse none =
        validator.parse none) ∧
    ∀ (parameters : List (String × SchemaNode)) (required : List String) (arguments output : Json),
      (Shape.infer policy parameters required).validate arguments = .ok output →
        ∀ name node, (name, node) ∈ parameters → name ∈ required →
          arguments.get? name = none →
            ∀ value, (node.compile policy).validate value = .ok value := by
  constructor
  · intro node validator
    refine ⟨?_, ?_, ?_⟩
    · rw [parse_none_ok_iff, SchemaNode.allowsAbsent_compile_iff]
    · intro output accepted
      exact validate_of_allowsAbsent (parse_none_ok_iff.mp ⟨output, accepted⟩)
    · intro nullable
      simp only [validator, parse, validateAbsent, SchemaNode.allowsAbsent_withNullable]
  · intro parameters required arguments output accepted name node declared listed missing
    have field : (name, (⟨node.compile policy, !required.contains name⟩ : Field)) ∈
        (Shape.infer policy parameters required).fields :=
      List.mem_map.mpr ⟨(name, node), declared, rfl⟩
    have mustBeGiven : (!required.contains name) = false := by
      rw [List.contains_iff_mem.mpr listed, Bool.not_true]
    exact validate_of_missing_field accepted field mustBeGiven missing

/-- A required parameter that may be missing, in a composition of one branch that is an empty one. -/
theorem only_unconstrained_missing_empty_composition :
    let note : SchemaNode :=
      { keywords := { nullable := true }, anyOf := some [{ allOf := some [] }] }
    let text : SchemaNode := { keywords := { type := some .string } }
    let shape := Shape.infer .strict [("note", note), ("text", text)] ["note"]
    (note.compile .strict).parse none = .ok .null ∧
      ((note.withNullable false).compile .strict).parse none = .ok .null ∧
      shape.validate (.object []) = .ok (.object []) ∧
      ∀ value, (note.compile .strict).validate value = .ok value := by
  intro note text shape
  rcases only_unconstrained_missing .strict with ⟨nodes, shapes⟩
  refine ⟨rfl, ?_, rfl, ?_⟩
  · rw [(nodes note).2.2 false]
    rfl
  · exact shapes [("note", note), ("text", text)] ["note"] (.object []) (.object []) rfl "note"
      note List.mem_cons_self List.mem_cons_self rfl

end ToolGate
