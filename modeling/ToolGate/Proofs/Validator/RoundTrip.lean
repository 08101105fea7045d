import ToolGate.Proofs.Schema.Compilation
import ToolGate.Proofs.Validator.Intersection

/-!
# The round trip

Where no object in a tree drops members, an output has all that its value
has.  Since it is also a projection of the value, the two are equal, and
they differ in the form of numbers only where a literal stands in for an
equal value.
-/

namespace ToolGate

open Json

variable {numbers : JsonNumber → JsonNumber → Bool}

namespace ValidatorKind

/-- The kind does not drop members of objects. -/
def KeepsMembers : ValidatorKind → Prop
  | .object ⟨_, policy⟩ => policy ≠ .strip
  | _ => True

/-- The kind is not a literal. -/
def NotLiteral : ValidatorKind → Prop
  | .literal _ => False
  | _ => True

/-- A literal of this kind and a value that it accepts are projections of each other. -/
def LiteralAgrees (numbers : JsonNumber → JsonNumber → Bool) : ValidatorKind → Prop
  | .literal expected => ∀ value : Json, value.WellFormed → expected.sameValue value = true →
      ProjectionBy numbers expected value ∧ ProjectionBy numbers value expected
  | _ => True

theorem LiteralAgrees.projects {kind : ValidatorKind} (agrees : kind.LiteralAgrees numbers) :
    kind.LiteralProjects numbers := by
  cases kind with
  | literal expected => exact fun value formed same => (agrees value formed same).1
  | _ => trivial

/-- By value, every well-formed literal agrees with what it accepts. -/
theorem Sound.literalAgrees {kind : ValidatorKind} (sound : kind.Sound) :
    kind.LiteralAgrees JsonNumber.sameValue := by
  cases kind with
  | literal expected =>
      intro value formed same
      exact (equalBy_iff_projections JsonNumber.sameValue_equivalence sound formed).mp same
  | _ => trivial

/-- Where there is no literal, nothing has to agree. -/
theorem NotLiteral.literalAgrees {kind : ValidatorKind} (notLiteral : kind.NotLiteral) :
    kind.LiteralAgrees numbers := by
  cases kind <;> trivial

end ValidatorKind

namespace Validator

open Verdict ValidatorKind

/-- If nothing is dropped, a value is a projection of its output. -/
theorem projection_output (equivalence : JsonNumber.Equivalence numbers) {validator : Validator}
    (sound : validator.WellFormed) (literals : validator.Everywhere (LiteralAgrees numbers))
    (keeps : validator.Everywhere KeepsMembers) {value output : Json} (formed : value.WellFormed)
    (accepted : validator.validate value = .ok output) : ProjectionBy numbers value output := by
  have unchanged : ∀ {value output : Json}, value.WellFormed → output = value →
      ProjectionBy numbers value output := by
    rintro value _ formed rfl
    exact projectionBy_refl equivalence formed
  induction validator generalizing value output with
  | string | number | integer | boolean | null | unknown =>
      exact unchanged formed (output_eq_of_verbatim rfl accepted)
  | literal expected description =>
      rcases validate_literal_ok.mp accepted with ⟨same, rfl⟩
      exact (literals.here value formed same).2
  | array items minItems maxItems description ih =>
      cases items with
      | none => exact unchanged formed (output_eq_of_verbatim rfl accepted)
      | some items =>
          rcases validate_array_some_ok.mp accepted with
            ⟨elements, results, rfl, _, correspond, rfl⟩
          rw [wellFormed_array] at formed
          apply projectionBy_array_iff.mpr
          exact correspond.imp_of_mem fun element member result _ accepted =>
            ih items rfl (sound.child List.mem_cons_self) (literals.child List.mem_cons_self)
              (keeps.child List.mem_cons_self) (formed element member) accepted
  | tuple slots description ih =>
      rcases validate_tuple_ok.mp accepted with ⟨elements, results, rfl, arity, correspond, rfl⟩
      rw [wellFormed_array] at formed
      apply projectionBy_array_iff.mpr
      exact (correspond.zip_right arity).imp_of_mem fun element member result _ accepted => by
        rcases accepted with ⟨slot, inside, accepted⟩
        exact ih slot inside (sound.child inside) (literals.child inside) (keeps.child inside)
          (formed element member) accepted
  | object fields policy description ih =>
      rcases validate_object_ok.mp accepted with ⟨entries, rfl, accepts, declared, rfl⟩
      rcases wellFormed_object.mp formed with ⟨distinct, formedEntries⟩
      apply projectionBy_object_iff.mpr
      intro member inside
      have present := (Entries.lookup_eq_some_iff_mem distinct).mpr inside
      rw [lookup_objectOutput policy entries sound.here, present]
      cases found : fields.lookup member.1 with
      | some field =>
          have listed : (member.1, field) ∈ fields := Entries.mem_of_lookup found
          rcases (accepts (member.1, field) listed).present member.2 present with ⟨result, isOutput⟩
          refine ⟨result, output?_eq_some_iff.mpr isOutput, ?_⟩
          exact ih (member.1, field) listed (sound.field listed) (literals.field listed)
            (keeps.field listed) (formedEntries member inside) isOutput
      | none =>
          have undeclared := Entries.lookup_eq_none_iff.mp found
          cases policy with
          | passthrough =>
              exact ⟨member.2, rfl, projectionBy_refl equivalence (formedEntries member inside)⟩
          | strip => exact absurd rfl keeps.here
          | strict => exact absurd (declared rfl member inside) undeclared
  | record values description ih =>
      rcases validate_record_ok.mp accepted with ⟨entries, results, rfl, correspond, rfl⟩
      rcases wellFormed_object.mp formed with ⟨distinct, formedEntries⟩
      have covered : List.Forall₂ (fun entry result => result.1 = entry.1 ∧
          ProjectionBy numbers entry.2 result.2) entries results :=
        correspond.imp_of_mem fun entry member result _ both =>
          ⟨both.1, ih (sound.child List.mem_cons_self) (literals.child List.mem_cons_self)
            (keeps.child List.mem_cons_self) (formedEntries entry member) both.2⟩
      have names : Entries.names results = Entries.names entries :=
        Entries.names_eq_of_forall₂ (covered.imp fun _ _ => And.left)
      apply projectionBy_object_iff.mpr
      have distinctResults : Entries.Distinct results := by
        rw [Entries.Distinct, names]
        exact distinct
      apply Entries.matched_of_forall₂ distinctResults
      exact (covered.imp fun _ _ both => ⟨both.1.symm, both.2⟩).flip
  | union branches description ih =>
      rcases exists_branch_of_union_ok accepted with ⟨branch, member, result⟩
      exact ih branch member (sound.child member) (literals.child member) (keeps.child member)
        formed result
  | intersection branches description ih =>
      have output := intersection_output equivalence formed (fun branch member _ accepted =>
        output_projection equivalence (sound.child member)
          ((literals.child member).imp fun _ => LiteralAgrees.projects) formed accepted) accepted
      -- an output of one branch already has all of the value
      cases branches with
      | nil =>
          rcases validate_intersection_ok.mp accepted with ⟨results, correspond, mergedEq⟩
          rw [List.forall₂_nil_left_iff.mp correspond] at mergedEq
          exact unchanged formed (Except.ok.inj mergedEq).symm
      | cons first others =>
          have member : first ∈ first :: others := List.mem_cons_self
          rcases output.2.2 first member with ⟨result, branchAccepted, contained⟩
          have covered := ih first member (sound.child member) (literals.child member)
            (keeps.child member) formed branchAccepted
          exact covered.trans equivalence contained
  | nullable inner description ih =>
      rcases validate_nullable_ok.mp accepted with ⟨rfl, same⟩ | ⟨_, accepted⟩
      · exact unchanged formed same
      · exact ih (sound.child List.mem_cons_self) (literals.child List.mem_cons_self)
          (keeps.child List.mem_cons_self) formed accepted

/-- If nothing is dropped, an output equals its value. -/
theorem output_equal (equivalence : JsonNumber.Equivalence numbers) {validator : Validator}
    (sound : validator.WellFormed) (literals : validator.Everywhere (LiteralAgrees numbers))
    (keeps : validator.Everywhere KeepsMembers) {value output : Json} (formed : value.WellFormed)
    (accepted : validator.validate value = .ok output) : equalBy numbers output value = true := by
  have projects := output_projection equivalence sound
    (literals.imp fun _ => LiteralAgrees.projects) formed accepted
  have covered := projection_output equivalence sound literals keeps formed accepted
  exact (equalBy_iff_projections equivalence projects.1 formed).mpr ⟨projects.2, covered⟩

end Validator

theorem SchemaNode.holdsOfCompiled_keepsMembers {policy : UnknownKeys} (keeps : policy ≠ .strip) :
    HoldsOfCompiled policy ValidatorKind.KeepsMembers :=
  { literal := fun _ _ => trivial
    object := fun _ _ => keeps
    plain := fun kind isPlain => by cases kind <;> trivial }

/-- Compilation makes dropping objects only under the policy to drop. -/
theorem SchemaNode.compile_keepsMembers {policy : UnknownKeys} (keeps : policy ≠ .strip)
    {node : SchemaNode} (formed : node.WellFormed) :
    (node.compile policy).Everywhere ValidatorKind.KeepsMembers :=
  compile_everywhere (holdsOfCompiled_keepsMembers keeps) formed

namespace Validator

open ValidatorKind

/--
The round trip.  If no object in the tree drops members, an output equals
its value, and without literals in the tree even in the form of numbers.
Every tree compiled under another policy than to drop is of this kind.
-/
theorem round_trip :
    (∀ (validator : Validator) (value output : Json), validator.WellFormed →
      validator.Everywhere KeepsMembers → value.WellFormed → validator.validate value = .ok output →
        output.sameValue value = true ∧
          (validator.Everywhere NotLiteral → output.sameForm value = true)) ∧
    (∀ (node : SchemaNode) (policy : UnknownKeys), node.WellFormed → policy ≠ .strip →
      (node.compile policy).WellFormed ∧ (node.compile policy).Everywhere KeepsMembers) := by
  constructor
  · intro validator value output sound keeps formed accepted
    constructor
    · exact output_equal JsonNumber.sameValue_equivalence sound
        (sound.imp fun _ => Sound.literalAgrees) keeps formed accepted
    · intro notLiteral
      exact output_equal JsonNumber.sameForm_equivalence sound
        (notLiteral.imp fun _ => NotLiteral.literalAgrees) keeps formed accepted
  · intro node policy formed keeps
    exact ⟨SchemaNode.compile_wellFormed policy formed,
      SchemaNode.compile_keepsMembers keeps formed⟩

/-- An object with an undeclared member comes back with its members in another order. -/
theorem round_trip_undeclared_member :
    let node : SchemaNode :=
      { keywords := { type := some .object }
        properties := some [("a", { keywords := { type := some .boolean } })] }
    let value : Json := .object [("b", .null), ("a", .bool true)]
    ∃ output, (node.compile .passthrough).validate value = .ok output ∧
      output.sameValue value = true ∧ output.sameForm value = true := by
  intro node value
  have formed : node.WellFormed := by
    simp [node, SchemaNode.wellFormed_mk_iff, Entries.distinct_nil, -Prod.forall]
  have accepts : (node.compile .passthrough).accepts value = true := by decide
  rcases accepts_iff.mp accepts with ⟨output, accepted⟩
  have compiled := round_trip.2 node .passthrough formed (by decide)
  have equal := round_trip.1 (node.compile .passthrough) value output compiled.1 compiled.2
    (by simp [value, Entries.distinct_nil]) accepted
  refine ⟨output, accepted, equal.1, equal.2 ?_⟩
  have tree : node.compile .passthrough =
      ofKind (.object ⟨[("a", ⟨ofKind .boolean, false⟩)], .passthrough⟩) := rfl
  rw [tree]
  simp [ofKind, everywhere_iff, NotLiteral, ValidatorKind.children]

end Validator

end ToolGate
