import ToolGate.Proofs.Schema.Correctness
import ToolGate.Proofs.Schema.Replacement
import ToolGate.Proofs.Validator.Leniency
import ToolGate.Proofs.Validator.RoundTrip

/-!
# The policies for undeclared members compared

A node compiles to trees of one form under all policies; only what their
objects do with undeclared members differs.  To drop such members and to
pass them on makes no difference to what is accepted or reported.  To refuse
them adds issues and leaves the others, and their order, as they are.
-/

namespace ToolGate

open Verdict Validator

namespace SchemaNode

/-- The objects of both sides may treat undeclared members differently, and only they. -/
theorem findsWithin_congruence {lax firm : UnknownKeys} (laxer : lax.LaxerThan firm) :
    CompilationCongruence lax firm FindsWithin where
  refl := .refl
  described text other within := within.withDescription text other
  nullable := .nullable
  array minItems maxItems within := within.array minItems maxItems
  tuple := .tuple
  object within := .object (within.imp fun _ _ ⟨name, optional, inner⟩ => ⟨name, optional, inner⟩)
    laxer
  record := .record
  union := .union
  intersection := .intersection

/-- Under a laxer policy a node finds a part of what it finds under the other one. -/
theorem compile_findsWithin {lax firm : UnknownKeys} (laxer : lax.LaxerThan firm)
    {node : SchemaNode} (formed : node.WellFormed) :
    FindsWithin (node.compile lax) (node.compile firm) := by
  induction node with
  | step node ih =>
      have itself : Corresponds Eq node node := corresponds_refl (fun _ => rfl) node
      apply (findsWithin_congruence laxer).compile formed formed
      apply itself.imp
      rintro child member _ rfl
      exact ih child member (formed.child member)

end SchemaNode

/-- What the three policies have to do with each other, for the verdicts on one value. -/
structure PoliciesCompared (verdict : UnknownKeys → Verdict) : Prop where
  /-- To pass undeclared members on and to drop them is to accept the same. -/
  sameAcceptance : (∃ output, verdict .passthrough = .ok output) ↔
    ∃ output, verdict .strip = .ok output
  /-- The two report the same issues. -/
  sameIssues : ∀ found foundToo, verdict .passthrough = .error found →
    verdict .strip = .error foundToo → found = foundToo
  /-- What is left after dropping is a projection of what is passed on. -/
  outputs : ∀ whole part, verdict .passthrough = .ok whole → verdict .strip = .ok part →
    part.IsProjectionOf whole
  /-- To refuse undeclared members is to accept less. -/
  strictAcceptance : ∀ output, verdict .strict = .ok output →
    (∃ whole, verdict .passthrough = .ok whole) ∧ ∃ part, verdict .strip = .ok part
  /-- To refuse undeclared members is to report more. -/
  strictIssues : ∀ found, verdict .passthrough = .error found →
    ∃ more, verdict .strict = .error more ∧ found.Sublist more

namespace Validator

/-- The verdict is negative if it has an issue. -/
theorem validate_eq_error_of_issues {validator : Validator} {value : Json}
    (nonempty : issues (validator.validate value) ≠ []) :
    validator.validate value = .error (issues (validator.validate value)) := by
  cases verdict : validator.validate value with
  | ok output => simp [verdict] at nonempty
  | error found => rfl

theorem policiesCompared_of {validatorOf : UnknownKeys → Validator}
    (sound : ∀ policy, (validatorOf policy).WellFormed)
    (keeps : (validatorOf .passthrough).Everywhere ValidatorKind.KeepsMembers)
    (within : ∀ lax firm : UnknownKeys, lax.LaxerThan firm →
      FindsWithin (validatorOf lax) (validatorOf firm))
    {value : Json} (formed : value.WellFormed) :
    PoliciesCompared fun policy => (validatorOf policy).validate value := by
  -- neither policy reports undeclared members, so each finds within the other
  have same : issues ((validatorOf .passthrough).validate value) =
      issues ((validatorOf .strip).validate value) := by
    have forth := (within .passthrough .strip nofun).found value formed
    have back := (within .strip .passthrough nofun).found value formed
    exact forth.antisymm back
  have fewer : (issues ((validatorOf .passthrough).validate value)).Sublist
      (issues ((validatorOf .strict).validate value)) :=
    (within .passthrough .strict nofun).found value formed
  constructor
  · rw [← validate_issues_eq_nil_iff, ← validate_issues_eq_nil_iff, same]
  · intro found foundToo passed dropped
    rw [passed, dropped] at same
    exact same
  · intro whole part passed dropped
    -- the value itself lies between the two outputs
    have left := (output_isProjectionOf (sound .strip) formed dropped).2
    have all := projection_output JsonNumber.sameValue_equivalence (sound .passthrough)
      ((sound .passthrough).imp fun _ => ValidatorKind.Sound.literalAgrees) keeps formed passed
    exact left.trans JsonNumber.sameValue_equivalence all
  · intro output accepted
    have clean : issues ((validatorOf .passthrough).validate value) = [] := by
      rw [accepted] at fewer
      exact List.sublist_nil.mp fewer
    exact ⟨validate_issues_eq_nil_iff.mp clean, validate_issues_eq_nil_iff.mp (same ▸ clean)⟩
  · intro found refused
    rw [refused, issues_error] at fewer
    have nonempty : issues ((validatorOf .strict).validate value) ≠ [] := by
      intro none
      rw [none, List.sublist_nil] at fewer
      rw [fewer] at refused
      exact validate_ne_error_nil _ value refused
    exact ⟨_, validate_eq_error_of_issues nonempty, fewer⟩

end Validator

namespace Shape

variable {parameters : List (String × SchemaNode)}

/-- The fields of a shape are compiled nodes, so what compilation makes is all there is in it. -/
theorem infer_everywhere {policy : UnknownKeys} {property : ValidatorKind → Prop}
    (holds : SchemaNode.HoldsOfCompiled policy property) (distinct : Entries.Distinct parameters)
    (formed : ∀ entry ∈ parameters, entry.2.WellFormed) (required : List String) :
    (infer policy parameters required).toValidator.Everywhere property := by
  have names : Entries.Distinct (infer policy parameters required).fields := by
    rw [Entries.Distinct, Entries.names, infer, List.map_map]
    exact distinct
  refine .intro (holds.object _ names) ?_
  intro child member
  rcases List.mem_map.mp member with ⟨field, inside, rfl⟩
  rcases List.mem_map.mp inside with ⟨entry, declared, rfl⟩
  exact SchemaNode.compile_everywhere holds (formed entry declared)

theorem infer_findsWithin {lax firm : UnknownKeys} (laxer : lax.LaxerThan firm)
    (formed : ∀ entry ∈ parameters, entry.2.WellFormed) (required : List String) :
    FindsWithin (infer lax parameters required).toValidator
      (infer firm parameters required).toValidator := by
  apply FindsWithin.object ?_ laxer
  rw [List.forall₂_map_left_iff, List.forall₂_map_right_iff, List.forall₂_same]
  intro entry declared
  exact ⟨rfl, rfl, SchemaNode.compile_findsWithin laxer (formed entry declared)⟩

end Shape

/--
The policies compared.  For the validators of every node, and for the shapes
of all parameters, dropping undeclared members and passing them on agree on
what is accepted and reported, and refusing them only adds issues.
-/
theorem policies_compared :
    (∀ (node : SchemaNode) (value : Json), node.WellFormed → value.WellFormed →
      PoliciesCompared fun policy => (node.compile policy).validate value) ∧
    (∀ (parameters : List (String × SchemaNode)) (required : List String) (arguments : Json),
      Entries.Distinct parameters → (∀ entry ∈ parameters, entry.2.WellFormed) →
        arguments.WellFormed →
          PoliciesCompared fun policy =>
            (Shape.infer policy parameters required).validate arguments) := by
  constructor
  · intro node value formedNode formed
    apply policiesCompared_of ?_ ?_ ?_ formed
    · exact fun policy => SchemaNode.compile_wellFormed policy formedNode
    · exact SchemaNode.compile_keepsMembers (by decide) formedNode
    · exact fun _ _ laxer => SchemaNode.compile_findsWithin laxer formedNode
  · intro parameters required arguments distinct formedNodes formed
    have compared : PoliciesCompared fun policy =>
        (Shape.infer policy parameters required).toValidator.validate arguments := by
      apply policiesCompared_of ?_ ?_ ?_ formed
      · exact fun policy =>
          Shape.infer_everywhere (SchemaNode.holdsOfCompiled_sound policy) distinct formedNodes
            required
      · exact Shape.infer_everywhere (SchemaNode.holdsOfCompiled_keepsMembers (by decide))
          distinct formedNodes required
      · exact fun _ _ laxer => Shape.infer_findsWithin laxer formedNodes required
    exact compared

/-- An undeclared member in an intersection, where to refuse it is one issue more. -/
theorem policies_compared_undeclared_member :
    let truth : SchemaNode := { keywords := { type := some .boolean } }
    let node : SchemaNode :=
      { keywords := {}
        allOf := some
          [{ keywords := { type := some .object }, properties := some [("a", truth)] },
            { keywords := { type := some .object }, additionalProperties := some truth }] }
    let value : Json := .object [("a", .bool true), ("b", .null)]
    let verdict := fun policy => (node.compile policy).validate value
    let shaped := fun policy => (Shape.infer policy [("a", truth)] ["a"]).validate value
    (∃ more, verdict .strict = .error more ∧
      [⟨FieldPath.root.key "b", .invalidType "boolean" "null"⟩].Sublist more) ∧
      (Json.object [("a", .bool true)]).IsProjectionOf value ∧ shaped .passthrough = .ok value := by
  intro truth node value verdict shaped
  have formedTruth : truth.WellFormed := by
    simp [truth, SchemaNode.wellFormed_mk_iff]
  have formedNode : node.WellFormed := by
    simp [node, truth, SchemaNode.wellFormed_mk_iff, Entries.distinct_nil, -Prod.forall]
  have formed : value.WellFormed := by
    simp [value, Entries.distinct_nil]
  have compared := policies_compared.1 node value formedNode formed
  have comparedShapes := policies_compared.2 [("a", truth)] ["a"] value
    (by simp [Entries.distinct_nil]) (by simpa using formedTruth) formed
  refine ⟨?_, ?_, rfl⟩
  · exact compared.strictIssues _ rfl
  · exact comparedShapes.outputs _ _ rfl rfl

end ToolGate
