import ToolGate.Proofs.Json.Equality
import ToolGate.Proofs.Json.Merge
import ToolGate.Proofs.Validator.Acceptance

/-!
# Outputs are projections

Whatever a validator accepts, its output is a well-formed projection of the
value: parts may be left out, and a literal may stand in for an equal value,
but nothing is added.  The outputs of all branches of an intersection are
projections of one value, so they always merge, and an intersection accepts
what all its branches accept.
-/

namespace ToolGate

variable {numbers : JsonNumber → JsonNumber → Bool}

/-- A literal of this kind is a projection of every value that it accepts. -/
def ValidatorKind.LiteralProjects (numbers : JsonNumber → JsonNumber → Bool) :
    ValidatorKind → Prop
  | .literal expected => ∀ value : Json, value.WellFormed → expected.sameValue value = true →
      Json.ProjectionBy numbers expected value
  | _ => True

namespace Verdict

open Json

/-- Projections of one well-formed value merge to an output that contains them all. -/
theorem merged_of_projections (equivalence : JsonNumber.Equivalence numbers) {value : Json}
    (formed : value.WellFormed) {results : List Json}
    (formedResults : ∀ result ∈ results, result.WellFormed)
    (parts : ∀ result ∈ results, ProjectionBy numbers result value) :
    ∃ output, merged value results = .ok output ∧ output.WellFormed ∧
      (∀ result ∈ results, ProjectionBy numbers result output) ∧
      ProjectionBy numbers output value := by
  cases results with
  | nil => exact ⟨value, rfl, formed, by simp, projectionBy_refl equivalence formed⟩
  | cons first others =>
      rcases mergeAll_between equivalence formed first others formedResults parts with
        ⟨output, mergedEq, between⟩
      exact ⟨output, by simp [merged, mergedEq], between⟩

end Verdict

namespace ValidatorKind

open Json Verdict Validator

/-- A member of an object's output is what its field gives, or is passed on as it is. -/
theorem objectOutput_matched {related : Json → Json → Prop} {fields : List (String × Field)}
    {policy : UnknownKeys} {entries : List (String × Json)}
    (distinctFields : Entries.Distinct fields) (distinctEntries : Entries.Distinct entries)
    (declared : ∀ entry ∈ fields, ∀ value output, entries.lookup entry.1 = some value →
      entry.2.validator.validate value = .ok output → related output value)
    (passed : ∀ entry ∈ entries, related entry.2 entry.2) :
    Entries.Matched related (objectOutput fields policy entries) entries := by
  intro member inside
  have found := (Entries.lookup_eq_some_iff_mem
    (distinct_objectOutput policy distinctFields distinctEntries)).mpr inside
  rw [lookup_objectOutput policy entries distinctFields] at found
  cases field : fields.lookup member.1 with
  | some field' =>
      rw [field] at found
      rcases Option.bind_eq_some_iff.mp found with ⟨value, present, output⟩
      exact ⟨value, present, declared (member.1, field') (Entries.mem_of_lookup field) value
        member.2 present (output?_eq_some_iff.mp output)⟩
  | none =>
      rw [field] at found
      by_cases passthrough : policy = .passthrough
      · have present : entries.lookup member.1 = some member.2 := by
          simpa [passthrough] using found
        exact ⟨member.2, present, passed (member.1, member.2) (Entries.mem_of_lookup present)⟩
      · simp [passthrough] at found

end ValidatorKind

namespace Validator

open Json Verdict ValidatorKind

/-- The outputs of branches merge if they are projections of the value. -/
theorem merged_of_branches (equivalence : JsonNumber.Equivalence numbers)
    {branches : List Validator} {value : Json} (formed : value.WellFormed)
    (projects : ∀ branch ∈ branches, ∀ result, branch.validate value = .ok result →
      result.WellFormed ∧ ProjectionBy numbers result value)
    {results : List Json}
    (correspond : List.Forall₂ (fun branch result => branch.validate value = .ok result)
      branches results) :
    ∃ output, merged value results = .ok output ∧ output.WellFormed ∧
      (∀ result ∈ results, ProjectionBy numbers result output) ∧
      ProjectionBy numbers output value := by
  have projected : ∀ result ∈ results, result.WellFormed ∧ ProjectionBy numbers result value := by
    intro result member
    rcases correspond.exists_of_mem_right member with ⟨branch, inside, accepted⟩
    exact projects branch inside result accepted
  exact merged_of_projections equivalence formed (fun result member => (projected result member).1)
    fun result member => (projected result member).2

/-- The output of an intersection lies between the outputs of its branches and the value. -/
theorem intersection_output (equivalence : JsonNumber.Equivalence numbers)
    {branches : List Validator} {description : String} {value output : Json}
    (formed : value.WellFormed)
    (projects : ∀ branch ∈ branches, ∀ result, branch.validate value = .ok result →
      result.WellFormed ∧ ProjectionBy numbers result value)
    (accepted : validate ⟨.intersection branches, description⟩ value = .ok output) :
    output.WellFormed ∧ ProjectionBy numbers output value ∧
      ∀ branch ∈ branches, ∃ result, branch.validate value = .ok result ∧
        ProjectionBy numbers result output := by
  rcases validate_intersection_ok.mp accepted with ⟨results, correspond, mergedEq⟩
  rcases merged_of_branches equivalence formed projects correspond with
    ⟨merged, mergedAgain, formedMerged, contained, below⟩
  obtain rfl : merged = output := Except.ok.inj (mergedAgain.symm.trans mergedEq)
  refine ⟨formedMerged, below, ?_⟩
  intro branch member
  rcases correspond.exists_of_mem_left member with ⟨result, inside, branchAccepted⟩
  exact ⟨result, branchAccepted, contained result inside⟩

/-- An output is a well-formed projection of the value it is for. -/
theorem output_projection (equivalence : JsonNumber.Equivalence numbers) {validator : Validator}
    (sound : validator.WellFormed) (literals : validator.Everywhere (LiteralProjects numbers))
    {value output : Json} (formed : value.WellFormed)
    (accepted : validator.validate value = .ok output) :
    output.WellFormed ∧ ProjectionBy numbers output value := by
  have unchanged : ∀ {value output : Json}, value.WellFormed → output = value →
      output.WellFormed ∧ ProjectionBy numbers output value := by
    rintro value _ formed rfl
    exact ⟨formed, projectionBy_refl equivalence formed⟩
  induction validator generalizing value output with
  | string | number | integer | boolean | null | unknown =>
      exact unchanged formed (output_eq_of_verbatim rfl accepted)
  | literal expected description =>
      rcases validate_literal_ok.mp accepted with ⟨same, rfl⟩
      exact ⟨sound.here, literals.here value formed same⟩
  | array items minItems maxItems description ih =>
      cases items with
      | none => exact unchanged formed (output_eq_of_verbatim rfl accepted)
      | some items =>
          rcases validate_array_some_ok.mp accepted with
            ⟨elements, results, rfl, _, correspond, rfl⟩
          rw [wellFormed_array] at formed
          apply array_projection
          exact correspond.imp_of_mem fun element member result _ accepted =>
            ih items rfl (sound.child List.mem_cons_self) (literals.child List.mem_cons_self)
              (formed element member) accepted
  | tuple slots description ih =>
      rcases validate_tuple_ok.mp accepted with ⟨elements, results, rfl, arity, correspond, rfl⟩
      rw [wellFormed_array] at formed
      apply array_projection
      exact (correspond.zip_right arity).imp_of_mem fun element member result _ accepted => by
        rcases accepted with ⟨slot, inside, accepted⟩
        exact ih slot inside (sound.child inside) (literals.child inside) (formed element member)
          accepted
  | object fields policy description ih =>
      rcases validate_object_ok.mp accepted with ⟨entries, rfl, accepts, _, rfl⟩
      rcases wellFormed_object.mp formed with ⟨distinct, formedEntries⟩
      apply object_projection (distinct_objectOutput policy sound.here distinct)
      apply objectOutput_matched sound.here distinct
      · intro entry member value output present accepted
        exact ih entry member (sound.field member) (literals.field member)
          (formed.lookup present) accepted
      · intro entry member
        exact unchanged (formedEntries entry member) rfl
  | record values description ih =>
      rcases validate_record_ok.mp accepted with ⟨entries, results, rfl, correspond, rfl⟩
      rcases wellFormed_object.mp formed with ⟨distinct, formedEntries⟩
      have projected : List.Forall₂ (fun entry result => result.1 = entry.1 ∧
          result.2.WellFormed ∧ ProjectionBy numbers result.2 entry.2) entries results :=
        correspond.imp_of_mem fun entry member result _ both =>
          ⟨both.1, ih (sound.child List.mem_cons_self) (literals.child List.mem_cons_self)
            (formedEntries entry member) both.2⟩
      apply object_projection
      · rw [Entries.Distinct, Entries.names_eq_of_forall₂ (projected.imp fun _ _ => And.left)]
        exact distinct
      · exact Entries.matched_of_forall₂ distinct projected
  | union branches description ih =>
      rcases exists_branch_of_union_ok accepted with ⟨branch, member, result⟩
      exact ih branch member (sound.child member) (literals.child member) formed result
  | intersection branches description ih =>
      have output := intersection_output equivalence formed (fun branch member result accepted =>
        ih branch member (sound.child member) (literals.child member) formed accepted) accepted
      exact ⟨output.1, output.2.1⟩
  | nullable inner description ih =>
      rcases validate_nullable_ok.mp accepted with ⟨rfl, same⟩ | ⟨_, accepted⟩
      · exact unchanged formed same
      · exact ih (sound.child List.mem_cons_self) (literals.child List.mem_cons_self) formed
          accepted

end Validator

end ToolGate
