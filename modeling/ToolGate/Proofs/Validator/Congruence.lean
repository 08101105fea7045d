import ToolGate.Proofs.Json.MergeMembers
import ToolGate.Proofs.Validator.Reacceptance

/-!
# Equivalent values have equivalent outputs

No validator tells equivalent values apart.  They are accepted alike, since
each lies between the output for the other and the other, and their outputs
are equivalent in the same sense, also where a union chooses a branch or an
intersection merges.
-/

namespace ToolGate

open Json

variable {numbers : JsonNumber → JsonNumber → Bool}

/-- The results for related members are related. -/
theorem rel_results {α β γ δ : Type} {related : α → β → Prop} {first : α → γ → Prop}
    {second : β → δ → Prop} {resulting : γ → δ → Prop} {left : Option α} {right : Option β}
    {ofLeft : Option γ} {ofRight : Option δ} (relation : Option.Rel related left right)
    (isLeft : Option.Rel first left ofLeft) (isRight : Option.Rel second right ofRight)
    (implies : ∀ element partner result other, left = some element → right = some partner →
      related element partner → first element result → second partner other →
        resulting result other) :
    Option.Rel resulting ofLeft ofRight := by
  cases relation with
  | none =>
      cases isLeft
      cases isRight
      exact .none
  | some relation =>
      cases isLeft with
      | some isLeft =>
          cases isRight with
          | some isRight => exact .some (implies _ _ _ _ rfl rfl relation isLeft isRight)

theorem Verdict.merged_cons_eq_ok_iff {value first output : Json} {others : List Json} :
    merged value (first :: others) = .ok output ↔ mergeAll? first others = some output := by
  cases joined : mergeAll? first others <;> simp [merged, joined, refuse]

namespace Validator

open Verdict ValidatorKind

/-- A validator that accepts a value accepts every equivalent one. -/
theorem accepted_of_equivalent (equivalence : JsonNumber.Equivalence numbers)
    {validator : Validator} (sound : validator.WellFormed) {value other output : Json}
    (formed : value.WellFormed) (formedOther : other.WellFormed)
    (same : EquivalentBy numbers value other) (accepted : validator.validate value = .ok output) :
    ∃ result, validator.validate other = .ok result := by
  have equal := same.value equivalence
  have below := (output_isProjectionOf sound formed accepted).2
  exact acceptsBetween sound value output other formed formedOther accepted
    (below.trans JsonNumber.sameValue_equivalence equal.1) equal.2

/-- Equivalent values have equivalent outputs. -/
def Respects (numbers : JsonNumber → JsonNumber → Bool) (validator : Validator) : Prop :=
  ∀ {value other output result : Json}, value.WellFormed → other.WellFormed →
    EquivalentBy numbers value other → validator.validate value = .ok output →
      validator.validate other = .ok result → EquivalentBy numbers output result

section Respects

variable {description : String}

theorem respects_of_verbatim {kind : ValidatorKind} (verbatim : kind.isVerbatim = true) :
    Respects numbers ⟨kind, description⟩ := by
  intro value other output result _ _ same accepted acceptedOther
  rw [output_eq_of_verbatim verbatim accepted, output_eq_of_verbatim verbatim acceptedOther]
  exact same

theorem respects_array {items : Validator} {minItems maxItems : Option UInt64}
    (inside : items.Respects numbers) :
    Respects numbers ⟨.array ⟨some items, minItems, maxItems⟩, description⟩ := by
  intro value other output result formed formedOther same accepted acceptedOther
  rcases validate_array_some_ok.mp accepted with ⟨elements, outputs, rfl, _, correspond, rfl⟩
  rcases validate_array_some_ok.mp acceptedOther with
    ⟨others, results, rfl, _, correspondOther, rfl⟩
  rw [wellFormed_array] at formed formedOther
  apply equivalentBy_array_iff.mpr
  apply (equivalentBy_array_iff.mp same).results correspond correspondOther
  intro element member partner listed _ _ equivalent isOutput isResult
  exact inside (formed element member) (formedOther partner listed) equivalent isOutput isResult

theorem respects_tuple {slots : List Validator} (inside : ∀ slot ∈ slots, slot.Respects numbers) :
    Respects numbers ⟨.tuple slots, description⟩ := by
  intro value other output result formed formedOther same accepted acceptedOther
  rcases validate_tuple_ok.mp accepted with ⟨elements, outputs, rfl, _, correspond, rfl⟩
  rcases validate_tuple_ok.mp acceptedOther with ⟨others, results, rfl, _, correspondOther, rfl⟩
  rw [wellFormed_array] at formed formedOther
  have slotwise : List.Forall₂ (fun slot other => slot = other ∧ slot ∈ slots) slots slots :=
    List.forall₂_same.mpr fun _ member => ⟨rfl, member⟩
  have pairs := slotwise.zip (equivalentBy_array_iff.mp same)
  apply equivalentBy_array_iff.mpr
  apply pairs.results correspond correspondOther
  rintro ⟨slot, element⟩ inPairs ⟨_, other⟩ inOthers _ _ ⟨⟨rfl, member⟩, equivalent⟩
    isOutput isResult
  exact inside slot member (formed _ (List.of_mem_zip inPairs).2)
    (formedOther _ (List.of_mem_zip inOthers).2) equivalent isOutput isResult

theorem respects_object {fields : List (String × Field)} {policy : UnknownKeys}
    (distinctFields : Entries.Distinct fields)
    (inside : ∀ entry ∈ fields, entry.2.validator.Respects numbers) :
    Respects numbers ⟨.object ⟨fields, policy⟩, description⟩ := by
  intro value other output result formed formedOther same accepted acceptedOther
  rcases validate_object_ok.mp accepted with ⟨entries, rfl, accepts, _, rfl⟩
  rcases validate_object_ok.mp acceptedOther with ⟨others, rfl, acceptsOthers, _, rfl⟩
  have distinct := (wellFormed_object.mp formed).1
  have distinctOthers := (wellFormed_object.mp formedOther).1
  have related := (equivalentBy_object_iff distinct distinctOthers).mp same
  apply (equivalentBy_object_iff (distinct_objectOutput policy distinctFields distinct)
    (distinct_objectOutput policy distinctFields distinctOthers)).mpr
  intro key
  rw [lookup_objectOutput policy entries distinctFields,
    lookup_objectOutput policy others distinctFields]
  have here := related key
  cases found : fields.lookup key with
  | some field =>
      have listed : (key, field) ∈ fields := Entries.mem_of_lookup found
      have present := (accepts (key, field) listed).present
      have presentOther := (acceptsOthers (key, field) listed).present
      have formedMember : ∀ member, entries.lookup key = some member → member.WellFormed :=
        fun _ => formed.lookup
      have formedMemberOther : ∀ member, others.lookup key = some member → member.WellFormed :=
        fun _ => formedOther.lookup
      simp only at present presentOther
      generalize entries.lookup key = member at here present formedMember
      generalize others.lookup key = other at here presentOther formedMemberOther
      cases here with
      | none => exact .none
      | some equivalent =>
          rcases present _ rfl with ⟨output, isOutput⟩
          rcases presentOther _ rfl with ⟨result, isResult⟩
          simp only [Option.bind_some, isOutput, isResult, output?_ok]
          exact .some (inside (key, field) listed (formedMember _ rfl) (formedMemberOther _ rfl)
            equivalent isOutput isResult)
  | none =>
      by_cases passed : policy = .passthrough
      · simp only [passed, ↓reduceIte]
        exact here
      · simp only [passed, ↓reduceIte]
        exact .none

theorem respects_record {values : Validator} (inside : values.Respects numbers) :
    Respects numbers ⟨.record values, description⟩ := by
  intro value other output result formed formedOther same accepted acceptedOther
  rcases validate_record_ok.mp accepted with ⟨entries, outputs, rfl, correspond, rfl⟩
  rcases validate_record_ok.mp acceptedOther with ⟨others, results, rfl, correspondOther, rfl⟩
  have distinct := (wellFormed_object.mp formed).1
  have distinctOthers := (wellFormed_object.mp formedOther).1
  have names := Entries.names_eq_of_forall₂ (correspond.imp fun _ _ => And.left)
  have namesOther := Entries.names_eq_of_forall₂ (correspondOther.imp fun _ _ => And.left)
  have distinctOutputs : Entries.Distinct outputs := by
    rwa [Entries.Distinct, names]
  have distinctResults : Entries.Distinct results := by
    rwa [Entries.Distinct, namesOther]
  apply (equivalentBy_object_iff distinctOutputs distinctResults).mpr
  intro key
  have areOutputs : Option.Rel (fun member output => values.validate member = .ok output)
      (entries.lookup key) (outputs.lookup key) :=
    Entries.rel_lookup_of_forall₂ correspond key
  have areResults : Option.Rel (fun member output => values.validate member = .ok output)
      (others.lookup key) (results.lookup key) :=
    Entries.rel_lookup_of_forall₂ correspondOther key
  apply rel_results ((equivalentBy_object_iff distinct distinctOthers).mp same key)
    areOutputs areResults
  intro member partner _ _ found foundOther equivalent isOutput isResult
  exact inside (formed.lookup found) (formedOther.lookup foundOther) equivalent isOutput isResult

/-- Of equivalent values a union takes the same branch. -/
theorem respects_union (equivalence : JsonNumber.Equivalence numbers) {branches : List Validator}
    (sound : ∀ branch ∈ branches, branch.WellFormed)
    (inside : ∀ branch ∈ branches, branch.Respects numbers) :
    Respects numbers ⟨.union branches, description⟩ := by
  intro value other output result formed formedOther same accepted acceptedOther
  rw [validate_union_ok] at accepted acceptedOther
  induction branches with
  | nil => cases accepted
  | cons branch rest ih =>
      rw [List.forall_mem_cons] at sound inside
      rw [List.findSome?_cons] at accepted acceptedOther
      cases first : branch.validate value with
      | ok mine =>
          rcases accepted_of_equivalent equivalence sound.1 formed formedOther same first with
            ⟨theirs, second⟩
          rw [first] at accepted
          rw [second] at acceptedOther
          cases accepted
          cases acceptedOther
          exact inside.1 formed formedOther same first second
      | error found =>
          cases second : branch.validate other with
          | ok theirs =>
              rcases accepted_of_equivalent equivalence sound.1 formedOther formed same.symm
                second with ⟨mine, again⟩
              cases first.symm.trans again
          | error foundOther =>
              rw [first] at accepted
              rw [second] at acceptedOther
              exact ih sound.2 inside.2 accepted acceptedOther

theorem respects_intersection {branches : List Validator}
    (sound : ∀ branch ∈ branches, branch.WellFormed)
    (inside : ∀ branch ∈ branches, branch.Respects numbers) :
    Respects numbers ⟨.intersection branches, description⟩ := by
  intro value other output result formed formedOther same accepted acceptedOther
  rcases validate_intersection_ok.mp accepted with ⟨outputs, correspond, mergedEq⟩
  rcases validate_intersection_ok.mp acceptedOther with ⟨results, correspondOther, mergedEqOther⟩
  have formedOutputs : ∀ output ∈ outputs, output.WellFormed :=
    fun output member => (results_areProjectionsOf sound formed correspond output member).1
  have formedResults : ∀ result ∈ results, result.WellFormed :=
    fun result member =>
      (results_areProjectionsOf sound formedOther correspondOther result member).1
  have branchwise : List.Forall₂ Eq branches branches := List.forall₂_refl branches
  have pairwise : List.Forall₂ (EquivalentBy numbers) outputs results := by
    apply branchwise.results correspond correspondOther
    rintro branch member _ _ output result rfl isOutput isResult
    exact inside branch member formed formedOther same isOutput isResult
  cases pairwise with
  | nil =>
      cases mergedEq
      cases mergedEqOther
      exact same
  | cons sameFirst sameRest =>
      rw [merged_cons_eq_ok_iff] at mergedEq mergedEqOther
      exact mergeAll_congr formedOutputs formedResults sameFirst sameRest mergedEq mergedEqOther

end Respects

/-- Every validator gives equivalent outputs for equivalent values. -/
theorem respects (equivalence : JsonNumber.Equivalence numbers) {validator : Validator}
    (sound : validator.WellFormed) : validator.Respects numbers := by
  induction validator with
  | array items minItems maxItems description ih =>
      cases items with
      | none => exact respects_of_verbatim rfl
      | some items => exact respects_array (ih items rfl (sound.child List.mem_cons_self))
  | tuple slots description ih =>
      exact respects_tuple fun slot member => ih slot member (sound.child member)
  | object fields policy description ih =>
      exact respects_object sound.here fun entry member => ih entry member (sound.field member)
  | record values description ih => exact respects_record (ih (sound.child List.mem_cons_self))
  | union branches description ih =>
      exact respects_union equivalence (fun branch member => sound.child member)
        fun branch member => ih branch member (sound.child member)
  | intersection branches description ih =>
      exact respects_intersection (fun branch member => sound.child member)
        fun branch member => ih branch member (sound.child member)
  | nullable inner description ih =>
      intro value other output result formed formedOther same accepted acceptedOther
      rcases validate_nullable_ok.mp accepted with ⟨rfl, rfl⟩ | ⟨notNull, accepted⟩
      · obtain rfl := projectionBy_null_left.mp same.1
        rcases validate_nullable_ok.mp acceptedOther with ⟨_, rfl⟩ | ⟨notNull, _⟩
        · exact same
        · exact absurd rfl notNull
      · rcases validate_nullable_ok.mp acceptedOther with ⟨rfl, _⟩ | ⟨_, acceptedOther⟩
        · exact absurd (projectionBy_null_right.mp same.1) notNull
        · exact ih (sound.child List.mem_cons_self) formed formedOther same accepted acceptedOther
  | literal expected description =>
      intro value other output result _ _ _ accepted acceptedOther
      rcases validate_literal_ok.mp accepted with ⟨_, rfl⟩
      rcases validate_literal_ok.mp acceptedOther with ⟨_, rfl⟩
      exact .refl equivalence sound.here
  | string | number | integer | boolean | null | unknown => exact respects_of_verbatim rfl

end Validator

end ToolGate
