import ToolGate.Proofs.Validator.Congruence
import ToolGate.Proofs.Validator.RoundTrip

/-!
# Parsing twice

Where no object drops members, the output for an output is this output again,
numbers included; only the members of objects may come in another order.  By
value an output equals its value, so a union takes the same branch for both.
Merging leaves the output of the first branch of an intersection as it was,
since it contains all others.  A literal has been put in the place of its
equals the first time and is not changed the second time.
-/

namespace ToolGate

open Json

variable {numbers : JsonNumber → JsonNumber → Bool}

namespace Validator

open Verdict ValidatorKind

/-- The output for an output is equivalent to it. -/
def Stable (numbers : JsonNumber → JsonNumber → Bool) (validator : Validator) : Prop :=
  ∀ {value output again : Json}, value.WellFormed → validator.validate value = .ok output →
    validator.validate output = .ok again → EquivalentBy numbers again output

/-- If nothing is dropped, an output has the value that it is for. -/
theorem output_equivalent {validator : Validator} (sound : validator.WellFormed)
    (keeps : validator.Everywhere KeepsMembers) {value output : Json} (formed : value.WellFormed)
    (accepted : validator.validate value = .ok output) :
    EquivalentBy JsonNumber.sameValue output value :=
  ⟨(output_isProjectionOf sound formed accepted).2,
    projection_output JsonNumber.sameValue_equivalence sound
      (sound.imp fun _ => Sound.literalAgrees) keeps formed accepted⟩

section Stable

variable {description : String}

theorem stable_of_verbatim (equivalence : JsonNumber.Equivalence numbers) {kind : ValidatorKind}
    (verbatim : kind.isVerbatim = true) : Stable numbers ⟨kind, description⟩ := by
  intro value output again formed accepted acceptedAgain
  obtain rfl := output_eq_of_verbatim verbatim accepted
  obtain rfl := output_eq_of_verbatim verbatim acceptedAgain
  exact .refl equivalence formed

theorem stable_array {items : Validator} {minItems maxItems : Option UInt64}
    (inside : items.Stable numbers) :
    Stable numbers ⟨.array ⟨some items, minItems, maxItems⟩, description⟩ := by
  intro value output again formed accepted acceptedAgain
  rcases validate_array_some_ok.mp accepted with ⟨elements, outputs, rfl, _, correspond, rfl⟩
  rcases validate_array_some_ok.mp acceptedAgain with ⟨_, agains, same, _, correspondAgain, rfl⟩
  cases same
  rw [wellFormed_array] at formed
  apply equivalentBy_array_iff.mpr
  apply List.Forall₂.flip
  apply correspondAgain.imp_of_mem
  intro output member again _ isAgain
  rcases correspond.exists_of_mem_right member with ⟨element, listed, isOutput⟩
  exact inside (formed element listed) isOutput isAgain

theorem stable_tuple {slots : List Validator} (inside : ∀ slot ∈ slots, slot.Stable numbers) :
    Stable numbers ⟨.tuple slots, description⟩ := by
  intro value output again formed accepted acceptedAgain
  rcases validate_tuple_ok.mp accepted with ⟨elements, outputs, rfl, arity, correspond, rfl⟩
  rcases validate_tuple_ok.mp acceptedAgain with
    ⟨_, agains, same, arityAgain, correspondAgain, rfl⟩
  cases same
  rw [wellFormed_array] at formed
  have ofSlots : List.Forall₂ (fun slot output =>
      ∃ element ∈ elements, slot.validate element = .ok output) slots outputs :=
    correspond.zip_left arity.symm
  have onPairs : List.Forall₂ (fun part again => EquivalentBy numbers again part.2)
      (slots.zip outputs) agains := by
    apply correspondAgain.imp_of_mem
    rintro ⟨slot, output⟩ member again _ isAgain
    rcases List.forall₂_zip ofSlots member with ⟨element, listed, isOutput⟩
    exact inside slot (List.of_mem_zip member).1 (formed element listed) isOutput isAgain
  apply equivalentBy_array_iff.mpr
  rw [← List.map_snd_zip (Nat.le_of_eq arityAgain)]
  exact List.forall₂_map_right_iff.mpr onPairs.flip

theorem stable_object (equivalence : JsonNumber.Equivalence numbers)
    {fields : List (String × Field)} {policy : UnknownKeys}
    (sound : WellFormed ⟨.object ⟨fields, policy⟩, description⟩)
    (inside : ∀ entry ∈ fields, entry.2.validator.Stable numbers) :
    Stable numbers ⟨.object ⟨fields, policy⟩, description⟩ := by
  intro value output again formed accepted acceptedAgain
  have formedOutput := (output_isProjectionOf sound formed accepted).1
  rcases validate_object_ok.mp accepted with ⟨entries, rfl, _, _, rfl⟩
  rcases validate_object_ok.mp acceptedAgain with ⟨members, same, accepts, _, rfl⟩
  obtain rfl := Json.object.inj same
  have distinctOutput := (wellFormed_object.mp formedOutput).1
  apply (equivalentBy_object_iff (distinct_objectOutput policy sound.here distinctOutput)
    distinctOutput).mpr
  intro key
  have first := lookup_objectOutput policy entries sound.here key
  rw [lookup_objectOutput policy _ sound.here]
  cases found : fields.lookup key with
  | some field =>
      have listed : (key, field) ∈ fields := Entries.mem_of_lookup found
      have present := (accepts (key, field) listed).present
      rw [found] at first
      simp only at first present
      generalize (objectOutput fields policy entries).lookup key = member at first present ⊢
      cases member with
      | none => exact .none
      | some output =>
          rcases Option.bind_eq_some_iff.mp first.symm with ⟨value, inEntries, isOutput⟩
          rcases present output rfl with ⟨again, isAgain⟩
          simp only [Option.bind_some, isAgain, output?_ok]
          exact .some (inside (key, field) listed (formed.lookup inEntries)
            (output?_eq_some_iff.mp isOutput) isAgain)
  | none =>
      rw [found] at first
      by_cases passed : policy = .passthrough
      · simp only [passed, ↓reduceIte]
        have unchanged := EquivalentBy.refl equivalence formedOutput
        rw [passed] at unchanged distinctOutput
        exact (equivalentBy_object_iff distinctOutput distinctOutput).mp unchanged key
      · simp only [passed, ↓reduceIte] at first ⊢
        rw [first]
        exact .none

theorem stable_record {values : Validator} (sound : WellFormed ⟨.record values, description⟩)
    (inside : values.Stable numbers) :
    Stable numbers ⟨.record values, description⟩ := by
  intro value output again formed accepted acceptedAgain
  have formedOutput := (output_isProjectionOf sound formed accepted).1
  have formedAgain := (output_isProjectionOf sound formedOutput acceptedAgain).1
  rcases validate_record_ok.mp accepted with ⟨entries, outputs, rfl, correspond, rfl⟩
  rcases validate_record_ok.mp acceptedAgain with ⟨_, agains, same, correspondAgain, rfl⟩
  obtain rfl := Json.object.inj same
  have stable : List.Forall₂ (fun output again =>
      again.1 = output.1 ∧ EquivalentBy numbers output.2 again.2) outputs agains := by
    apply correspondAgain.imp_of_mem
    rintro output member again _ ⟨named, isAgain⟩
    rcases correspond.exists_of_mem_right member with ⟨entry, listed, _, isOutput⟩
    exact ⟨named, (inside ((wellFormed_object.mp formed).2 entry listed) isOutput isAgain).symm⟩
  apply EquivalentBy.symm
  apply (equivalentBy_object_iff (wellFormed_object.mp formedOutput).1
    (wellFormed_object.mp formedAgain).1).mpr
  exact Entries.rel_lookup_of_forall₂ stable

/-- What refuses a value refuses the output for it too, so a union keeps to its branch. -/
theorem stable_union {branches : List Validator}
    (sound : WellFormed ⟨.union branches, description⟩)
    (keeps : Everywhere KeepsMembers ⟨.union branches, description⟩)
    (inside : ∀ branch ∈ branches, branch.Stable numbers) :
    Stable numbers ⟨.union branches, description⟩ := by
  intro value output again formed accepted acceptedAgain
  have formedOutput := (output_isProjectionOf sound formed accepted).1
  have same := output_equivalent sound keeps formed accepted
  have soundBranches : ∀ branch ∈ branches, branch.WellFormed := fun _ => sound.child
  clear sound keeps
  rw [validate_union_ok] at accepted acceptedAgain
  induction branches with
  | nil => cases accepted
  | cons branch rest ih =>
      rw [List.forall_mem_cons] at soundBranches inside
      rw [List.findSome?_cons] at accepted acceptedAgain
      cases first : branch.validate value with
      | ok mine =>
          rw [first] at accepted
          cases accepted
          rcases accepts_iff.mp (accepts_output soundBranches.1 formed first) with ⟨next, second⟩
          rw [second] at acceptedAgain
          cases acceptedAgain
          exact inside.1 formed first second
      | error found =>
          cases second : branch.validate output with
          | ok next =>
              rcases accepted_of_equivalent JsonNumber.sameValue_equivalence soundBranches.1
                formedOutput formed same second with ⟨mine, contrary⟩
              cases first.symm.trans contrary
          | error foundAgain =>
              rw [first] at accepted
              rw [second] at acceptedAgain
              exact ih inside.2 accepted acceptedAgain soundBranches.2

/-- The output of an intersection is the one of its first branch. -/
theorem intersection_output_first (equivalence : JsonNumber.Equivalence numbers)
    {first : Validator} {rest : List Validator}
    (sound : WellFormed ⟨.intersection (first :: rest), description⟩)
    (keeps : first.Everywhere KeepsMembers) {value output : Json} (formed : value.WellFormed)
    (accepted : validate ⟨.intersection (first :: rest), description⟩ value = .ok output) :
    ∃ result, first.validate value = .ok result ∧ EquivalentBy numbers output result := by
  rcases validate_intersection_ok.mp accepted with ⟨results, correspond, mergedEq⟩
  rcases List.forall₂_cons_left_iff.mp correspond with ⟨result, others, isResult, ofRest, rfl⟩
  have projected : ∀ branch ∈ first :: rest, ∀ result, branch.validate value = .ok result →
      result.WellFormed ∧ result.IsProjectionOf value :=
    fun branch member _ => output_isProjectionOf (sound.child member) formed
  have covered := output_equivalent (sound.child List.mem_cons_self) keeps formed isResult
  have below : ∀ other ∈ others, other.WellFormed ∧ other.IsProjectionOf result := by
    intro other member
    rcases ofRest.exists_of_mem_right member with ⟨branch, inside, isOther⟩
    have projection := projected branch (List.mem_cons_of_mem _ inside) other isOther
    exact ⟨projection.1, projection.2.trans JsonNumber.sameValue_equivalence covered.2⟩
  refine ⟨result, isResult, ?_⟩
  exact mergeAll_absorbs equivalence (projected first List.mem_cons_self result isResult).1
    (fun other member => (below other member).1) (fun other member => (below other member).2)
    (merged_cons_eq_ok_iff.mp mergedEq)

theorem stable_intersection (equivalence : JsonNumber.Equivalence numbers)
    {branches : List Validator} (sound : WellFormed ⟨.intersection branches, description⟩)
    (keeps : Everywhere KeepsMembers ⟨.intersection branches, description⟩)
    (inside : ∀ branch ∈ branches, branch.Stable numbers) :
    Stable numbers ⟨.intersection branches, description⟩ := by
  intro value output again formed accepted acceptedAgain
  have formedOutput := (output_isProjectionOf sound formed accepted).1
  cases branches with
  | nil =>
      rcases validate_intersection_ok.mp acceptedAgain with ⟨results, correspond, mergedEq⟩
      cases correspond
      cases mergedEq
      exact .refl equivalence formedOutput
  | cons first rest =>
      have member : first ∈ first :: rest := List.mem_cons_self
      have soundFirst : first.WellFormed := sound.child member
      rcases intersection_output_first equivalence sound (keeps.child member) formed accepted with
        ⟨result, isResult, outputSame⟩
      rcases intersection_output_first equivalence sound (keeps.child member) formedOutput
        acceptedAgain with ⟨resultAgain, isResultAgain, againSame⟩
      -- the first branch is stable on its own output, of which the merged one is an equivalent
      have formedResult := (output_isProjectionOf soundFirst formed isResult).1
      rcases accepts_iff.mp (accepts_output soundFirst formed isResult) with ⟨next, isNext⟩
      have stable := inside first member formed isResult isNext
      have respected := respects equivalence soundFirst formedOutput formedResult outputSame
        isResultAgain isNext
      exact ((againSame.trans equivalence respected).trans equivalence stable).trans equivalence
        outputSame.symm

end Stable

/-- Where nothing is dropped, every validator gives the output for its output back. -/
theorem stable (equivalence : JsonNumber.Equivalence numbers) {validator : Validator}
    (sound : validator.WellFormed) (keeps : validator.Everywhere KeepsMembers) :
    validator.Stable numbers := by
  induction validator with
  | string | number | integer | boolean | null | unknown =>
      exact stable_of_verbatim equivalence rfl
  | literal expected description =>
      intro value output again _ accepted acceptedAgain
      rcases validate_literal_ok.mp accepted with ⟨_, rfl⟩
      rcases validate_literal_ok.mp acceptedAgain with ⟨_, rfl⟩
      exact .refl equivalence sound.here
  | array items minItems maxItems description ih =>
      cases items with
      | none => exact stable_of_verbatim equivalence rfl
      | some items =>
          exact stable_array (ih items rfl (sound.child List.mem_cons_self)
            (keeps.child List.mem_cons_self))
  | tuple slots description ih =>
      exact stable_tuple fun slot member => ih slot member (sound.child member) (keeps.child member)
  | object fields policy description ih =>
      exact stable_object equivalence sound fun entry member =>
        ih entry member (sound.field member) (keeps.field member)
  | record values description ih =>
      exact stable_record sound (ih (sound.child List.mem_cons_self)
        (keeps.child List.mem_cons_self))
  | union branches description ih =>
      exact stable_union sound keeps fun branch member =>
        ih branch member (sound.child member) (keeps.child member)
  | intersection branches description ih =>
      exact stable_intersection equivalence sound keeps fun branch member =>
        ih branch member (sound.child member) (keeps.child member)
  | nullable inner description ih =>
      intro value output again formed accepted acceptedAgain
      have formedOutput := (output_isProjectionOf sound formed accepted).1
      rcases validate_nullable_ok.mp acceptedAgain with ⟨rfl, rfl⟩ | ⟨notNull, innerAgain⟩
      · exact .refl equivalence formedOutput
      · rcases validate_nullable_ok.mp accepted with ⟨_, isNull⟩ | ⟨_, innerAccepted⟩
        · exact absurd isNull notNull
        · exact ih (sound.child List.mem_cons_self) (keeps.child List.mem_cons_self) formed
            innerAccepted innerAgain

/--
Parsing is idempotent.  If no object in the tree drops members, every output
is accepted again, and the output for it is the same up to the order of
members, numbers included with their form.
-/
theorem parsing_idempotent (validator : Validator) (sound : validator.WellFormed)
    (keeps : validator.Everywhere KeepsMembers) {value output : Json} (formed : value.WellFormed)
    (accepted : validator.validate value = .ok output) :
    ∃ again, validator.validate output = .ok again ∧ again.sameForm output = true := by
  have equivalence := JsonNumber.sameForm_equivalence
  rcases accepts_iff.mp (accepts_output sound formed accepted) with ⟨again, acceptedAgain⟩
  have formedOutput := (output_isProjectionOf sound formed accepted).1
  have formedAgain := (output_isProjectionOf sound formedOutput acceptedAgain).1
  refine ⟨again, acceptedAgain, ?_⟩
  apply (equalBy_iff_equivalent equivalence formedAgain formedOutput).mpr
  exact stable equivalence sound keeps formed accepted acceptedAgain

/-- A float becomes the integer that is its literal, and stays this integer. -/
theorem parsing_idempotent_literal :
    let one : Json := .ofNat 1
    let count : Validator := .ofKind (.intersection [.literal one, .ofKind (.number {})])
    let validator : Validator := .ofKind (.object ⟨[("count", ⟨count, false⟩)], .passthrough⟩)
    let value : Json := .object [("note", .null), ("count", .ofBinary64 (.ofInt 1))]
    validator.WellFormed ∧ validator.Everywhere KeepsMembers ∧ value.WellFormed ∧
      ∃ output again, validator.validate value = .ok output ∧
        validator.validate output = .ok again ∧ again.sameForm output = true ∧
        output.sameForm value = false := by
  intro one count validator value
  have sound : validator.WellFormed := by
    simp [validator, count, literal, WellFormed, ofKind, everywhere_iff, ValidatorKind.Sound,
      ValidatorKind.children, Entries.distinct_nil, one, Json.ofNat]
  have keeps : validator.Everywhere KeepsMembers := by
    simp [validator, count, literal, ofKind, everywhere_iff, KeepsMembers, ValidatorKind.children]
  have formed : value.WellFormed := by
    simp [value, Entries.distinct_nil, Json.ofBinary64]
  have accepts : validator.accepts value = true := by decide +kernel
  have changes : ((validator.validate value).toOption.any fun output => output.sameForm value) =
      false := by decide +kernel
  rcases accepts_iff.mp accepts with ⟨output, accepted⟩
  rcases parsing_idempotent validator sound keeps formed accepted with ⟨again, isAgain, same⟩
  rw [accepted] at changes
  exact ⟨sound, keeps, formed, output, again, accepted, isAgain, same, changes⟩

end Validator

end ToolGate
