import Mathlib.Logic.Relation
import ToolGate.Proofs.Json.Positions
import ToolGate.Proofs.Validator.Idempotence

/-!
# The algebra of compositions

The output of an intersection is a least upper bound: it lies below a value if
the outputs of all branches do.  So only this matters of the branches of an
intersection, and it does not change if they come in another order, more than
once, or grouped into intersections of their own.  Of a union only the first
branch that accepts matters, which is the same if alternatives next to each
other are grouped or a branch comes once more after itself.
-/

namespace ToolGate.Validator

open Json Verdict ValidatorKind

variable {first second branches : List Validator} {value bound output : Json}
  {description other : String}

/-- One change of the branches of an intersection that leaves what they ask for together. -/
inductive BranchStep : List Validator → List Validator → Prop where
  | permuted {first second : List Validator} (perm : first.Perm second) : BranchStep first second
  | repeated {branches : List Validator} {branch : Validator} (member : branch ∈ branches) :
      BranchStep branches (branch :: branches)
  | nested (before : List Validator) {group : List Validator} (after : List Validator)
      (description : String) (nonempty : group ≠ []) :
      BranchStep (before ++ group ++ after)
        (before ++ ⟨.intersection group, description⟩ :: after)

/-- One change of the branches of a union that leaves the first one that accepts. -/
inductive AlternativeStep : List Validator → List Validator → Prop where
  | nested (before group after : List Validator) (description : String) :
      AlternativeStep (before ++ group ++ after) (before ++ ⟨.union group, description⟩ :: after)
  | repeated {before : List Validator} (after : List Validator) {branch : Validator}
      (earlier : branch ∈ before) : AlternativeStep (before ++ after) (before ++ branch :: after)

/-- The validator accepts the value, with an output below the bound. -/
def OutputBelow (value bound : Json) (validator : Validator) : Prop :=
  ∃ output, validator.validate value = .ok output ∧ output.IsProjectionOf bound

/-- Every output lies below its value. -/
theorem accepts_iff_outputBelow {validator : Validator} (sound : validator.WellFormed)
    (formed : value.WellFormed) :
    validator.accepts value = true ↔ OutputBelow value value validator := by
  rw [accepts_iff]
  constructor
  · rintro ⟨output, accepted⟩
    exact ⟨output, accepted, (output_isProjectionOf sound formed accepted).2⟩
  · rintro ⟨output, accepted, _⟩
    exact ⟨output, accepted⟩

theorem outputBelow_iff_of_ok {validator : Validator}
    (accepted : validator.validate value = .ok output) :
    OutputBelow value bound validator ↔ output.IsProjectionOf bound := by
  constructor
  · rintro ⟨again, acceptedAgain, below⟩
    cases accepted.symm.trans acceptedAgain
    exact below
  · exact fun below => ⟨output, accepted, below⟩

section Intersections

/-- The output of an intersection is the least value above the outputs of its branches. -/
theorem outputBelow_intersection_iff (nonempty : branches ≠ [])
    (sound : ∀ branch ∈ branches, branch.WellFormed) (formed : value.WellFormed)
    (formedBound : bound.WellFormed) :
    OutputBelow value bound ⟨.intersection branches, description⟩ ↔
      ∀ branch ∈ branches, OutputBelow value bound branch := by
  have equivalence := JsonNumber.sameValue_equivalence
  constructor
  · rintro ⟨output, accepted, below⟩ branch member
    have projects : ∀ branch ∈ branches, ∀ result, branch.validate value = .ok result →
        result.WellFormed ∧ result.IsProjectionOf value :=
      fun branch member _ accepted => output_isProjectionOf (sound branch member) formed accepted
    rcases intersection_output equivalence formed projects accepted with ⟨_, _, contained⟩
    rcases contained branch member with ⟨result, isResult, part⟩
    exact ⟨result, isResult, part.trans equivalence below⟩
  · intro allBelow
    rcases List.Forall₂.exists_of_forall allBelow with ⟨results, correspond⟩
    have outputs := correspond.imp fun _ _ => And.left
    have formedResults : ∀ result ∈ results, result.WellFormed :=
      fun result member => (results_areProjectionsOf sound formed outputs result member).1
    have belows : ∀ result ∈ results, result.IsProjectionOf bound := by
      intro result member
      rcases correspond.exists_of_mem_right member with ⟨_, _, _, below⟩
      exact below
    cases results with
    | nil => exact absurd (List.forall₂_nil_right_iff.mp outputs) nonempty
    | cons first others =>
        rcases mergeAll_between equivalence formedBound first others formedResults belows with
          ⟨output, mergedEq, _, _, below⟩
        exact ⟨output, validate_intersection_ok.mpr
          ⟨first :: others, outputs, merged_cons_eq_ok_iff.mpr mergedEq⟩, below⟩

/-- The outputs of both lists of branches have the same upper bounds, for every value. -/
structure SameBounds (first second : List Validator) : Prop where
  /-- Only together are the branches well formed. -/
  sound_iff : (∀ branch ∈ first, branch.WellFormed) ↔ ∀ branch ∈ second, branch.WellFormed
  /-- Only together are there no branches. -/
  eq_nil_iff : first = [] ↔ second = []
  /-- The bounds are the same. -/
  bounds : (∀ branch ∈ first, branch.WellFormed) → ∀ {value bound : Json},
    value.WellFormed → bound.WellFormed →
      ((∀ branch ∈ first, OutputBelow value bound branch) ↔
        ∀ branch ∈ second, OutputBelow value bound branch)

theorem SameBounds.refl (branches : List Validator) : SameBounds branches branches :=
  ⟨.rfl, .rfl, fun _ _ _ _ _ => .rfl⟩

theorem SameBounds.symm (same : SameBounds first second) : SameBounds second first := by
  refine ⟨same.sound_iff.symm, same.eq_nil_iff.symm, ?_⟩
  intro sound value bound formed formedBound
  exact (same.bounds (same.sound_iff.mpr sound) formed formedBound).symm

theorem SameBounds.trans (before : SameBounds first branches)
    (after : SameBounds branches second) : SameBounds first second := by
  refine ⟨before.sound_iff.trans after.sound_iff, before.eq_nil_iff.trans after.eq_nil_iff, ?_⟩
  intro sound value bound formed formedBound
  exact (before.bounds sound formed formedBound).trans
    (after.bounds (before.sound_iff.mp sound) formed formedBound)

theorem wellFormed_intersection_iff :
    WellFormed ⟨.intersection branches, description⟩ ↔
      ∀ branch ∈ branches, branch.WellFormed := by
  rw [WellFormed, everywhere_iff]
  exact and_iff_right trivial

theorem BranchStep.sameBounds (step : BranchStep first second) : SameBounds first second := by
  cases step with
  | permuted perm =>
      have members {property : Validator → Prop} :
          (∀ branch ∈ first, property branch) ↔ ∀ branch ∈ second, property branch :=
        forall_congr' fun _ => imp_congr_left perm.mem_iff
      have noneToo : first = [] ↔ second = [] := by
        rw [← List.length_eq_zero_iff, ← List.length_eq_zero_iff, perm.length_eq]
      exact ⟨members, noneToo, fun _ _ _ _ _ => members⟩
  | @repeated _ branch member =>
      have members {property : Validator → Prop} : (∀ branch ∈ first, property branch) ↔
          ∀ other ∈ branch :: first, property other := by
        rw [List.forall_mem_cons]
        exact ⟨fun all => ⟨all branch member, all⟩, And.right⟩
      have present : first ≠ [] := List.ne_nil_of_mem member
      exact ⟨members, by simp [present], fun _ _ _ _ _ => members⟩
  | @nested before group after description nonempty =>
      refine ⟨?_, by simp [nonempty], ?_⟩
      · simp only [List.forall_mem_append, List.forall_mem_cons, wellFormed_intersection_iff,
          and_assoc]
      · intro sound value bound formed formedBound
        simp only [List.forall_mem_append, and_assoc] at sound
        simp only [List.forall_mem_append, List.forall_mem_cons, and_assoc,
          outputBelow_intersection_iff nonempty sound.2.1 formed formedBound]

theorem sameBounds_of_rearrangements (rearrangements : Relation.EqvGen BranchStep first second) :
    SameBounds first second := by
  induction rearrangements with
  | rel first second step => exact step.sameBounds
  | refl branches => exact .refl branches
  | symm first second _ same => exact same.symm
  | trans first middle second _ _ before after => exact before.trans after

/--
Intersections of branches that are permuted, repeated or grouped accept the same values, with
outputs of the same value.
-/
theorem intersection_rearranged (rearrangements : Relation.EqvGen BranchStep first second)
    (nonempty : first ≠ []) (sound : ∀ branch ∈ first, branch.WellFormed)
    (formed : value.WellFormed) :
    accepts ⟨.intersection first, description⟩ value =
        accepts ⟨.intersection second, other⟩ value ∧
      ∀ output result, validate ⟨.intersection first, description⟩ value = .ok output →
        validate ⟨.intersection second, other⟩ value = .ok result →
          output.sameValue result = true := by
  have same := sameBounds_of_rearrangements rearrangements
  have nonemptyToo : second ≠ [] := fun none => nonempty (same.eq_nil_iff.mpr none)
  have soundToo := same.sound_iff.mp sound
  have sameOutputs : ∀ {bound : Json}, bound.WellFormed →
      (OutputBelow value bound ⟨.intersection first, description⟩ ↔
        OutputBelow value bound ⟨.intersection second, other⟩) := by
    intro bound formedBound
    rw [outputBelow_intersection_iff nonempty sound formed formedBound,
      outputBelow_intersection_iff nonemptyToo soundToo formed formedBound]
    exact same.bounds sound formed formedBound
  have soundFirst : WellFormed ⟨.intersection first, description⟩ :=
    wellFormed_intersection_iff.mpr sound
  have soundSecond : WellFormed ⟨.intersection second, other⟩ :=
    wellFormed_intersection_iff.mpr soundToo
  constructor
  · rw [Bool.eq_iff_iff, accepts_iff_outputBelow soundFirst formed,
      accepts_iff_outputBelow soundSecond formed]
    exact sameOutputs formed
  · intro output result accepted acceptedToo
    have equivalence := JsonNumber.sameValue_equivalence
    have formedOutput := (output_isProjectionOf soundFirst formed accepted).1
    have formedResult := (output_isProjectionOf soundSecond formed acceptedToo).1
    apply (equalBy_iff_equivalent equivalence formedOutput formedResult).mpr
    apply EquivalentBy.ofBounds equivalence formedOutput formedResult
    intro bound formedBound
    exact (outputBelow_iff_of_ok accepted).symm.trans
      ((sameOutputs formedBound).trans (outputBelow_iff_of_ok acceptedToo))

/-- The output of an intersection has the names that its branches leave. -/
theorem intersection_joinsNames (nonempty : branches ≠ [])
    (sound : ∀ branch ∈ branches, branch.WellFormed) (formed : value.WellFormed)
    (accepted : validate ⟨.intersection branches, description⟩ value = .ok output) :
    ∃ results, List.Forall₂ (fun branch result => branch.validate value = .ok result)
        branches results ∧ JoinsNames results output := by
  rcases validate_intersection_ok.mp accepted with ⟨results, correspond, mergedEq⟩
  have projections := results_areProjectionsOf sound formed correspond
  have formedResults : ∀ result ∈ results, result.WellFormed :=
    fun result member => (projections result member).1
  cases results with
  | nil => exact absurd (List.forall₂_nil_right_iff.mp correspond) nonempty
  | cons first others =>
      rw [merged_cons_eq_ok_iff] at mergedEq
      rcases mergeAll_between JsonNumber.sameValue_equivalence formed first others formedResults
          (fun result member => (projections result member).2) with
        ⟨again, mergedAgain, formedOutput, contained, _⟩
      obtain rfl : again = output := Option.some.inj (mergedAgain.symm.trans mergedEq)
      exact ⟨first :: others, correspond,
        joinsNames_of_mergeAll formedResults formedOutput contained mergedEq⟩

end Intersections

section Unions

/-- What a union gives for a value depends on the first branch that accepts only. -/
theorem findSome?_union (branches : List Validator) (value : Json) :
    output? (validate ⟨.union branches, description⟩ value) =
      branches.findSome? fun branch => output? (branch.validate value) := by
  apply Option.ext
  intro output
  rw [output?_eq_some_iff, validate_union_ok]

theorem AlternativeStep.findSome? (step : AlternativeStep first second) (value : Json) :
    (first.findSome? fun branch => output? (branch.validate value)) =
      second.findSome? fun branch => output? (branch.validate value) := by
  cases step with
  | nested before group after description =>
      simp only [List.append_assoc, List.findSome?_append, List.findSome?_cons, findSome?_union]
      cases group.findSome? fun branch => output? (branch.validate value) <;> rfl
  | @repeated before after branch earlier =>
      simp only [List.findSome?_append, List.findSome?_cons]
      cases found : before.findSome? fun branch => output? (branch.validate value) with
      | some output => rfl
      | none =>
          rw [List.findSome?_eq_none_iff.mp found branch earlier]

theorem findSome?_of_rearrangements (rearrangements : Relation.EqvGen AlternativeStep first second)
    (value : Json) :
    (first.findSome? fun branch => output? (branch.validate value)) =
      second.findSome? fun branch => output? (branch.validate value) := by
  induction rearrangements with
  | rel first second step => exact step.findSome? value
  | refl branches => rfl
  | symm first second _ same => exact same.symm
  | trans first middle second _ _ before after => exact before.trans after

/-- Alternatives that are grouped or repeated give the same outputs. -/
theorem union_rearranged (rearrangements : Relation.EqvGen AlternativeStep first second) :
    accepts ⟨.union first, description⟩ value = accepts ⟨.union second, other⟩ value ∧
      ∀ output, validate ⟨.union first, description⟩ value = .ok output ↔
        validate ⟨.union second, other⟩ value = .ok output := by
  have sameOutputs : ∀ output, validate ⟨.union first, description⟩ value = .ok output ↔
      validate ⟨.union second, other⟩ value = .ok output := by
    intro output
    rw [validate_union_ok, validate_union_ok, findSome?_of_rearrangements rearrangements value]
  refine ⟨?_, sameOutputs⟩
  rw [Bool.eq_iff_iff, accepts_iff, accepts_iff]
  exact exists_congr sameOutputs

/-- Alternatives in another order accept the same values. -/
theorem accepts_union_permuted (perm : first.Perm second) :
    accepts ⟨.union first, description⟩ value = accepts ⟨.union second, other⟩ value := by
  rw [Bool.eq_iff_iff, accepts_union_iff, accepts_union_iff]
  exact exists_congr fun branch => and_congr_left' perm.mem_iff

theorem union_output_equivalent (sound : ∀ branch ∈ branches, branch.WellFormed)
    (keeps : ∀ branch ∈ branches, branch.Everywhere KeepsMembers) (formed : value.WellFormed)
    (accepted : validate ⟨.union branches, description⟩ value = .ok output) :
    output.WellFormed ∧ EquivalentBy JsonNumber.sameValue output value := by
  rcases exists_branch_of_union_ok accepted with ⟨branch, member, isOutput⟩
  exact ⟨(output_isProjectionOf (sound branch member) formed isOutput).1,
    output_equivalent (sound branch member) (keeps branch member) formed isOutput⟩

/-- Without a branch that drops members, the order of the alternatives does not matter. -/
theorem union_permuted (perm : first.Perm second)
    (sound : ∀ branch ∈ first, branch.WellFormed)
    (keeps : ∀ branch ∈ first, branch.Everywhere KeepsMembers) (formed : value.WellFormed)
    {result : Json} (accepted : validate ⟨.union first, description⟩ value = .ok output)
    (acceptedToo : validate ⟨.union second, other⟩ value = .ok result) :
    output.sameValue result = true := by
  have soundToo : ∀ branch ∈ second, branch.WellFormed :=
    fun branch member => sound branch (perm.mem_iff.mpr member)
  have keepsToo : ∀ branch ∈ second, branch.Everywhere KeepsMembers :=
    fun branch member => keeps branch (perm.mem_iff.mpr member)
  rcases union_output_equivalent sound keeps formed accepted with ⟨formedOutput, same⟩
  rcases union_output_equivalent soundToo keepsToo formed acceptedToo with ⟨formedResult, sameToo⟩
  have equivalence := JsonNumber.sameValue_equivalence
  exact (equalBy_iff_equivalent equivalence formedOutput formedResult).mpr
    (same.trans equivalence sameToo.symm)

end Unions

/--
The algebra of compositions.  The branches of an intersection may be permuted,
repeated and grouped: this changes no verdict, and outputs in the order of
members only.  Its output joins the names that the branches leave.  Grouping
alternatives of a union next to each other, or repeating one later on, changes
neither its verdicts nor its outputs.  Permuting them changes no verdict, and
if no branch drops members, no value of an output.
-/
theorem compositions_rearranged (first second : List Validator) (description other : String)
    {value : Json} (formed : value.WellFormed) :
    (Relation.EqvGen BranchStep first second → first ≠ [] →
      (∀ branch ∈ first, branch.WellFormed) →
        accepts ⟨.intersection first, description⟩ value =
            accepts ⟨.intersection second, other⟩ value ∧
          ∀ output result, validate ⟨.intersection first, description⟩ value = .ok output →
            validate ⟨.intersection second, other⟩ value = .ok result →
              output.sameValue result = true) ∧
    (first ≠ [] → (∀ branch ∈ first, branch.WellFormed) →
      ∀ output, validate ⟨.intersection first, description⟩ value = .ok output →
        ∃ results, List.Forall₂ (fun branch result => branch.validate value = .ok result)
          first results ∧ JoinsNames results output) ∧
    (Relation.EqvGen AlternativeStep first second →
      accepts ⟨.union first, description⟩ value = accepts ⟨.union second, other⟩ value ∧
        ∀ output, validate ⟨.union first, description⟩ value = .ok output ↔
          validate ⟨.union second, other⟩ value = .ok output) ∧
    (first.Perm second →
      accepts ⟨.union first, description⟩ value = accepts ⟨.union second, other⟩ value ∧
        ((∀ branch ∈ first, branch.WellFormed) →
          (∀ branch ∈ first, branch.Everywhere KeepsMembers) →
            ∀ output result, validate ⟨.union first, description⟩ value = .ok output →
              validate ⟨.union second, other⟩ value = .ok result →
                output.sameValue result = true)) := by
  refine ⟨?_, ?_, ?_, ?_⟩
  · intro rearrangements nonempty sound
    exact intersection_rearranged rearrangements nonempty sound formed
  · intro nonempty sound output accepted
    exact intersection_joinsNames nonempty sound formed accepted
  · exact union_rearranged
  · intro perm
    refine ⟨accepts_union_permuted perm, ?_⟩
    intro sound keeps output result accepted acceptedToo
    exact union_permuted perm sound keeps formed accepted acceptedToo

/--
Two stripping objects that leave different members, repeated and grouped; and
a literal and its type, whose outputs differ in the form of a number.
-/
theorem compositions_rearranged_stripped :
    let onlyA : Validator := .ofKind (.object ⟨[("a", ⟨.ofKind .boolean, false⟩)], .strip⟩)
    let onlyB : Validator := .ofKind (.object ⟨[("b", ⟨.ofKind .null, false⟩)], .strip⟩)
    let group : Validator := .ofKind (.intersection [onlyA, onlyB])
    let choice : Validator := .ofKind (.union [onlyA, onlyB])
    let value : Json := .object [("a", .bool true), ("b", .null), ("c", .null)]
    let one : Validator := .literal (.ofNat 1)
    let number : Validator := .ofKind (.number {})
    let decimal : Json := .ofBinary64 (.ofInt 1)
    (∃ output result, group.validate value = .ok output ∧
      validate (.ofKind (.intersection [onlyB, group])) value = .ok result ∧
      output.sameValue result = true ∧
      JoinsNames [.object [("a", .bool true)], .object [("b", .null)]] output) ∧
    (∃ output, choice.validate value = .ok output ∧
      validate (.ofKind (.union [choice, onlyA])) value = .ok output) ∧
    ∃ output result, validate (.ofKind (.union [one, number])) decimal = .ok output ∧
      validate (.ofKind (.union [number, one])) decimal = .ok result ∧
      output.sameValue result = true ∧ output.sameForm result = false := by
  intro onlyA onlyB group choice value one number decimal
  have formed : value.WellFormed := by
    simp [value, Entries.distinct_cons, Entries.distinct_nil]
  have sound : ∀ branch ∈ [onlyA, onlyB], branch.WellFormed := by
    simp [onlyA, onlyB, WellFormed, ofKind, everywhere_iff, ValidatorKind.Sound,
      ValidatorKind.children, Entries.distinct_cons, Entries.distinct_nil]
  have regroupings : Relation.EqvGen BranchStep [onlyA, onlyB] [onlyB, group] := by
    have again : BranchStep [onlyA, onlyB] [onlyB, onlyA, onlyB] := .repeated (by simp)
    have grouped : BranchStep [onlyB, onlyA, onlyB] [onlyB, group] :=
      .nested [onlyB] [] "" (List.cons_ne_nil onlyA [onlyB])
    exact .trans _ _ _ (.rel _ _ again) (.rel _ _ grouped)
  have rearrangements : Relation.EqvGen AlternativeStep [onlyA, onlyB] [choice, onlyA] := by
    have earlier : onlyA ∈ [onlyA, onlyB] := List.mem_cons_self
    have again : AlternativeStep [onlyA, onlyB] [onlyA, onlyB, onlyA] := .repeated [] earlier
    have grouped : AlternativeStep [onlyA, onlyB, onlyA] [choice, onlyA] :=
      .nested [] [onlyA, onlyB] [onlyA] ""
    exact .trans _ _ _ (.rel _ _ again) (.rel _ _ grouped)
  have swapped : [one, number].Perm [number, one] := List.Perm.swap number one []
  refine ⟨?_, ?_, ?_⟩
  · rcases compositions_rearranged [onlyA, onlyB] [onlyB, group] "" "" formed with
      ⟨regrouped, joins, _, _⟩
    rcases regrouped regroupings (by simp) sound with ⟨sameVerdict, sameOutput⟩
    have accepted : group.validate value = .ok (.object [("a", .bool true), ("b", .null)]) := rfl
    rcases accepts_iff.mp (sameVerdict.symm.trans (accepts_iff.mpr ⟨_, accepted⟩)) with
      ⟨result, isResult⟩
    rcases joins (by simp) sound _ accepted with ⟨results, correspond, joined⟩
    have named : results = [.object [("a", .bool true)], .object [("b", .null)]] := by
      cases correspond with
      | cons first rest =>
          cases rest with
          | cons second none =>
              cases first
              cases second
              cases none
              rfl
    exact ⟨_, result, accepted, isResult, sameOutput _ _ accepted isResult, named ▸ joined⟩
  · rcases compositions_rearranged [onlyA, onlyB] [choice, onlyA] "" "" formed with
      ⟨_, _, rearranged, _⟩
    have accepted : choice.validate value = .ok (.object [("a", .bool true)]) := rfl
    exact ⟨_, accepted, ((rearranged rearrangements).2 _).mp accepted⟩
  · have formedNumber : decimal.WellFormed := wellFormed_number _
    rcases compositions_rearranged [one, number] [number, one] "" "" formedNumber with
      ⟨_, _, _, permuted⟩
    have isOne : one.validate decimal = .ok (.ofNat 1) :=
      validate_literal_ok.mpr ⟨by decide +kernel, rfl⟩
    have isNumber : number.validate decimal = .ok decimal := rfl
    have accepted : validate (.ofKind (.union [one, number])) decimal = .ok (.ofNat 1) := by
      rw [ofKind, validate_union_ok, List.findSome?_cons, isOne]
      rfl
    have acceptedToo : validate (.ofKind (.union [number, one])) decimal = .ok decimal := by
      rw [ofKind, validate_union_ok, List.findSome?_cons, isNumber]
      rfl
    have soundAlternatives : ∀ branch ∈ [one, number], branch.WellFormed := by
      simp [one, number, literal, WellFormed, ofKind, everywhere_iff, ValidatorKind.Sound,
        ValidatorKind.children, Json.ofNat]
    have keeps : ∀ branch ∈ [one, number], branch.Everywhere KeepsMembers := by
      simp [one, number, literal, ofKind, everywhere_iff, KeepsMembers, ValidatorKind.children]
    have same := (permuted swapped).2 soundAlternatives keeps _ _ accepted acceptedToo
    exact ⟨_, _, accepted, acceptedToo, same, by decide +kernel⟩

end ToolGate.Validator
