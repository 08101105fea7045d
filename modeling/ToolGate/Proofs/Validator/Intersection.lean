import ToolGate.Proofs.Validator.Projection
import ToolGate.Proofs.Validator.Rules
import ToolGate.Shape

/-!
# Intersections

The branches of an intersection give projections of one value, and these
always merge.  So an intersection accepts what all its branches accept.  What
the issues of a verdict can be about depends on the unions and intersections
in the tree alone, and the issue about outputs that do not fit together is
never reported, neither for the value itself nor for a part of it.
-/

namespace ToolGate

open Json

/-- A well-formed literal is a projection of every value it equals. -/
theorem ValidatorKind.Sound.literalProjects {kind : ValidatorKind} (sound : kind.Sound) :
    kind.LiteralProjects JsonNumber.sameValue := by
  cases kind with
  | literal expected =>
      intro value formed same
      exact ((equalBy_iff_projections JsonNumber.sameValue_equivalence sound formed).mp same).1
  | _ => trivial

/-- The constraint is one on values alone, and not one of a union or an intersection. -/
def IssueKind.IsElementary : IssueKind → Prop
  | .noMatchingBranch _ => False
  | .unmergeableIntersection => False
  | _ => True

theorem StringRules.isElementary_of_mem {rules : StringRules} {text : String} {kind : IssueKind}
    (violated : kind ∈ rules.violations text) : kind.IsElementary := by
  cases mem_violations_iff.mp violated <;> trivial

theorem NumberRules.isElementary_of_mem {rules : NumberRules} {x : Binary64} {kind : IssueKind}
    (violated : kind ∈ rules.violations x) : kind.IsElementary := by
  cases mem_violations_iff.mp violated <;> trivial

theorem isElementary_of_mem_sizeViolations {minItems maxItems : Option UInt64} {count : Nat}
    {kind : IssueKind} (violated : kind ∈ sizeViolations minItems maxItems count) :
    kind.IsElementary := by
  cases mem_sizeViolations_iff.mp violated <;> trivial

namespace Verdict

/-- All issues of the list are about constraints that are admitted. -/
def Confined (admitted : IssueKind → Prop) (found : List Issue) : Prop :=
  ∀ issue ∈ found, admitted issue.kind

section Confined

variable {admitted : IssueKind → Prop}

@[simp]
theorem confined_nil : Confined admitted [] := by
  simp [Confined]

@[simp]
theorem confined_append {first second : List Issue} :
    Confined admitted (first ++ second) ↔ Confined admitted first ∧ Confined admitted second := by
  simp [Confined, or_imp, forall_and]

@[simp]
theorem confined_singleton {issue : Issue} : Confined admitted [issue] ↔ admitted issue.kind := by
  simp [Confined]

@[simp]
theorem confined_atRoot {kinds : List IssueKind} :
    Confined admitted (atRoot kinds) ↔ ∀ kind ∈ kinds, admitted kind := by
  simp [Confined, atRoot]

/-- Issues below a value have the kinds that they have at the parts. -/
theorem confined_issuesBelow {parts : List (PathSegment × Verdict)} :
    Confined admitted (issuesBelow parts) ↔ ∀ part ∈ parts, Confined admitted (issues part.2) := by
  simp only [Confined, issuesBelow, List.mem_flatMap, List.mem_map]
  constructor
  · intro confined part inside issue member
    exact confined (issue.under [part.1]) ⟨part, inside, issue, member, rfl⟩
  · rintro confined _ ⟨part, inside, issue, member, rfl⟩
    exact confined part inside issue member

theorem confined_indexed {index : Nat} {verdicts : List Verdict} :
    Confined admitted (issuesBelow (indexed index verdicts)) ↔
      ∀ verdict ∈ verdicts, Confined admitted (issues verdict) :=
  confined_issuesBelow.trans
    (forall_mem_indexed fun verdict => Confined admitted (issues verdict))

theorem confined_keyed {verdicts : List (String × Verdict)} :
    Confined admitted (issuesBelow (keyed verdicts)) ↔
      ∀ part ∈ verdicts, Confined admitted (issues part.2) :=
  confined_issuesBelow.trans (forall_mem_keyed fun verdict => Confined admitted (issues verdict))

theorem confined_undeclaredIssues
    (elementary : ∀ kind : IssueKind, kind.IsElementary → admitted kind) (policy : UnknownKeys)
    (extra : List (String × Json)) :
    Confined admitted (undeclaredIssues policy extra) := by
  cases policy with
  | strict =>
      rw [undeclaredIssues, confined_atRoot, List.forall_mem_map]
      exact fun entry _ => elementary _ trivial
  | _ => exact confined_nil

/-- Merging adds at most the issue about outputs that do not merge. -/
theorem confined_merged (conflict : admitted .unmergeableIntersection) (value : Json)
    (outputs : List Json) : Confined admitted (issues (merged value outputs)) := by
  cases outputs with
  | nil => exact confined_nil
  | cons first others =>
      rw [merged]
      split
      · exact confined_nil
      · exact confined_singleton.mpr conflict

end Confined

/-- No issue of the list is about outputs that do not merge. -/
def ConflictFree (found : List Issue) : Prop :=
  ∀ issue ∈ found, issue.kind ≠ .unmergeableIntersection

end Verdict

namespace Validator

open Verdict

/-- An output for a value is a projection of the value. -/
theorem output_isProjectionOf {validator : Validator} (sound : validator.WellFormed)
    {value output : Json} (formed : value.WellFormed)
    (accepted : validator.validate value = .ok output) :
    output.WellFormed ∧ output.IsProjectionOf value :=
  output_projection JsonNumber.sameValue_equivalence sound
    (sound.imp fun _ => ValidatorKind.Sound.literalProjects) formed accepted

/-- The outputs of all branches are projections of the value. -/
theorem results_areProjectionsOf {branches : List Validator}
    (sound : ∀ branch ∈ branches, branch.WellFormed) {value : Json} (formed : value.WellFormed)
    {results : List Json}
    (correspond : List.Forall₂ (fun branch result => branch.validate value = .ok result)
      branches results) :
    ∀ result ∈ results, result.WellFormed ∧ result.IsProjectionOf value := by
  intro result member
  rcases correspond.exists_of_mem_right member with ⟨branch, listed, accepted⟩
  exact output_isProjectionOf (sound branch listed) formed accepted

/-- If every branch gives an output, the intersection does. -/
theorem intersection_ok_of_branches {branches : List Validator}
    (sound : ∀ branch ∈ branches, branch.WellFormed) (description : String) {value : Json}
    (formed : value.WellFormed)
    (accepted : ∀ branch ∈ branches, ∃ result, branch.validate value = .ok result) :
    ∃ output, validate ⟨.intersection branches, description⟩ value = .ok output := by
  rcases List.Forall₂.exists_of_forall accepted with ⟨results, correspond⟩
  rcases merged_of_branches JsonNumber.sameValue_equivalence formed (fun branch member _ accepted =>
      output_isProjectionOf (sound branch member) formed accepted) correspond with
    ⟨output, mergedEq, _⟩
  exact ⟨output, validate_intersection_ok.mpr ⟨results, correspond, mergedEq⟩⟩

/-- An intersection accepts what all its branches accept. -/
theorem accepts_intersection_iff {branches : List Validator}
    (sound : ∀ branch ∈ branches, branch.WellFormed) {description : String} {value : Json}
    (formed : value.WellFormed) :
    accepts ⟨.intersection branches, description⟩ value = true ↔
      ∀ branch ∈ branches, branch.accepts value = true := by
  simp only [accepts_iff]
  constructor
  · rintro ⟨output, accepted⟩ branch member
    rcases validate_intersection_ok.mp accepted with ⟨results, correspond, _⟩
    rcases correspond.exists_of_mem_left member with ⟨result, _, branchAccepted⟩
    exact ⟨result, branchAccepted⟩
  · intro accepted
    exact intersection_ok_of_branches sound description formed accepted

/--
All issues of a verdict are about admitted constraints if those on values
alone are admitted and so is what each union in the tree may report.  That
outputs do not merge is to be admitted, too, unless they always do.
-/
theorem confined_validate {admitted : IssueKind → Prop}
    (elementary : ∀ kind : IssueKind, kind.IsElementary → admitted kind) {validator : Validator}
    (unions : validator.Everywhere fun kind =>
      ∀ branches, kind = .union branches → admitted (.noMatchingBranch branches.length))
    {value : Json}
    (merging : admitted .unmergeableIntersection ∨ validator.WellFormed ∧ value.WellFormed) :
    Confined admitted (issues (validator.validate value)) := by
  have refused : ∀ expected (value : Json),
      Confined admitted (issues (refuseType expected value)) :=
    fun expected value => confined_singleton.mpr (elementary _ trivial)
  induction validator generalizing value with
  | string rules description =>
      rw [validate_eq_judge]
      cases value with
      | string text =>
          rw [ValidatorKind.judge, issues_settle, confined_atRoot]
          exact fun kind violated => elementary kind (StringRules.isElementary_of_mem violated)
      | _ => exact refused _ _
  | number rules description =>
      rw [validate_eq_judge]
      cases value with
      | number n =>
          rw [ValidatorKind.judge, issues_settle, confined_atRoot]
          exact fun kind violated => elementary kind (NumberRules.isElementary_of_mem violated)
      | _ => exact refused _ _
  | integer rules description =>
      rw [validate_eq_judge]
      cases value with
      | number n =>
          rw [ValidatorKind.judge, issues_settle, confined_atRoot, List.forall_mem_append]
          constructor
          · split
            · simp
            · simpa using elementary .notAnInteger trivial
          · exact fun kind violated => elementary kind (NumberRules.isElementary_of_mem violated)
      | _ => exact refused _ _
  | boolean description =>
      rw [validate_eq_judge]
      cases value with
      | bool truth => exact confined_nil
      | _ => exact refused _ _
  | null description =>
      rw [validate_eq_judge]
      cases value with
      | null => exact confined_nil
      | _ => exact refused _ _
  | unknown description =>
      rw [validate_eq_judge]
      exact confined_nil
  | literal expected description =>
      rw [validate_eq_judge]
      simp only [ValidatorKind.judge]
      split
      · exact confined_nil
      · exact confined_singleton.mpr (elementary _ trivial)
  | array items minItems maxItems description ih =>
      rw [validate_eq_judge]
      cases value with
      | array elements =>
          simp only [ValidatorKind.judge, issues_settle, confined_append, confined_atRoot]
          refine ⟨fun kind violated =>
            elementary kind (isElementary_of_mem_sizeViolations violated), ?_⟩
          cases items with
          | none => exact confined_nil
          | some items =>
              simp only [ValidatorKind.itemsIssues, confined_indexed, List.forall_mem_map]
              intro element member
              refine ih items rfl (unions.child List.mem_cons_self) (merging.imp_right ?_)
              rintro ⟨sound, formed⟩
              exact ⟨sound.child List.mem_cons_self, wellFormed_array.mp formed element member⟩
      | _ => exact refused _ _
  | tuple slots description ih =>
      rw [validate_eq_judge]
      cases value with
      | array elements =>
          by_cases arity : elements.length = slots.length
          · simp only [ValidatorKind.judge, arity, ne_eq, not_true_eq_false, ↓reduceIte,
              issues_settle, confined_indexed]
            intro verdict member
            rw [← List.map_uncurry_zip_eq_zipWith] at member
            rcases List.mem_map.mp member with ⟨⟨slot, element⟩, inside, rfl⟩
            have both := List.of_mem_zip inside
            refine ih slot both.1 (unions.child both.1) (merging.imp_right ?_)
            rintro ⟨sound, formed⟩
            exact ⟨sound.child both.1, wellFormed_array.mp formed element both.2⟩
          · simp only [ValidatorKind.judge, arity, ne_eq, not_false_eq_true, ↓reduceIte]
            exact confined_singleton.mpr (elementary _ trivial)
      | _ => exact refused _ _
  | object fields policy description ih =>
      rw [validate_eq_judge]
      cases value with
      | object entries =>
          simp only [ValidatorKind.judge, issues_settle, confined_append, confined_keyed]
          refine ⟨?_, confined_undeclaredIssues elementary _ _⟩
          intro part member
          rcases List.mem_filterMap.mp member with ⟨entry, inside, verdict⟩
          unfold ValidatorKind.fieldVerdict at verdict
          split at verdict
          · rename_i present found
            rw [← Option.some.inj verdict]
            refine ih entry inside (unions.field inside) (merging.imp_right ?_)
            rintro ⟨sound, formed⟩
            exact ⟨sound.field inside, formed.lookup found⟩
          · split at verdict
            · cases verdict
            · rw [← Option.some.inj verdict]
              exact confined_singleton.mpr (elementary _ trivial)
      | _ => exact refused _ _
  | record values description ih =>
      rw [validate_eq_judge]
      cases value with
      | object entries =>
          simp only [ValidatorKind.judge, issues_settle, confined_keyed, List.forall_mem_map]
          intro entry member
          refine ih (unions.child List.mem_cons_self) (merging.imp_right ?_)
          rintro ⟨sound, formed⟩
          exact ⟨sound.child List.mem_cons_self, (wellFormed_object.mp formed).2 entry member⟩
      | _ => exact refused _ _
  | union branches description ih =>
      rw [validate_eq_judge]
      simp only [ValidatorKind.judge]
      split
      · exact confined_nil
      · exact confined_singleton.mpr (unions.here branches rfl)
  | intersection branches description ih =>
      by_cases clean : ∀ branch ∈ branches, issues (branch.validate value) = []
      · rcases merging with conflict | ⟨sound, formed⟩
        · have silent : (branches.map fun branch => branch.validate value).flatMap issues = [] := by
            rwa [List.flatMap_eq_nil_iff, List.forall_mem_map]
          rw [validate_eq_judge]
          simp only [ValidatorKind.judge, silent, List.isEmpty_nil, ↓reduceIte]
          exact confined_merged conflict _ _
        · have soundBranches : ∀ branch ∈ branches, branch.WellFormed :=
            fun branch member => sound.child member
          rcases intersection_ok_of_branches soundBranches description formed
              (fun branch member => validate_issues_eq_nil_iff.mp (clean branch member)) with
            ⟨output, accepted⟩
          rw [accepted]
          exact confined_nil
      · push Not at clean
        rcases clean with ⟨branch, member, refused⟩
        rw [validate_intersection_error member refused]
        intro issue found
        rcases List.mem_flatMap.mp found with ⟨other, inside, found⟩
        refine ih other inside (unions.child inside) (merging.imp_right ?_) issue found
        rintro ⟨sound, formed⟩
        exact ⟨sound.child inside, formed⟩
  | nullable inner description ih =>
      rw [validate_eq_judge]
      cases value with
      | null => exact confined_nil
      | _ =>
          refine ih (unions.child List.mem_cons_self) (merging.imp_right ?_)
          rintro ⟨sound, formed⟩
          exact ⟨sound.child List.mem_cons_self, formed⟩

/-- No issue of a verdict is about outputs that do not merge. -/
theorem conflictFree_validate {validator : Validator} (sound : validator.WellFormed)
    {value : Json} (formed : value.WellFormed) :
    ConflictFree (issues (validator.validate value)) := by
  have elementary : ∀ kind : IssueKind, kind.IsElementary → kind ≠ .unmergeableIntersection := by
    rintro _ isElementary rfl
    exact isElementary
  refine confined_validate elementary (sound.imp ?_) (.inr ⟨sound, formed⟩)
  intro kind _ branches _ same
  cases same

/--
Intersections always merge.  An intersection accepts a value if all its
branches do, and no failure of any entry point is about outputs that do not
merge.  This rests on two laws: an output is a projection of its value, and
two projections of one value merge into a projection of it.
-/
theorem intersections_merge (validator : Validator) (sound : validator.WellFormed) (value : Json)
    (formed : value.WellFormed) :
    (∀ branches, validator.kind = .intersection branches →
      (validator.accepts value = true ↔ ∀ branch ∈ branches, branch.accepts value = true)) ∧
    (∀ found, validator.validate value = .error found ∨
        validator.parse (some value) = .error found ∨ validator.parse none = .error found ∨
        (∃ shape, validator.kind = .object shape ∧ shape.validate value = .error found) →
      ∀ issue ∈ found, issue.kind ≠ .unmergeableIntersection) ∧
    (∀ output, validator.validate value = .ok output →
      output.WellFormed ∧ output.IsProjectionOf value) ∧
    (∀ left right : Json, left.WellFormed → right.WellFormed →
      left.IsProjectionOf value → right.IsProjectionOf value →
        ∃ merged, left.merge? right = some merged ∧ merged.WellFormed ∧
          merged.IsProjectionOf value) := by
  have clean : ∀ found, validator.validate value = .error found → ConflictFree found := by
    intro found refused
    have free := conflictFree_validate sound formed
    rwa [refused] at free
  refine ⟨?_, ?_, ?_, ?_⟩
  · intro branches isIntersection
    rcases validator with ⟨kind, description⟩
    cases isIntersection
    exact accepts_intersection_iff (fun branch member => sound.child member) formed
  · rintro found (refused | refused | absent | ⟨shape, isObject, refused⟩)
    · exact clean found refused
    · exact clean found refused
    · rw [parse, validateAbsent] at absent
      split at absent
      · cases absent
      · cases absent
        simp
    · rcases validator with ⟨kind, description⟩
      cases isObject
      exact clean found refused
  · intro output accepted
    exact output_isProjectionOf sound formed accepted
  · intro left right formedLeft formedRight leftPart rightPart
    rcases mergeable JsonNumber.sameValue_equivalence right left value formedLeft formedRight
        formed leftPart rightPart with
      ⟨merged, mergedEq, between⟩
    exact ⟨merged, mergedEq, between.wellFormed, between.whole⟩

/-- A stripping object and a record agree on an object, and neither accepts `null`. -/
theorem intersections_merge_strip_record :
    let stripped : Validator := .ofKind (.object ⟨[("a", ⟨.ofKind .boolean, false⟩)], .strip⟩)
    let whole : Validator := .ofKind (.intersection [stripped, .ofKind (.record .unknown)])
    let value : Json := .object [("a", .bool true), ("b", .null)]
    (∃ output, whole.validate value = .ok output ∧ output.IsProjectionOf value) ∧
      (∃ found, whole.validate .null = .error found ∧
        ∀ issue ∈ found, issue.kind ≠ .unmergeableIntersection) ∧
      ∃ merged, Json.merge? (.object [("a", .bool true)]) value = some merged ∧
        merged.WellFormed ∧ merged.IsProjectionOf value := by
  intro stripped whole value
  have sound : whole.WellFormed := by
    simp [whole, stripped, WellFormed, ofKind, everywhere_iff, ValidatorKind.Sound,
      ValidatorKind.children, unknown, Entries.distinct_nil]
  have formed : value.WellFormed := by
    simp [value, Entries.distinct_nil]
  rcases intersections_merge whole sound value formed with ⟨accepted, _, projects, merge⟩
  rcases intersections_merge whole sound .null wellFormed_null with ⟨_, clean, _, _⟩
  refine ⟨?_, ?_, ?_⟩
  · have accepts : whole.accepts value = true := (accepted _ rfl).mpr (by decide)
    rcases accepts_iff.mp accepts with ⟨output, isOutput⟩
    exact ⟨output, isOutput, (projects output isOutput).2⟩
  · cases refused : whole.validate .null with
    | ok output => exact absurd (accepts_iff.mpr ⟨output, refused⟩) (by decide)
    | error found => exact ⟨found, rfl, clean found (.inl refused)⟩
  · apply merge
    · simp [Entries.distinct_nil]
    · exact formed
    · simp [value, Entries.Matched]
    · exact projectionBy_refl JsonNumber.sameValue_equivalence formed

end Validator

end ToolGate
