import ToolGate.Proofs.Validator.Intersection

/-!
# The issues of a value

A value has the issues of its own, and below each of its parts the issues of
the part.  For each kind that looks into values this module says which parts
these are: elements at their indices, members under their keys, and for an
intersection the value itself once for every branch.  A union is the only
kind that says nothing about what its branches found.
-/

namespace ToolGate

namespace Verdict

theorem issuesBelow_indexed_map {α : Type} (verdictOf : α → Verdict) (items : List α) :
    issuesBelow (indexed 0 (items.map verdictOf)) =
      items.zipIdx.flatMap fun part =>
        (issues (verdictOf part.1)).map (Issue.under [.index part.2]) := by
  simp only [issuesBelow, indexed, List.zipIdx_map, List.flatMap_map, Prod.map_fst, Prod.map_snd,
    id_eq]

theorem issuesBelow_keyed_map {α : Type} (verdictOf : α → Verdict) (items : List (String × α)) :
    issuesBelow (keyed (items.map fun item => (item.1, verdictOf item.2))) =
      items.flatMap fun part =>
        (issues (verdictOf part.2)).map (Issue.under [.key part.1]) := by
  simp only [issuesBelow, keyed, List.map_map, List.flatMap_map, Function.comp_apply]

end Verdict

namespace ValidatorKind

open Verdict Validator

/-- The issues that a field has with the members of an object. -/
def fieldIssues (entries : List (String × Json)) (entry : String × Field) : List Issue :=
  match entries.lookup entry.1 with
  | some member =>
      (issues (entry.2.validator.validate member)).map (Issue.under [.key entry.1])
  | none =>
      if entry.2.optional || entry.2.validator.allowsAbsent then []
      else [⟨FieldPath.root.key entry.1, .missingRequired⟩]

theorem issuesBelow_fieldVerdicts (entries : List (String × Json))
    (fields : List (String × Field)) :
    issuesBelow (keyed (fields.filterMap (fieldVerdict validate entries))) =
      fields.flatMap (fieldIssues entries) := by
  induction fields with
  | nil => rfl
  | cons entry fields ih =>
      rw [List.filterMap_cons, List.flatMap_cons, ← ih]
      unfold fieldVerdict fieldIssues
      cases entries.lookup entry.1 with
      | some member => rfl
      | none =>
          by_cases admitted : (entry.2.optional || entry.2.validator.allowsAbsent) = true
          · simp only [admitted, ↓reduceIte, List.nil_append]
          · simp only [admitted, ↓reduceIte, Bool.false_eq_true]
            rfl

end ValidatorKind

namespace Validator

open Verdict ValidatorKind

variable {description : String} {value : Json}

theorem validate_array_issues {items : Option Validator} {minItems maxItems : Option UInt64}
    {elements : List Json} :
    issues (validate ⟨.array ⟨items, minItems, maxItems⟩, description⟩ (.array elements)) =
      atRoot (sizeViolations minItems maxItems elements.length) ++
        items.toList.flatMap fun child => elements.zipIdx.flatMap fun part =>
          (issues (child.validate part.1)).map (Issue.under [.index part.2]) := by
  rw [validate_eq_judge]
  cases items with
  | none => simp [judge, itemsIssues]
  | some child => simp [judge, itemsIssues, issuesBelow_indexed_map]

theorem validate_tuple_issues {slots : List Validator} {elements : List Json}
    (arity : elements.length = slots.length) :
    issues (validate ⟨.tuple slots, description⟩ (.array elements)) =
      (slots.zip elements).zipIdx.flatMap fun part =>
        (issues (part.1.1.validate part.1.2)).map (Issue.under [.index part.2]) := by
  have zipped : slots.zipWith validate elements =
      (slots.zip elements).map fun part => part.1.validate part.2 := by
    rw [List.map_zip_eq_zipWith]
    rfl
  rw [validate_eq_judge]
  simp only [judge, arity, ne_eq, not_true_eq_false, ↓reduceIte, issues_settle, zipped,
    issuesBelow_indexed_map]

/-- The verdict on an object: its issues, or its output if there are none. -/
theorem validate_object_eq {fields : List (String × Field)} {policy : UnknownKeys}
    {entries : List (String × Json)} :
    validate ⟨.object ⟨fields, policy⟩, description⟩ (.object entries) =
      settle (fields.flatMap (fieldIssues entries) ++
          undeclaredIssues policy (entries.filter fun entry => !Entries.contains fields entry.1))
        (.object (objectOutput fields policy entries)) := by
  rw [validate_eq_judge]
  simp only [judge, issuesBelow_fieldVerdicts, objectOutput]

theorem validate_object_issues {fields : List (String × Field)} {policy : UnknownKeys}
    {entries : List (String × Json)} :
    issues (validate ⟨.object ⟨fields, policy⟩, description⟩ (.object entries)) =
      fields.flatMap (fieldIssues entries) ++
        undeclaredIssues policy (entries.filter fun entry => !Entries.contains fields entry.1) := by
  rw [validate_object_eq, issues_settle]

theorem validate_record_issues {values : Validator} {entries : List (String × Json)} :
    issues (validate ⟨.record values, description⟩ (.object entries)) =
      entries.flatMap fun entry =>
        (issues (values.validate entry.2)).map (Issue.under [.key entry.1]) := by
  rw [validate_eq_judge]
  simp only [judge, issues_settle, issuesBelow_keyed_map]

/-- A union has one issue of its own if every branch has some. -/
theorem validate_union_issues {branches : List Validator}
    (refused : ∀ branch ∈ branches, issues (branch.validate value) ≠ []) :
    issues (validate ⟨.union branches, description⟩ value) =
      [⟨.root, .noMatchingBranch branches.length⟩] := by
  have none : branches.findSome? (fun branch => output? (branch.validate value)) = none := by
    rw [List.findSome?_eq_none_iff]
    intro branch member
    have nonempty := refused branch member
    cases verdict : branch.validate value with
    | ok output => simp [verdict] at nonempty
    | error found => rfl
  rw [validate_eq_judge]
  simp only [judge, none, issues_refuse]

/-- A union has no issue if some branch has none. -/
theorem validate_union_clean {branches : List Validator} {branch : Validator}
    (member : branch ∈ branches) (clean : issues (branch.validate value) = []) :
    issues (validate ⟨.union branches, description⟩ value) = [] := by
  apply validate_issues_eq_nil_iff.mpr
  apply accepts_iff.mp
  apply accepts_union_iff.mpr
  exact ⟨branch, member, accepts_iff.mpr (validate_issues_eq_nil_iff.mp clean)⟩

/-- An intersection has the issues of all its branches. -/
theorem validate_intersection_issues {branches : List Validator}
    (sound : ∀ branch ∈ branches, branch.WellFormed) (formed : value.WellFormed) :
    issues (validate ⟨.intersection branches, description⟩ value) =
      branches.flatMap fun branch => issues (branch.validate value) := by
  by_cases clean : ∀ branch ∈ branches, issues (branch.validate value) = []
  · rcases intersection_ok_of_branches sound description formed
        (fun branch member => validate_issues_eq_nil_iff.mp (clean branch member)) with
      ⟨output, accepted⟩
    rw [accepted, List.flatMap_eq_nil_iff.mpr clean, issues_ok]
  · push Not at clean
    rcases clean with ⟨branch, member, refused⟩
    rw [validate_intersection_error member refused, issues_error]

theorem validate_nullable_issues {inner : Validator} (present : value ≠ .null) :
    issues (validate ⟨.nullable inner, description⟩ value) = issues (inner.validate value) := by
  rw [validate_eq_judge]
  cases value with
  | null => exact absurd rfl present
  | _ => rfl

end Validator

end ToolGate
