import ToolGate.Proofs.Validator.Structure
import ToolGate.Proofs.Validator.Verdict

/-!
# The frame of a check

A check adds to the collected issues the issues of the verdict on the value,
each below the path of the value, and neither the path nor the issues before
have any influence on the output.  So the verdict on a value is the verdict
of its kind on the verdicts of the validators inside, an equation from which
all further properties of checking are derived.
-/

namespace ToolGate

theorem Issue.under_root (issue : Issue) : issue.under .root = issue := rfl

theorem Issue.under_under (outer middle : FieldPath) (issue : Issue) :
    (issue.under middle).under outer = issue.under (outer ++ middle) := by
  simp [Issue.under, List.append_assoc]

namespace Verdict

open Checked

/-- The issues before, and those found below a path. -/
def extend (before : Array Issue) (path : FieldPath) (found : List Issue) : Array Issue :=
  before ++ (found.map (Issue.under path)).toArray

/-- What a check gives that follows a verdict. -/
def record (verdict : Verdict) (path : FieldPath) (before : Array Issue) : Checked :=
  (output? verdict, extend before path (issues verdict))

/-- A check adds the issues of a verdict and gives its output, wherever the value is. -/
def Follows (check : Checker) (verdictOf : Json → Verdict) : Prop :=
  ∀ value path before, check value path before = record (verdictOf value) path before

@[simp]
theorem extend_nil (before : Array Issue) (path : FieldPath) : extend before path [] = before := by
  simp [extend]

theorem extend_extend (before : Array Issue) (path : FieldPath) (first second : List Issue) :
    extend (extend before path first) path second = extend before path (first ++ second) := by
  simp [extend]

theorem extend_step (before : Array Issue) (path : FieldPath) (step : PathSegment)
    (found : List Issue) :
    extend before (path ++ [step]) found = extend before path (found.map (Issue.under [step])) := by
  simp [extend, Issue.under_under, Function.comp_def]

theorem size_extend (before : Array Issue) (path : FieldPath) (found : List Issue) :
    (extend before path found).size = before.size ↔ found = [] := by
  simp [extend]

@[simp]
theorem record_ok (output : Json) (path : FieldPath) (before : Array Issue) :
    record (.ok output) path before = (some output, before) := by
  simp [record]

@[simp]
theorem record_refuse (kind : IssueKind) (path : FieldPath) (before : Array Issue) :
    record (refuse kind) path before = Checked.refuse before path kind := by
  simp [record, refuse, Checked.refuse, extend, Issue.under, FieldPath.root]

@[simp]
theorem record_refuseType (expected : String) (value : Json) (path : FieldPath)
    (before : Array Issue) :
    record (refuseType expected value) path before =
      Checked.refuseType expected value path before := by
  simp [refuseType, Checked.refuseType]

theorem report_eq (before : Array Issue) (path : FieldPath) (kinds : List IssueKind) :
    report before path kinds = extend before path (atRoot kinds) := by
  simp [report, extend, atRoot, Function.comp_def, Issue.under, FieldPath.root]

theorem judge_eq (violations : List IssueKind) (value : Json) (path : FieldPath)
    (before : Array Issue) :
    Checked.judge violations value path before =
      record (settle (atRoot violations) value) path before := by
  cases violations with
  | nil => simp [Checked.judge, settle, atRoot]
  | cons violation rest =>
      simp [Checked.judge, settle, atRoot, record, report_eq]

/-- To settle by the number of issues is to settle by the issues found. -/
theorem settle_eq (before : Array Issue) (path : FieldPath) (found : List Issue) (output : Json) :
    Checked.settle before (extend before path found) output =
      record (settle found output) path before := by
  simp only [Checked.settle, size_extend]
  cases found <;> simp [settle, record]

theorem elements_eq {check : Checker} {verdictOf : Json → Verdict}
    (follows : Follows check verdictOf) (path : FieldPath) (index : Nat) (list : List Json)
    (before : Array Issue) :
    elements check path index list before =
      (outputs (list.map verdictOf),
        extend before path (issuesBelow (indexed index (list.map verdictOf)))) := by
  induction list generalizing index before with
  | nil => simp [elements]
  | cons element rest ih =>
      simp only [elements, follows element, record, ih, FieldPath.index, extend_step,
        extend_extend, List.map_cons, outputs_cons, indexed_cons, issuesBelow_cons]

theorem members_eq {check : Checker} {verdictOf : Json → Verdict}
    (follows : Follows check verdictOf) (path : FieldPath) (entries : List (String × Json))
    (before : Array Issue) :
    members check path entries before =
      (keyedOutputs (entries.map fun entry => (entry.1, verdictOf entry.2)),
        extend before path
          (issuesBelow (keyed (entries.map fun entry => (entry.1, verdictOf entry.2))))) := by
  induction entries generalizing before with
  | nil => simp [members]
  | cons entry rest ih =>
      simp only [members, follows entry.2, record, ih, FieldPath.key, extend_step,
        extend_extend, List.map_cons, keyedOutputs_cons, keyed_cons, issuesBelow_cons]

theorem undeclared_eq (policy : UnknownKeys) (path : FieldPath) (extra : List (String × Json))
    (before : Array Issue) :
    undeclared policy path extra before =
      (undeclaredOutput policy extra, extend before path (undeclaredIssues policy extra)) := by
  cases policy <;> simp [undeclared, undeclaredOutput, undeclaredIssues, report_eq]

theorem mergeOutputs_eq (value : Json) (path : FieldPath) (outputs : List Json)
    (before : Array Issue) :
    mergeOutputs value path outputs before = record (merged value outputs) path before := by
  cases outputs with
  | nil => simp [mergeOutputs, merged]
  | cons first others =>
      cases result : Json.mergeAll? first others <;> simp [mergeOutputs, merged, result]

/-- A check at the root that starts without issues gives the verdict itself. -/
theorem record_root (verdict : Verdict) :
    record verdict .root #[] = (output? verdict, (issues verdict).toArray) := by
  have unchanged : (issues verdict).map (Issue.under .root) = issues verdict :=
    List.map_id'' Issue.under_root (issues verdict)
  rw [record, extend, unchanged, Array.empty_append]

/-- A verdict can be read off a check at the root that starts without issues. -/
theorem verdict_record {verdict : Verdict} (proper : verdict ≠ .error []) :
    Validator.verdict (record verdict .root #[]) = verdict := by
  rw [record_root]
  cases verdict with
  | ok output => simp [Validator.verdict]
  | error found => simp [Validator.verdict]

/-- Proper verdicts without issues all have an output. -/
theorem length_outputs {verdicts : List Verdict}
    (proper : ∀ verdict ∈ verdicts, verdict ≠ .error []) (clean : verdicts.flatMap issues = []) :
    (outputs verdicts).length = verdicts.length := by
  induction verdicts with
  | nil => rfl
  | cons verdict rest ih =>
      rw [List.forall_mem_cons] at proper
      rw [List.flatMap_cons, List.append_eq_nil_iff] at clean
      have tail := ih proper.2 clean.2
      cases verdict with
      | ok output => simp [tail]
      | error found => exact absurd (congrArg Except.error clean.1) proper.1

end Verdict

namespace Validator

open Checked Verdict

/-- Checks follow the verdict of the validator, and no verdict is negative without an issue. -/
structure Framed (validator : Validator) : Prop where
  /-- The path and the issues before are a frame around the verdict. -/
  follows : Follows validator.check validator.validate
  /-- A negative verdict has an issue. -/
  proper : ∀ value, validator.validate value ≠ .error []

theorem checkItems_eq {items : Option Validator} (framed : ∀ item ∈ items, Framed item)
    (path : FieldPath) (list : List Json) (before : Array Issue) :
    checkItems items path list before =
      (ValidatorKind.itemsOutputs validate items list,
        extend before path (ValidatorKind.itemsIssues validate items list)) := by
  cases items with
  | none => simp [checkItems, ValidatorKind.itemsOutputs, ValidatorKind.itemsIssues]
  | some items =>
      have follows := (framed items rfl).follows
      simp only [checkItems, elements_eq follows, ValidatorKind.itemsOutputs,
        ValidatorKind.itemsIssues]

theorem checkSlots_eq {slots : List Validator} (framed : ∀ slot ∈ slots, Framed slot)
    (path : FieldPath) (index : Nat) (list : List Json) (before : Array Issue) :
    checkSlots slots path index list before =
      (outputs (slots.zipWith validate list),
        extend before path (issuesBelow (indexed index (slots.zipWith validate list)))) := by
  induction slots generalizing index list before with
  | nil => simp [checkSlots]
  | cons slot slots ih =>
      rw [List.forall_mem_cons] at framed
      cases list with
      | nil => simp [checkSlots]
      | cons element rest =>
          simp only [checkSlots, framed.1.follows element, record, ih framed.2, FieldPath.index,
            extend_step, extend_extend, List.zipWith_cons_cons, outputs_cons, indexed_cons,
            issuesBelow_cons]

theorem checkFields_eq {fields : List (String × Field)}
    (framed : ∀ entry ∈ fields, Framed entry.2.validator) (path : FieldPath)
    (entries : List (String × Json)) (before : Array Issue) :
    checkFields fields path entries before =
      (keyedOutputs (fields.filterMap (ValidatorKind.fieldVerdict validate entries)),
        extend before path (issuesBelow (keyed
          (fields.filterMap (ValidatorKind.fieldVerdict validate entries))))) := by
  induction fields generalizing before with
  | nil => simp [checkFields]
  | cons entry fields ih =>
      rcases entry with ⟨name, ⟨validator, optional⟩⟩
      rw [List.forall_mem_cons] at framed
      cases found : entries.lookup name with
      | some value =>
          simp only [checkFields, found, framed.1.follows value, record, ih framed.2,
            FieldPath.key, extend_step, extend_extend, List.filterMap_cons,
            ValidatorKind.fieldVerdict, keyedOutputs_cons, keyed_cons, issuesBelow_cons]
      | none =>
          by_cases admitted : (optional || validator.allowsAbsent) = true
          · simp only [checkFields, found, admitted, ih framed.2, List.filterMap_cons,
              ValidatorKind.fieldVerdict, ↓reduceIte]
          · have missing : before.push ⟨path.key name, .missingRequired⟩ =
                extend before path ([⟨.root, .missingRequired⟩].map (Issue.under [.key name])) := by
              simp [extend, Issue.under, FieldPath.key, FieldPath.root]
            simp only [checkFields, found, admitted, missing, ih framed.2, List.filterMap_cons,
              ValidatorKind.fieldVerdict, extend_extend, keyedOutputs_cons, keyed_cons,
              issuesBelow_cons, Verdict.refuse, issues_error, output?_error, Option.toList_none,
              List.map_nil, List.nil_append, Bool.false_eq_true, ↓reduceIte]

theorem firstAccepted_eq {branches : List Validator}
    (framed : ∀ branch ∈ branches, Framed branch) (value : Json) (path : FieldPath) :
    firstAccepted branches value path =
      branches.findSome? fun branch => output? (branch.validate value) := by
  induction branches with
  | nil => simp [firstAccepted]
  | cons branch branches ih =>
      rw [List.forall_mem_cons] at framed
      rw [firstAccepted, framed.1.follows value, List.findSome?_cons]
      cases result : branch.validate value <;> simp [record, ih framed.2]

theorem checkBranches_eq {branches : List Validator}
    (framed : ∀ branch ∈ branches, Framed branch) (value : Json) (path : FieldPath)
    (before : Array Issue) :
    checkBranches branches value path before =
      (outputs (branches.map fun branch => branch.validate value),
        extend before path
          ((branches.map fun branch => branch.validate value).flatMap issues)) := by
  induction branches generalizing before with
  | nil => simp [checkBranches]
  | cons branch branches ih =>
      rw [List.forall_mem_cons] at framed
      simp only [checkBranches, framed.1.follows value, record, ih framed.2, extend_extend,
        List.map_cons, outputs_cons, List.flatMap_cons]

/-- The check of a kind follows the verdict made from the verdicts of its children. -/
theorem checkKind_follows {kind : ValidatorKind} (framed : ∀ child ∈ kind.children, Framed child) :
    Follows (checkKind kind) (kind.judge validate) := by
  intro value path before
  cases kind with
  | string rules =>
      cases value <;>
        simp [checkKind, ValidatorKind.judge, judge_eq]
  | number rules =>
      cases value <;>
        simp [checkKind, ValidatorKind.judge, judge_eq]
  | integer rules =>
      cases value <;>
        simp [checkKind, ValidatorKind.judge, judge_eq]
  | boolean =>
      cases value <;>
        simp [checkKind, ValidatorKind.judge]
  | null =>
      cases value <;>
        simp [checkKind, ValidatorKind.judge]
  | unknown => simp [checkKind, ValidatorKind.judge]
  | literal expected =>
      by_cases same : expected.sameValue value = true <;>
        simp [checkKind, ValidatorKind.judge, same]
  | array rules =>
      rcases rules with ⟨items, minItems, maxItems⟩
      have framedItems : ∀ item ∈ items, Framed item :=
        fun item member => framed item (Option.mem_toList.mpr member)
      cases value with
      | array elements =>
          simp only [checkKind, ValidatorKind.judge, report_eq, checkItems_eq framedItems,
            extend_extend, settle_eq]
      | _ => simp [checkKind, ValidatorKind.judge]
  | tuple slots =>
      have framedSlots : ∀ slot ∈ slots, Framed slot := framed
      cases value with
      | array elements =>
          by_cases arity : elements.length = slots.length
          · simp only [checkKind, ValidatorKind.judge, arity, checkSlots_eq framedSlots, settle_eq,
              ne_eq, not_true_eq_false, ↓reduceIte]
          · simp [checkKind, ValidatorKind.judge, arity]
      | _ => simp [checkKind, ValidatorKind.judge]
  | object shape =>
      rcases shape with ⟨fields, policy⟩
      have framedFields : ∀ entry ∈ fields, Framed entry.2.validator :=
        fun entry member => framed _ (ValidatorKind.field_mem_children member)
      cases value with
      | object entries =>
          simp only [checkKind, ValidatorKind.judge, checkFields_eq framedFields, undeclared_eq,
            extend_extend, settle_eq]
      | _ => simp [checkKind, ValidatorKind.judge]
  | record values =>
      have follows := (framed values List.mem_cons_self).follows
      cases value with
      | object entries =>
          simp only [checkKind, ValidatorKind.judge, members_eq follows, settle_eq]
      | _ => simp [checkKind, ValidatorKind.judge]
  | union branches =>
      have framedBranches : ∀ branch ∈ branches, Framed branch := framed
      simp only [checkKind, ValidatorKind.judge, firstAccepted_eq framedBranches]
      cases branches.findSome? fun branch => output? (branch.validate value) <;> simp
  | intersection branches =>
      have framedBranches : ∀ branch ∈ branches, Framed branch := framed
      simp only [checkKind, ValidatorKind.judge, checkBranches_eq framedBranches, size_extend]
      by_cases clean : (branches.map fun branch => branch.validate value).flatMap issues = []
      · -- without issues every branch has an output, so the second test says nothing more
        have proper : ∀ verdict ∈ branches.map fun branch => branch.validate value,
            verdict ≠ .error [] := by
          intro verdict member
          rcases List.mem_map.mp member with ⟨branch, inside, rfl⟩
          exact (framed branch inside).proper value
        have complete := length_outputs proper clean
        rw [List.length_map] at complete
        simp only [clean, complete, extend_nil, and_self, ↓reduceIte, List.isEmpty_nil,
          mergeOutputs_eq]
      · have negative : ((branches.map fun branch => branch.validate value).flatMap
            issues).isEmpty = false := by
          simpa using clean
        simp only [clean, negative, false_and, ↓reduceIte, Bool.false_eq_true, record,
          issues_error, output?_error]
  | nullable inner =>
      have follows := (framed inner List.mem_cons_self).follows
      cases value <;> simp [checkKind, ValidatorKind.judge, follows _]

/-- No kind refuses a value without an issue. -/
theorem judge_proper {kind : ValidatorKind} (framed : ∀ child ∈ kind.children, Framed child)
    (value : Json) : kind.judge validate value ≠ .error [] := by
  cases kind with
  | string rules => cases value <;> simp [ValidatorKind.judge]
  | number rules => cases value <;> simp [ValidatorKind.judge]
  | integer rules => cases value <;> simp [ValidatorKind.judge]
  | boolean => cases value <;> simp [ValidatorKind.judge]
  | null => cases value <;> simp [ValidatorKind.judge]
  | unknown => simp [ValidatorKind.judge]
  | literal expected =>
      by_cases same : expected.sameValue value = true <;> simp [ValidatorKind.judge, same]
  | array rules =>
      rcases rules with ⟨items, minItems, maxItems⟩
      cases value <;> simp [ValidatorKind.judge]
  | tuple slots =>
      cases value with
      | array elements =>
          by_cases arity : elements.length = slots.length <;> simp [ValidatorKind.judge, arity]
      | _ => simp [ValidatorKind.judge]
  | object shape =>
      rcases shape with ⟨fields, policy⟩
      cases value <;> simp [ValidatorKind.judge]
  | record values => cases value <;> simp [ValidatorKind.judge]
  | union branches =>
      simp only [ValidatorKind.judge]
      cases branches.findSome? fun branch => output? (branch.validate value) <;> simp
  | intersection branches =>
      simp only [ValidatorKind.judge]
      cases found : (branches.map fun branch => branch.validate value).flatMap issues with
      | nil => simp
      | cons issue rest => simp
  | nullable inner =>
      have proper := (framed inner List.mem_cons_self).proper
      cases value <;> simp [ValidatorKind.judge, proper]

/-- Every check has the frame property. -/
theorem framed (validator : Validator) : Framed validator := by
  induction validator using inductionOnChildren with
  | step kind description ih =>
      have follows := checkKind_follows ih
      have proper := judge_proper ih
      have unfolded : ∀ value, validate ⟨kind, description⟩ value = kind.judge validate value := by
        intro value
        rw [validate, check, follows, verdict_record (proper value)]
      constructor
      · intro value path before
        rw [check, follows, unfolded]
      · intro value
        rw [unfolded]
        exact proper value

/-- The verdict of a validator is made from the verdicts of the validators inside it. -/
theorem validate_eq_judge (kind : ValidatorKind) (description : String) (value : Json) :
    validate ⟨kind, description⟩ value = kind.judge validate value := by
  have follows := checkKind_follows fun child (_ : child ∈ kind.children) => framed child
  have proper := judge_proper (fun child (_ : child ∈ kind.children) => framed child) value
  rw [validate, check, follows, verdict_record proper]

/-- The description has no influence on the verdict. -/
theorem validate_congr_description (kind : ValidatorKind) (first second : String) (value : Json) :
    validate ⟨kind, first⟩ value = validate ⟨kind, second⟩ value := by
  rw [validate_eq_judge, validate_eq_judge]

/-- A check gives the output of the verdict and adds its issues below the path of the value. -/
theorem check_eq_record (validator : Validator) (value : Json) (path : FieldPath)
    (before : Array Issue) :
    validator.check value path before = record (validator.validate value) path before :=
  (framed validator).follows value path before

/-- A negative verdict has an issue. -/
theorem validate_ne_error_nil (validator : Validator) (value : Json) :
    validator.validate value ≠ .error [] :=
  (framed validator).proper value

/--
The frame law of checking.  The issues collected before stay in front as they
are.  Behind them come the issues that the value has at the root when nothing
was collected, each with the path put in front of its own, and the output is
the one at the root.
-/
theorem check_framed (validator : Validator) (value : Json) (path : FieldPath)
    (before : Array Issue) :
    let alone := validator.check value .root #[]
    validator.check value path before = (alone.1, before ++ alone.2.map (Issue.under path)) := by
  intro alone
  have atRoot : alone =
      (output? (validator.validate value), (issues (validator.validate value)).toArray) :=
    (check_eq_record validator value .root #[]).trans (record_root _)
  rw [atRoot, check_eq_record, record, extend, List.map_toArray]

end Validator

end ToolGate
