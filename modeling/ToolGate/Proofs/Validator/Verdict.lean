import ToolGate.Proofs.Correspondence
import ToolGate.Validator.Check

/-!
# Verdicts without paths and collected issues

A check takes the path of a value and the issues collected so far, and
threads both through its parts.  The verdict on a value is what a check says
at the root with nothing collected before.  This module states the verdict
of each kind as a function of the verdicts on the parts of the value: the
issues of a part are found one step below, and the output counts only if
there is no issue.
-/

namespace ToolGate

/-- The output for a value, or the issues found in it. -/
abbrev Verdict := Except (List Issue) Json

namespace Verdict

/-- The issues found. -/
def issues : Verdict → List Issue
  | .ok _ => []
  | .error found => found

/-- The output, if no issue was found. -/
def output? : Verdict → Option Json
  | .ok output => some output
  | .error _ => none

/-- The output counts only if nothing was found. -/
def settle (found : List Issue) (output : Json) : Verdict :=
  if found.isEmpty then .ok output else .error found

/-- A value is refused for one reason of its own. -/
def refuse (kind : IssueKind) : Verdict :=
  .error [⟨.root, kind⟩]

/-- A value is refused because of its type. -/
def refuseType (expected : String) (value : Json) : Verdict :=
  refuse (.invalidType expected value.typeName)

/-- Constraints that a value itself violates. -/
def atRoot (kinds : List IssueKind) : List Issue :=
  kinds.map (Issue.mk .root)

/-- Verdicts on parts at successive indices. -/
def indexed (index : Nat) (verdicts : List Verdict) : List (PathSegment × Verdict) :=
  (verdicts.zipIdx index).map fun part => (.index part.2, part.1)

/-- Verdicts on parts under keys. -/
def keyed (verdicts : List (String × Verdict)) : List (PathSegment × Verdict) :=
  verdicts.map fun part => (.key part.1, part.2)

/-- The issues of parts, each found one step below. -/
def issuesBelow (parts : List (PathSegment × Verdict)) : List Issue :=
  parts.flatMap fun part => (issues part.2).map (Issue.under [part.1])

/-- The outputs of parts without issues. -/
def outputs (verdicts : List Verdict) : List Json :=
  verdicts.filterMap output?

/-- The outputs of parts without issues, under their keys. -/
def keyedOutputs (verdicts : List (String × Verdict)) : List (String × Json) :=
  verdicts.filterMap fun part => (output? part.2).map (part.1, ·)

/-- The members of the output that no field declares. -/
def undeclaredOutput (policy : UnknownKeys) (extra : List (String × Json)) :
    List (String × Json) :=
  match policy with
  | .strip => []
  | .passthrough => extra
  | .strict => []

/-- The issues about members that no field declares. -/
def undeclaredIssues (policy : UnknownKeys) (extra : List (String × Json)) : List Issue :=
  match policy with
  | .strip => []
  | .passthrough => []
  | .strict => atRoot (extra.map fun entry => .unrecognizedKey entry.1)

/-- The merged outputs of all branches; without branches the value itself. -/
def merged (value : Json) (outputs : List Json) : Verdict :=
  match outputs with
  | [] => .ok value
  | first :: others =>
      match Json.mergeAll? first others with
      | some output => .ok output
      | none => refuse .unmergeableIntersection

end Verdict

namespace ValidatorKind

open Verdict

variable (inner : Validator → Json → Verdict)

/-- The verdict on the member of a field, if the field has anything to say. -/
def fieldVerdict (entries : List (String × Json)) (entry : String × Field) :
    Option (String × Verdict) :=
  match entries.lookup entry.1 with
  | some value => some (entry.1, inner entry.2.validator value)
  | none =>
      if entry.2.optional || entry.2.validator.allowsAbsent then none
      else some (entry.1, refuse .missingRequired)

/-- The issues of elements; without a validator there are none. -/
def itemsIssues (items : Option Validator) (elements : List Json) : List Issue :=
  match items with
  | none => []
  | some items => issuesBelow (indexed 0 (elements.map (inner items)))

/-- The outputs of elements; without a validator they stay as they are. -/
def itemsOutputs (items : Option Validator) (elements : List Json) : List Json :=
  match items with
  | none => elements
  | some items => outputs (elements.map (inner items))

/-- The verdict of a kind, made from the verdicts of the validators inside it. -/
def judge : ValidatorKind → Json → Verdict
  | .string rules => fun value =>
      match value with
      | .string text => settle (atRoot (rules.violations text)) value
      | _ => refuseType "string" value
  | .number rules => fun value =>
      match value with
      | .number n => settle (atRoot (rules.violations n.toBinary64)) value
      | _ => refuseType "number" value
  | .integer rules => fun value =>
      match value with
      | .number n =>
          settle (atRoot ((if n.toBinary64.isWhole then [] else [.notAnInteger])
            ++ rules.violations n.toBinary64)) value
      | _ => refuseType "integer" value
  | .boolean => fun value =>
      match value with
      | .bool _ => .ok value
      | _ => refuseType "boolean" value
  | .null => fun value =>
      match value with
      | .null => .ok .null
      | _ => refuseType "null" value
  | .unknown => fun value => .ok value
  | .literal expected => fun value =>
      if expected.sameValue value then .ok expected else refuse (.literalMismatch expected)
  | .array ⟨items, minItems, maxItems⟩ => fun value =>
      match value with
      | .array elements =>
          settle (atRoot (sizeViolations minItems maxItems elements.length)
            ++ itemsIssues inner items elements) (.array (itemsOutputs inner items elements))
      | _ => refuseType "array" value
  | .tuple slots => fun value =>
      match value with
      | .array elements =>
          if elements.length ≠ slots.length then
            refuse (.tupleArity slots.length elements.length)
          else
            let verdicts := slots.zipWith inner elements
            settle (issuesBelow (indexed 0 verdicts)) (.array (outputs verdicts))
      | _ => refuseType "array" value
  | .object ⟨fields, policy⟩ => fun value =>
      match value with
      | .object entries =>
          let verdicts := fields.filterMap (fieldVerdict inner entries)
          let extra := entries.filter fun entry => !Entries.contains fields entry.1
          settle (issuesBelow (keyed verdicts) ++ undeclaredIssues policy extra)
            (.object (keyedOutputs verdicts ++ undeclaredOutput policy extra))
      | _ => refuseType "object" value
  | .record values => fun value =>
      match value with
      | .object entries =>
          let verdicts := entries.map fun entry => (entry.1, inner values entry.2)
          settle (issuesBelow (keyed verdicts)) (.object (keyedOutputs verdicts))
      | _ => refuseType "object" value
  | .union branches => fun value =>
      match branches.findSome? fun branch => output? (inner branch value) with
      | some output => .ok output
      | none => refuse (.noMatchingBranch branches.length)
  | .intersection branches => fun value =>
      let verdicts := branches.map fun branch => inner branch value
      let found := verdicts.flatMap issues
      if found.isEmpty then merged value (outputs verdicts) else .error found
  | .nullable validator => fun value =>
      match value with
      | .null => .ok .null
      | _ => inner validator value

end ValidatorKind

namespace Verdict

@[simp]
theorem issues_ok (output : Json) : issues (.ok output) = [] := rfl

@[simp]
theorem issues_error (found : List Issue) : issues (.error found) = found := rfl

@[simp]
theorem output?_ok (output : Json) : output? (.ok output) = some output := rfl

@[simp]
theorem output?_error (found : List Issue) : output? (.error found) = none := rfl

theorem output?_eq_some_iff {verdict : Verdict} {output : Json} :
    output? verdict = some output ↔ verdict = .ok output := by
  cases verdict <;> simp

/-- A settled verdict is positive exactly if nothing was found. -/
@[simp]
theorem settle_eq_ok_iff {found : List Issue} {output result : Json} :
    settle found output = .ok result ↔ found = [] ∧ result = output := by
  unfold settle
  cases found <;> simp [eq_comm]

@[simp]
theorem settle_ne_error_nil (found : List Issue) (output : Json) :
    settle found output ≠ .error [] := by
  unfold settle
  cases found <;> simp

@[simp]
theorem issues_settle (found : List Issue) (output : Json) :
    issues (settle found output) = found := by
  unfold settle
  cases found <;> simp

@[simp]
theorem issues_refuse (kind : IssueKind) : issues (refuse kind) = [⟨.root, kind⟩] := rfl

@[simp]
theorem refuse_ne_error_nil (kind : IssueKind) : refuse kind ≠ .error [] := by
  simp [refuse]

@[simp]
theorem refuseType_ne_error_nil (expected : String) (value : Json) :
    refuseType expected value ≠ .error [] := by
  simp [refuseType]

@[simp]
theorem merged_ne_error_nil (value : Json) (outputs : List Json) :
    merged value outputs ≠ .error [] := by
  cases outputs with
  | nil => simp [merged]
  | cons first others =>
      cases result : Json.mergeAll? first others <;> simp [merged, result]

@[simp]
theorem issuesBelow_nil : issuesBelow [] = [] := rfl

@[simp]
theorem issuesBelow_cons (part : PathSegment × Verdict) (parts : List (PathSegment × Verdict)) :
    issuesBelow (part :: parts) =
      (issues part.2).map (Issue.under [part.1]) ++ issuesBelow parts := rfl

@[simp]
theorem indexed_nil (index : Nat) : indexed index [] = [] := rfl

@[simp]
theorem indexed_cons (index : Nat) (verdict : Verdict) (verdicts : List Verdict) :
    indexed index (verdict :: verdicts) =
      (.index index, verdict) :: indexed (index + 1) verdicts := by
  simp [indexed]

@[simp]
theorem keyed_nil : keyed [] = [] := rfl

@[simp]
theorem keyed_cons (part : String × Verdict) (parts : List (String × Verdict)) :
    keyed (part :: parts) = (.key part.1, part.2) :: keyed parts := rfl

@[simp]
theorem outputs_nil : outputs [] = [] := rfl

@[simp]
theorem outputs_cons (verdict : Verdict) (verdicts : List Verdict) :
    outputs (verdict :: verdicts) = (output? verdict).toList ++ outputs verdicts := by
  cases verdict <;> simp [outputs, List.filterMap_cons]

@[simp]
theorem keyedOutputs_nil : keyedOutputs [] = [] := rfl

@[simp]
theorem keyedOutputs_cons (part : String × Verdict) (parts : List (String × Verdict)) :
    keyedOutputs (part :: parts) =
      (output? part.2).toList.map (part.1, ·) ++ keyedOutputs parts := by
  rcases part with ⟨key, verdict⟩
  cases verdict <;> simp [keyedOutputs, List.filterMap_cons]

theorem issuesBelow_eq_nil_iff {parts : List (PathSegment × Verdict)} :
    issuesBelow parts = [] ↔ ∀ part ∈ parts, issues part.2 = [] := by
  simp [issuesBelow]

/-- What holds of all parts at indices holds of all verdicts. -/
theorem forall_mem_indexed (holds : Verdict → Prop) {index : Nat} {verdicts : List Verdict} :
    (∀ part ∈ indexed index verdicts, holds part.2) ↔ ∀ verdict ∈ verdicts, holds verdict := by
  induction verdicts generalizing index with
  | nil => simp
  | cons verdict rest ih => rw [indexed_cons, List.forall_mem_cons, List.forall_mem_cons, ih]

/-- What holds of all parts under keys holds of all verdicts. -/
theorem forall_mem_keyed (holds : Verdict → Prop) {verdicts : List (String × Verdict)} :
    (∀ part ∈ keyed verdicts, holds part.2) ↔ ∀ part ∈ verdicts, holds part.2 :=
  List.forall_mem_map

theorem issuesBelow_indexed_eq_nil_iff {index : Nat} {verdicts : List Verdict} :
    issuesBelow (indexed index verdicts) = [] ↔ ∀ verdict ∈ verdicts, issues verdict = [] :=
  issuesBelow_eq_nil_iff.trans (forall_mem_indexed fun verdict => issues verdict = [])

theorem issuesBelow_keyed_eq_nil_iff {verdicts : List (String × Verdict)} :
    issuesBelow (keyed verdicts) = [] ↔ ∀ part ∈ verdicts, issues part.2 = [] :=
  issuesBelow_eq_nil_iff.trans (forall_mem_keyed fun verdict => issues verdict = [])

/-- Proper verdicts are all positive, with given outputs, if none has an issue. -/
theorem forall₂_ok_iff {α : Type} {judgeOf : α → Verdict}
    (proper : ∀ item, judgeOf item ≠ .error []) {items : List α} {results : List Json} :
    List.Forall₂ (fun item result => judgeOf item = .ok result) items results ↔
      (∀ item ∈ items, issues (judgeOf item) = []) ∧ results = outputs (items.map judgeOf) := by
  induction items generalizing results with
  | nil => simp
  | cons item rest ih =>
      rw [List.forall_mem_cons, List.forall₂_cons_left_iff, List.map_cons, outputs_cons]
      cases verdict : judgeOf item with
      | ok output => simp [ih]
      | error found =>
          have nonempty : found ≠ [] := fun none => proper item (none ▸ verdict)
          simp [nonempty]

/-- Proper verdicts under keys are all positive, with given outputs, if none has an issue. -/
theorem forall₂_keyed_ok_iff {α : Type} {judgeOf : α → Verdict}
    (proper : ∀ item, judgeOf item ≠ .error []) {items : List (String × α)}
    {results : List (String × Json)} :
    List.Forall₂ (fun item result => result.1 = item.1 ∧ judgeOf item.2 = .ok result.2)
        items results ↔
      (∀ item ∈ items, issues (judgeOf item.2) = []) ∧
        results = keyedOutputs (items.map fun item => (item.1, judgeOf item.2)) := by
  induction items generalizing results with
  | nil => simp
  | cons item rest ih =>
      rw [List.forall_mem_cons, List.forall₂_cons_left_iff, List.map_cons, keyedOutputs_cons]
      cases verdict : judgeOf item.2 with
      | ok output => simp [ih]
      | error found =>
          have nonempty : found ≠ [] := fun none => proper item.2 (none ▸ verdict)
          simp [nonempty]

end Verdict

end ToolGate
