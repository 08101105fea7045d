import ToolGate.Proofs.Validator.Violations

/-!
# Issues are local

Two values that differ at one position only have the same issues at all
positions beside it, in the same order.  What a validator finds in a part
stands below the part, and a validator looks at no part in the light of
another: the issues of an array, a tuple, an object or an intersection are
joined from lists, of which at most one sees the difference, and this one
sees it one step nearer to the root.  All remaining issues stand at the value
itself, on the way to the position.
-/

namespace ToolGate

namespace FieldPath

/-- Neither path leads through the end of the other. -/
def Diverges (path other : FieldPath) : Prop :=
  ¬path <+: other ∧ ¬other <+: path

instance (path other : FieldPath) : Decidable (path.Diverges other) :=
  inferInstanceAs (Decidable (¬path <+: other ∧ ¬other <+: path))

variable {path other : FieldPath}

@[simp]
theorem not_diverges_nil : ¬path.Diverges [] := by
  simp [Diverges]

@[simp]
theorem not_nil_diverges : ¬Diverges [] other := by
  simp [Diverges]

@[simp]
theorem cons_diverges_cons_iff (step : PathSegment) :
    Diverges (step :: path) (step :: other) ↔ path.Diverges other := by
  simp [Diverges]

end FieldPath

/-- A member between others is found under its key, unless an earlier one has it. -/
theorem Entries.lookup_append_cons {α : Type} (before after : List (String × α)) (key : String)
    (value : α) (name : String) :
    (before ++ (key, value) :: after).lookup name =
      if name = key then (before.lookup name).or (some value)
      else (before ++ after).lookup name := by
  rw [List.lookup_append, List.lookup_append]
  by_cases same : name = key
  · simp [same]
  · simp [List.lookup_cons, beq_false_of_ne same, same]

namespace Json

/-- The values are the same but for what stands at the path. -/
inductive DifferAt : FieldPath → Json → Json → Prop where
  | here (first second : Json) : DifferAt [] first second
  | element {path : FieldPath} {first second : Json} (before after : List Json)
      (inner : DifferAt path first second) :
      DifferAt (.index before.length :: path)
        (.array (before ++ first :: after)) (.array (before ++ second :: after))
  | member {path : FieldPath} {first second : Json} (before after : List (String × Json))
      (key : String) (inner : DifferAt path first second) :
      DifferAt (.key key :: path)
        (.object (before ++ (key, first) :: after)) (.object (before ++ (key, second) :: after))
  | added (before after : List (String × Json)) (key : String) (value : Json) :
      DifferAt [.key key] (.object (before ++ after)) (.object (before ++ (key, value) :: after))
  | removed (before after : List (String × Json)) (key : String) (value : Json) :
      DifferAt [.key key] (.object (before ++ (key, value) :: after)) (.object (before ++ after))

end Json

namespace Issue

/-- The issues at positions beside a path. -/
def beside (path : FieldPath) (found : List Issue) : List Issue :=
  found.filter fun issue => decide (path.Diverges issue.path)

variable {path : FieldPath}

@[simp]
theorem beside_nil : beside path [] = [] := rfl

@[simp]
theorem beside_append (first second : List Issue) :
    beside path (first ++ second) = beside path first ++ beside path second :=
  List.filter_append ..

theorem beside_flatMap {α : Type} (found : α → List Issue) (items : List α) :
    beside path (items.flatMap found) = items.flatMap fun item => beside path (found item) :=
  List.filter_flatMap

/-- No position is beside the whole value. -/
@[simp]
theorem beside_root (found : List Issue) : beside [] found = [] := by
  simp [beside]

/-- The value itself is on the way to every position. -/
@[simp]
theorem beside_atRoot (kinds : List IssueKind) : beside path (Verdict.atRoot kinds) = [] := by
  simp [beside, Verdict.atRoot, FieldPath.root]

@[simp]
theorem beside_under (step : PathSegment) (found : List Issue) :
    beside (step :: path) (found.map (under [step])) =
      (beside path found).map (under [step]) := by
  simp [beside, List.filter_map, Function.comp_def, under]

end Issue

namespace Validator

open Issue Json Verdict ValidatorKind

variable {path : FieldPath} {first second value : Json} {description : String}

/-- A difference of two values leaves the issues at positions beside it as they are. -/
def Local (validator : Validator) : Prop :=
  ∀ {path first second}, DifferAt path first second →
    beside path (issues (validator.validate first)) =
      beside path (issues (validator.validate second))

theorem beside_of_other_type {kind : ValidatorKind} {expected actual : String}
    (types : kind.types? = some (expected, actual)) (other : value.typeName ≠ actual) :
    beside path (issues (validate ⟨kind, description⟩ value)) = [] := by
  rw [validate_of_other_type types other]
  exact beside_atRoot [_]

theorem beside_same_of_other_type {kind : ValidatorKind} {expected actual : String}
    (types : kind.types? = some (expected, actual)) (firstOther : first.typeName ≠ actual)
    (secondOther : second.typeName ≠ actual) :
    beside path (issues (validate ⟨kind, description⟩ first)) =
      beside path (issues (validate ⟨kind, description⟩ second)) := by
  rw [beside_of_other_type types firstOther, beside_of_other_type types secondOther]

/-- Arrays and objects are refused by a kind that is about neither. -/
theorem local_of_scalar {kind : ValidatorKind} {expected actual : String}
    (types : kind.types? = some (expected, actual)) (scalar : actual ∉ ["array", "object"]) :
    Local ⟨kind, description⟩ := by
  have notArray : "array" ≠ actual := by
    rintro rfl
    simp at scalar
  have notObject : "object" ≠ actual := by
    rintro rfl
    simp at scalar
  intro path first second differ
  cases differ with
  | here => simp
  | element => exact beside_same_of_other_type types notArray notArray
  | member | added | removed => exact beside_same_of_other_type types notObject notObject

/-- A validator may have all its issues at the value itself. -/
theorem local_of_beside {validator : Validator}
    (whole : ∀ path value, beside path (issues (validator.validate value)) = []) :
    validator.Local := by
  intro path first second _
  rw [whole, whole]

theorem local_literal (expected : Json) : Local ⟨.literal expected, description⟩ := by
  apply local_of_beside
  intro path value
  rw [validate_eq_judge]
  by_cases same : expected.sameValue value = true
  · simp [judge, same]
  · simp only [judge, same, Bool.false_eq_true, ↓reduceIte]
    exact beside_atRoot [_]

/-- What the branches of a union found is not shown, wherever it stands. -/
theorem local_union (branches : List Validator) : Local ⟨.union branches, description⟩ := by
  apply local_of_beside
  intro path value
  rw [validate_eq_judge]
  simp only [judge]
  cases branches.findSome? fun branch => output? (branch.validate value) with
  | some output => rfl
  | none => exact beside_atRoot [_]

/-- Of parts at indices only one has other issues, and these at its index. -/
theorem beside_elements {α : Type} (found : α → List Issue) (before after : List α) {one other : α}
    (same : beside path (found one) = beside path (found other)) :
    beside (.index before.length :: path)
        ((before ++ one :: after).zipIdx.flatMap fun item =>
          (found item.1).map (Issue.under [.index item.2])) =
      beside (.index before.length :: path)
        ((before ++ other :: after).zipIdx.flatMap fun item =>
          (found item.1).map (Issue.under [.index item.2])) := by
  simp only [List.zipIdx_append, List.zipIdx_cons, List.flatMap_append, List.flatMap_cons,
    beside_append, Nat.zero_add, beside_under, same]

theorem local_array {items : Option Validator} {minItems maxItems : Option UInt64}
    (inside : ∀ child ∈ items, child.Local) :
    Local ⟨.array ⟨items, minItems, maxItems⟩, description⟩ := by
  intro path first second differ
  cases differ with
  | here => simp
  | element before after inner =>
      simp only [validate_array_issues, beside_append, beside_atRoot, List.nil_append]
      cases items with
      | none => rfl
      | some child =>
          simp only [Option.toList_some, List.flatMap_cons, List.flatMap_nil, List.append_nil]
          apply beside_elements fun element => issues (child.validate element)
          exact inside child rfl inner
  | member | added | removed =>
      exact beside_same_of_other_type rfl (by simp [typeName]) (by simp [typeName])

/-- If there is a slot for each element, one of them is for the element in the middle. -/
theorem exists_slot {slots : List Validator} {before after : List Json} {part : Json}
    (arity : (before ++ part :: after).length = slots.length) :
    ∃ front slot back, slots = front ++ slot :: back ∧ front.length = before.length := by
  rw [List.length_append, List.length_cons] at arity
  have inside : before.length < slots.length := by omega
  refine ⟨slots.take before.length, slots[before.length], slots.drop (before.length + 1), ?_, ?_⟩
  · rw [List.getElem_cons_drop, List.take_append_drop]
  · exact List.length_take_of_le (Nat.le_of_lt inside)

theorem local_tuple {slots : List Validator} (inside : ∀ slot ∈ slots, slot.Local) :
    Local ⟨.tuple slots, description⟩ := by
  intro path first second differ
  cases differ with
  | here => simp
  | @element _ first second before after inner =>
      have lengths : (before ++ second :: after).length = (before ++ first :: after).length := by
        simp
      by_cases arity : (before ++ first :: after).length = slots.length
      · rw [validate_tuple_issues arity, validate_tuple_issues (lengths.trans arity)]
        rcases exists_slot arity with ⟨front, slot, back, rfl, aligned⟩
        have zipped : (front.zip before).length = before.length := by
          simp [aligned]
        rw [List.zip_append aligned, List.zip_append aligned, List.zip_cons_cons,
          List.zip_cons_cons, ← zipped]
        apply beside_elements fun part : Validator × Json => issues (part.1.validate part.2)
        exact inside slot (by simp) inner
      · rw [validate_eq_judge, validate_eq_judge]
        simp only [judge, lengths, arity, ne_eq, not_false_eq_true, ↓reduceIte]
  | member | added | removed =>
      exact beside_same_of_other_type rfl (by simp [typeName]) (by simp [typeName])

/-- Only the members under one key have other issues, and these under the key. -/
theorem beside_fieldIssues {fields : List (String × Field)} {key : String}
    {first second : List (String × Json)}
    (others : ∀ name, name ≠ key → first.lookup name = second.lookup name)
    (same : ∀ entry ∈ fields, entry.1 = key →
      beside (.key key :: path) (fieldIssues first entry) =
        beside (.key key :: path) (fieldIssues second entry)) :
    beside (.key key :: path) (fields.flatMap (fieldIssues first)) =
      beside (.key key :: path) (fields.flatMap (fieldIssues second)) := by
  simp only [beside_flatMap]
  apply List.flatMap_congr
  intro entry member
  by_cases named : entry.1 = key
  · exact same entry member named
  · simp only [fieldIssues, others entry.1 named]

/-- The issues of a field stand below its name. -/
theorem beside_key_fieldIssues (entries : List (String × Json)) (entry : String × Field) :
    beside [.key entry.1] (fieldIssues entries entry) = [] := by
  unfold fieldIssues
  cases entries.lookup entry.1 with
  | some member => simp
  | none =>
      by_cases admitted : (entry.2.optional || entry.2.validator.allowsAbsent) = true
      · simp [admitted]
      · simp [admitted, beside, FieldPath.key, FieldPath.root]

theorem local_object {fields : List (String × Field)} {policy : UnknownKeys}
    (inside : ∀ entry ∈ fields, entry.2.validator.Local) :
    Local ⟨.object ⟨fields, policy⟩, description⟩ := by
  intro path first second differ
  have extra : ∀ path entries, beside path (undeclaredIssues policy entries) = [] := by
    intro path entries
    cases policy <;> simp [undeclaredIssues]
  cases differ with
  | here => simp
  | @member path first second before after key inner =>
      simp only [validate_object_issues, beside_append, extra, List.append_nil]
      apply beside_fieldIssues
      · intro name other
        rw [Entries.lookup_append_cons, Entries.lookup_append_cons, if_neg other, if_neg other]
      · rintro ⟨name, field⟩ member rfl
        have same := inside (name, field) member inner
        simp only [fieldIssues, Entries.lookup_append_cons, ↓reduceIte]
        cases before.lookup name with
        | some earlier => rfl
        | none => simp only [Option.none_or, beside_under, same]
  | added before after key value | removed before after key value =>
      simp only [validate_object_issues, beside_append, extra, List.append_nil]
      apply beside_fieldIssues
      · intro name other
        rw [Entries.lookup_append_cons, if_neg other]
      · rintro entry member rfl
        rw [beside_key_fieldIssues, beside_key_fieldIssues]
  | element => exact beside_same_of_other_type rfl (by simp [typeName]) (by simp [typeName])

theorem local_record {values : Validator} (inside : values.Local) :
    Local ⟨.record values, description⟩ := by
  intro path first second differ
  cases differ with
  | here => simp
  | member before after key inner =>
      have same := inside inner
      simp only [validate_record_issues, List.flatMap_append, List.flatMap_cons, beside_append,
        beside_under, same]
  | added | removed => simp [validate_record_issues]
  | element => exact beside_same_of_other_type rfl (by simp [typeName]) (by simp [typeName])

theorem beside_merged (value : Json) (outputs : List Json) :
    beside path (issues (merged value outputs)) = [] := by
  cases outputs with
  | nil => rfl
  | cons first others =>
      simp only [merged]
      cases mergeAll? first others with
      | some output => rfl
      | none => exact beside_atRoot [_]

/-- Whether the outputs of branches fit together is said of the value itself. -/
theorem beside_intersection (branches : List Validator) (value : Json) :
    beside path (issues (validate ⟨.intersection branches, description⟩ value)) =
      branches.flatMap fun branch => beside path (issues (branch.validate value)) := by
  rw [← beside_flatMap, validate_eq_judge]
  simp only [judge, List.flatMap_map]
  cases found : branches.flatMap fun branch => issues (branch.validate value) with
  | nil => exact beside_merged _ _
  | cons issue rest => simp

theorem local_intersection {branches : List Validator}
    (inside : ∀ branch ∈ branches, branch.Local) :
    Local ⟨.intersection branches, description⟩ := by
  intro path first second differ
  rw [beside_intersection, beside_intersection]
  apply List.flatMap_congr
  intro branch member
  exact inside branch member differ

theorem local_nullable {inner : Validator} (inside : inner.Local) :
    Local ⟨.nullable inner, description⟩ := by
  intro path first second differ
  have same := inside differ
  cases differ with
  | here => simp
  | _ => rwa [validate_nullable_issues (by simp), validate_nullable_issues (by simp)]

/--
Two values that differ at one position have the same issues beside it.  So to
correct one part adds, hides and reorders no issue about another part.
-/
theorem issues_local (validator : Validator) {path : FieldPath} {first second : Json}
    (differ : DifferAt path first second) :
    beside path (issues (validator.validate first)) =
      beside path (issues (validator.validate second)) := by
  suffices localised : validator.Local from localised differ
  clear differ
  induction validator with
  | string rules description => exact local_of_scalar rfl (by decide)
  | number rules description => exact local_of_scalar rfl (by decide)
  | integer rules description => exact local_of_scalar rfl (by decide)
  | boolean description => exact local_of_scalar rfl (by decide)
  | null description => exact local_of_scalar rfl (by decide)
  | unknown description =>
      apply local_of_beside
      intro path value
      rw [validate_eq_judge]
      rfl
  | literal expected description => exact local_literal expected
  | array items minItems maxItems description ih => exact local_array ih
  | tuple slots description ih => exact local_tuple ih
  | object fields policy description ih => exact local_object ih
  | record values description ih => exact local_record ih
  | union branches description _ => exact local_union branches
  | intersection branches description ih => exact local_intersection ih
  | nullable inner description ih => exact local_nullable ih

/-- A message without receiver keeps the complaint about one who gets a copy. -/
theorem issues_local_removed_member :
    let text : Validator := .ofKind (.string {})
    let message : Validator := .ofKind (.object
      ⟨[("to", ⟨text, false⟩), ("cc", ⟨.ofKind (.array ⟨some text, none, none⟩), true⟩)], .strict⟩)
    let copies : Json := .array [.string "ada", .null]
    let first : Json := .object [("to", .bool true), ("cc", copies)]
    let second : Json := .object [("cc", copies)]
    DifferAt [.key "to"] first second ∧
      beside [.key "to"] (issues (message.validate first)) =
        beside [.key "to"] (issues (message.validate second)) ∧
      beside [.key "to"] (issues (message.validate second)) =
        [⟨[.key "cc", .index 1], .invalidType "string" "null"⟩] := by
  intro text message copies first second
  have differ : DifferAt [.key "to"] first second := .removed [] [("cc", copies)] "to" (.bool true)
  exact ⟨differ, issues_local message differ, rfl⟩

end Validator

end ToolGate
