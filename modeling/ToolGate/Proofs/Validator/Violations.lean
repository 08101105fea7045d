import ToolGate.Proofs.Validator.Issues
import ToolGate.Proofs.Validator.Positions
import ToolGate.Proofs.Validator.Rules

/-!
# Issues are located and true

Every issue says of a part of the value, found at the path of the issue,
that it violates a constraint of the validator that looks at this part, and
it does.  Only the issue about a missing member stands where there is no
part: its path is that of an object followed by a key that the object lacks.

What a validator finds is either an issue of its own or an issue of a part
that it hands on, one step further up; all else follows by induction.
-/

namespace ToolGate

open Verdict

namespace ValidatorKind

/-- The type of the values that a kind is about: as issues call it, and as values do. -/
def types? : ValidatorKind → Option (String × String)
  | .string _ => some ("string", "string")
  | .number _ => some ("number", "number")
  | .integer _ => some ("integer", "number")
  | .boolean => some ("boolean", "boolean")
  | .null => some ("null", "null")
  | .array _ | .tuple _ => some ("array", "array")
  | .object _ | .record _ => some ("object", "object")
  | .unknown | .literal _ | .union _ | .intersection _ | .nullable _ => none

/-- The value violates a constraint of the kind, in the words of an issue. -/
inductive Violates : ValidatorKind → Json → IssueKind → Prop where
  | type {kind : ValidatorKind} {expected actual : String} {part : Json}
      (types : kind.types? = some (expected, actual)) (other : part.typeName ≠ actual)
      (different : expected ≠ part.typeName) :
      Violates kind part (.invalidType expected part.typeName)
  | text {rules : StringRules} {text : String} {kind : IssueKind}
      (violated : rules.Violated text kind) : Violates (.string rules) (.string text) kind
  | number {rules : NumberRules} {n : JsonNumber} {kind : IssueKind}
      (violated : rules.Violated n.toBinary64 kind) : Violates (.number rules) (.number n) kind
  | integer {rules : NumberRules} {n : JsonNumber} {kind : IssueKind}
      (violated : rules.Violated n.toBinary64 kind) : Violates (.integer rules) (.number n) kind
  | fraction {rules : NumberRules} {n : JsonNumber}
      (fractional : ¬(Binary64.unitsPerOne : Int) ∣ n.toBinary64.units) :
      Violates (.integer rules) (.number n) .notAnInteger
  | literal {expected part : Json} (different : expected.sameValue part = false) :
      Violates (.literal expected) part (.literalMismatch expected)
  | size {items : Option Validator} {minItems maxItems : Option UInt64} {elements : List Json}
      {kind : IssueKind} (violated : SizeViolated minItems maxItems elements.length kind) :
      Violates (.array ⟨items, minItems, maxItems⟩) (.array elements) kind
  | arity {slots : List Validator} {elements : List Json}
      (different : elements.length ≠ slots.length) :
      Violates (.tuple slots) (.array elements) (.tupleArity slots.length elements.length)
  | undeclared {fields : List (String × Field)} {entries : List (String × Json)} {key : String}
      (present : key ∈ Entries.names entries) (undeclared : key ∉ Entries.names fields) :
      Violates (.object ⟨fields, .strict⟩) (.object entries) (.unrecognizedKey key)
  | noBranch {branches : List Validator} {part : Json}
      (refused : ∀ branch ∈ branches, branch.accepts part = false) :
      Violates (.union branches) part (.noMatchingBranch branches.length)

/-- What is absent violates nothing. -/
theorem not_violates_missingRequired {kind : ValidatorKind} {part : Json} :
    ¬kind.Violates part .missingRequired := by
  intro violates
  cases violates with
  | text violated => cases violated
  | number violated => cases violated
  | integer violated => cases violated
  | size violated => cases violated

end ValidatorKind

namespace Validator

open ValidatorKind

/-- An issue that a validator has with a value itself. -/
inductive Reports : Validator → Json → Issue → Prop where
  | violation {kind : ValidatorKind} {description : String} {value : Json}
      {violated : IssueKind} (violates : kind.Violates value violated) :
      Reports ⟨kind, description⟩ value ⟨.root, violated⟩
  | missing {fields : List (String × Field)} {policy : UnknownKeys} {description : String}
      {entries : List (String × Json)} {entry : String × Field} (declared : entry ∈ fields)
      (required : entry.2.optional = false) (constrained : entry.2.validator.allowsAbsent = false)
      (absent : entry.1 ∉ Entries.names entries) :
      Reports ⟨.object ⟨fields, policy⟩, description⟩ (.object entries)
        ⟨FieldPath.root.key entry.1, .missingRequired⟩

/-- An issue is one with the value itself or one with a part that is handed on. -/
inductive Raises (validator : Validator) (value : Json) : Issue → Prop where
  | own {issue : Issue} (reports : Reports validator value issue) : Raises validator value issue
  | passed {step : FieldPath} {inner : Validator} {part : Json} {issue : Issue}
      (enters : Enters validator value step inner part)
      (deeper : issue ∈ issues (inner.validate part)) :
      Raises validator value (issue.under step)

section Raises

variable {description : String} {value : Json} {issue : Issue}

/-- A value of another type is refused for its type. -/
theorem validate_of_other_type {kind : ValidatorKind} {expected actual : String}
    (types : kind.types? = some (expected, actual)) (other : value.typeName ≠ actual) :
    validate ⟨kind, description⟩ value = refuseType expected value := by
  rw [validate_eq_judge]
  cases kind with
  | array rules =>
      rcases rules with ⟨items, minItems, maxItems⟩
      cases types
      cases value <;> first | rfl | exact absurd rfl other
  | object shape =>
      rcases shape with ⟨fields, policy⟩
      cases types
      cases value <;> first | rfl | exact absurd rfl other
  | _ => cases types <;> cases value <;> first | rfl | exact absurd rfl other

/-- No value has a type that issues call otherwise than values do. -/
theorem expected_ne_typeName {kind : ValidatorKind} {expected actual : String}
    (types : kind.types? = some (expected, actual)) (other : value.typeName ≠ actual) :
    expected ≠ value.typeName := by
  cases kind <;> cases types
  case integer => cases value <;> simp [Json.typeName]
  all_goals exact other.symm

theorem Raises.ofViolations {kind : ValidatorKind} {violations : List IssueKind}
    (violates : ∀ violated ∈ violations, kind.Violates value violated)
    (reported : issue ∈ atRoot violations) : Raises ⟨kind, description⟩ value issue := by
  rcases List.mem_map.mp reported with ⟨violated, member, rfl⟩
  exact .own (.violation (violates violated member))

theorem Raises.ofOtherType {kind : ValidatorKind} {expected actual : String}
    (types : kind.types? = some (expected, actual)) (other : value.typeName ≠ actual)
    (reported : issue ∈ issues (validate ⟨kind, description⟩ value)) :
    Raises ⟨kind, description⟩ value issue := by
  rw [validate_of_other_type types other] at reported
  rw [List.mem_singleton.mp reported]
  exact .own (.violation (.type types other (expected_ne_typeName types other)))

theorem raises_array {items : Option Validator} {minItems maxItems : Option UInt64}
    (reported : issue ∈ issues (validate ⟨.array ⟨items, minItems, maxItems⟩, description⟩ value)) :
    Raises ⟨.array ⟨items, minItems, maxItems⟩, description⟩ value issue := by
  cases value with
  | array elements =>
      rw [validate_array_issues, List.mem_append] at reported
      rcases reported with size | below
      · exact .ofViolations (fun _ member => .size (mem_sizeViolations_iff.mp member)) size
      · rcases List.mem_flatMap.mp below with ⟨child, given, below⟩
        rcases List.mem_flatMap.mp below with ⟨⟨element, index⟩, inside, below⟩
        rcases List.mem_map.mp below with ⟨deeper, found, rfl⟩
        obtain rfl := Option.mem_toList.mp given
        exact .passed (.element (List.mem_zipIdx_iff_getElem?.mp inside)) found
  | _ => exact .ofOtherType rfl (by simp [Json.typeName]) reported

theorem raises_tuple {slots : List Validator}
    (reported : issue ∈ issues (validate ⟨.tuple slots, description⟩ value)) :
    Raises ⟨.tuple slots, description⟩ value issue := by
  cases value with
  | array elements =>
      by_cases arity : elements.length = slots.length
      · rw [validate_tuple_issues arity] at reported
        rcases List.mem_flatMap.mp reported with ⟨⟨⟨slot, element⟩, index⟩, inside, below⟩
        rcases List.mem_map.mp below with ⟨deeper, found, rfl⟩
        have both := List.getElem?_zip_eq_some.mp (List.mem_zipIdx_iff_getElem?.mp inside)
        exact .passed (.slot arity both.1 both.2) found
      · rw [validate_eq_judge] at reported
        simp only [judge, arity, ne_eq, not_false_eq_true, ↓reduceIte, issues_refuse,
          List.mem_singleton] at reported
        rw [reported]
        exact .own (.violation (.arity arity))
  | _ => exact .ofOtherType rfl (by simp [Json.typeName]) reported

theorem raises_object {fields : List (String × Field)} {policy : UnknownKeys}
    (reported : issue ∈ issues (validate ⟨.object ⟨fields, policy⟩, description⟩ value)) :
    Raises ⟨.object ⟨fields, policy⟩, description⟩ value issue := by
  cases value with
  | object entries =>
      rw [validate_object_issues, List.mem_append] at reported
      rcases reported with declared | undeclared
      · rcases List.mem_flatMap.mp declared with ⟨entry, listed, below⟩
        unfold fieldIssues at below
        cases found : entries.lookup entry.1 with
        | some member =>
            rw [found] at below
            rcases List.mem_map.mp below with ⟨deeper, inside, rfl⟩
            exact .passed (.field listed found) inside
        | none =>
            rw [found] at below
            by_cases admitted : (entry.2.optional || entry.2.validator.allowsAbsent) = true
            · simp [admitted] at below
            · simp only [admitted, ↓reduceIte, Bool.false_eq_true, List.mem_singleton] at below
              rw [Bool.not_eq_true, Bool.or_eq_false_iff] at admitted
              rw [below]
              have absent := Entries.lookup_eq_none_iff.mp found
              exact .own (.missing listed admitted.1 admitted.2 absent)
      · cases policy with
        | strip => cases undeclared
        | passthrough => cases undeclared
        | strict =>
            -- only the strict policy reports the members that no field declares
            refine .ofViolations ?_ undeclared
            intro violated member
            rcases List.mem_map.mp member with ⟨entry, extra, rfl⟩
            rcases List.mem_filter.mp extra with ⟨inside, unlisted⟩
            rw [Bool.not_eq_true', Bool.eq_false_iff, ne_eq, Entries.contains_iff] at unlisted
            exact .undeclared (Entries.mem_names_of_mem inside) unlisted
  | _ => exact .ofOtherType rfl (by simp [Json.typeName]) reported

theorem raises_record {values : Validator} (formed : value.WellFormed)
    (reported : issue ∈ issues (validate ⟨.record values, description⟩ value)) :
    Raises ⟨.record values, description⟩ value issue := by
  cases value with
  | object entries =>
      rw [validate_record_issues] at reported
      rcases List.mem_flatMap.mp reported with ⟨entry, inside, below⟩
      rcases List.mem_map.mp below with ⟨deeper, found, rfl⟩
      have present : entries.lookup entry.1 = some entry.2 :=
        (Entries.lookup_eq_some_iff_mem (Json.wellFormed_object.mp formed).1).mpr inside
      exact .passed (.member present) found
  | _ => exact .ofOtherType rfl (by simp [Json.typeName]) reported

theorem raises_union {branches : List Validator}
    (reported : issue ∈ issues (validate ⟨.union branches, description⟩ value)) :
    Raises ⟨.union branches, description⟩ value issue := by
  by_cases refused : ∀ branch ∈ branches, issues (branch.validate value) ≠ []
  · rw [validate_union_issues refused, List.mem_singleton] at reported
    rw [reported]
    refine .own (.violation (.noBranch ?_))
    intro branch member
    rw [Bool.eq_false_iff]
    intro accepted
    exact refused branch member (validate_issues_eq_nil_iff.mpr (accepts_iff.mp accepted))
  · push Not at refused
    rcases refused with ⟨branch, member, clean⟩
    rw [validate_union_clean member clean] at reported
    cases reported

/-- Every issue is the validator's own or comes from a part that it hands on. -/
theorem raises_of_mem {validator : Validator} (sound : validator.WellFormed)
    (formed : value.WellFormed) (reported : issue ∈ issues (validator.validate value)) :
    Raises validator value issue := by
  rcases validator with ⟨kind, description⟩
  cases kind with
  | string rules =>
      cases value with
      | string text =>
          rw [validate_eq_judge, judge, issues_settle] at reported
          exact .ofViolations
            (fun _ member => .text (StringRules.mem_violations_iff.mp member)) reported
      | _ => exact .ofOtherType rfl (by simp [Json.typeName]) reported
  | number rules =>
      cases value with
      | number n =>
          rw [validate_eq_judge, judge, issues_settle] at reported
          exact .ofViolations
            (fun _ member => .number (NumberRules.mem_violations_iff.mp member)) reported
      | _ => exact .ofOtherType rfl (by simp [Json.typeName]) reported
  | integer rules =>
      cases value with
      | number n =>
          rw [validate_eq_judge, judge, issues_settle] at reported
          refine .ofViolations ?_ reported
          intro violated member
          rcases List.mem_append.mp member with fraction | bound
          · by_cases whole : n.toBinary64.isWhole = true
            · simp [whole] at fraction
            · simp only [whole, ↓reduceIte, Bool.false_eq_true, List.mem_singleton] at fraction
              rw [fraction]
              exact .fraction fun divides => whole (Binary64.isWhole_iff.mpr divides)
          · exact .integer (NumberRules.mem_violations_iff.mp bound)
      | _ => exact .ofOtherType rfl (by simp [Json.typeName]) reported
  | boolean =>
      cases value with
      | bool truth =>
          rw [validate_eq_judge] at reported
          cases reported
      | _ => exact .ofOtherType rfl (by simp [Json.typeName]) reported
  | null =>
      cases value with
      | null =>
          rw [validate_eq_judge] at reported
          cases reported
      | _ => exact .ofOtherType rfl (by simp [Json.typeName]) reported
  | unknown =>
      rw [validate_eq_judge] at reported
      cases reported
  | literal expected =>
      rw [validate_eq_judge, judge] at reported
      cases same : expected.sameValue value with
      | true => simp [same] at reported
      | false =>
          simp only [same, Bool.false_eq_true, ↓reduceIte, issues_refuse,
            List.mem_singleton] at reported
          rw [reported]
          exact .own (.violation (.literal same))
  | array rules =>
      rcases rules with ⟨items, minItems, maxItems⟩
      exact raises_array reported
  | tuple slots => exact raises_tuple reported
  | object shape =>
      rcases shape with ⟨fields, policy⟩
      exact raises_object reported
  | record values => exact raises_record formed reported
  | union branches => exact raises_union reported
  | intersection branches =>
      have soundBranches : ∀ branch ∈ branches, branch.WellFormed :=
        fun branch member => sound.child member
      rw [validate_intersection_issues soundBranches formed] at reported
      rcases List.mem_flatMap.mp reported with ⟨branch, member, found⟩
      exact .passed (.branch member) found
  | nullable inner =>
      by_cases isNull : value = .null
      · subst isNull
        rw [validate_eq_judge] at reported
        cases reported
      · rw [validate_nullable_issues isNull] at reported
        exact .passed (.inner isNull) reported

end Raises

/-- Every issue is one that a validator inside has with the part that reaches it. -/
theorem reports_of_mem {validator : Validator} (sound : validator.WellFormed) {value : Json}
    (formed : value.WellFormed) {issue : Issue}
    (reported : issue ∈ issues (validator.validate value)) :
    ∃ path inner part own, Reaches validator value path inner part ∧ Reports inner part own ∧
      issue = own.under path := by
  induction validator using inductionOnChildren generalizing value issue with
  | step kind description ih =>
      cases raises_of_mem sound formed reported with
      | own reports => exact ⟨.root, _, value, issue, .here _ value, reports, rfl⟩
      | @passed step inner part deeper enters found =>
          -- the issue is found further down, and its path grows by the step on the way up
          have inside := enters.mem_children
          rcases ih inner inside (sound.child inside) (enters.wellFormed formed) found with
            ⟨path, innermost, deepPart, own, reaches, reports, rfl⟩
          refine ⟨step ++ path, innermost, deepPart, own, .further enters reaches, reports, ?_⟩
          exact Issue.under_under step path own

/--
Issues are located and true.  The path of an issue resolves to a part of the
value, and this part violates the constraint of the validator that it
reaches.  The issue about a missing member has the path of an object and a
key that the object lacks.
-/
theorem issues_located (validator : Validator) (sound : validator.WellFormed) (value : Json)
    (formed : value.WellFormed) (found : List Issue)
    (refused : validator.validate value = .error found) :
    ∀ issue ∈ found,
      (∃ inner part, Reaches validator value issue.path inner part ∧
        value.at? issue.path = some part ∧ inner.kind.Violates part issue.kind) ∨
      issue.kind = .missingRequired ∧
        ∃ path inner entries key, Reaches validator value path inner (.object entries) ∧
          value.at? path = some (.object entries) ∧ key ∉ Entries.names entries ∧
          issue.path = path.key key := by
  intro issue member
  have reported : issue ∈ issues (validator.validate value) := by
    rw [refused]
    exact member
  rcases reports_of_mem sound formed reported with ⟨path, inner, part, own, reaches, reports, rfl⟩
  cases reports with
  | violation violates =>
      have same : path ++ FieldPath.root = path := List.append_nil path
      rw [Issue.under, same]
      exact .inl ⟨_, part, reaches, reaches.at?, violates⟩
  | missing declared required constrained absent =>
      exact .inr ⟨rfl, path, _, _, _, reaches, reaches.at?, absent, rfl⟩

/-- A wrong element, a missing member and an undeclared one. -/
theorem issues_located_wrong_and_missing :
    let whole : Validator := .ofKind <| .object
      ⟨[("a", ⟨.ofKind (.array ⟨some (.ofKind .boolean), none, none⟩), false⟩),
        ("b", ⟨.ofKind .boolean, false⟩)], .strict⟩
    let value : Json := .object [("a", .array [.bool true, .null]), ("c", .null)]
    ∃ wrong missing undeclared, whole.validate value = .error [wrong, missing, undeclared] ∧
      (∃ inner part, value.at? wrong.path = some part ∧
        ValidatorKind.Violates inner part wrong.kind) ∧
      ∃ path entries key, value.at? path = some (.object entries) ∧
        key ∉ Entries.names entries ∧ missing.path = path.key key := by
  intro whole value
  have sound : whole.WellFormed := by
    simp [whole, WellFormed, ofKind, everywhere_iff, ValidatorKind.Sound, ValidatorKind.children,
      Entries.distinct_nil]
  have formed : value.WellFormed := by
    simp [value, Entries.distinct_nil]
  let wrong : Issue := ⟨[.key "a", .index 1], .invalidType "boolean" "null"⟩
  let missing : Issue := ⟨[.key "b"], .missingRequired⟩
  let undeclared : Issue := ⟨.root, .unrecognizedKey "c"⟩
  have located :=
    issues_located whole sound value formed [wrong, missing, undeclared] rfl
  simp only [List.forall_mem_cons] at located
  rcases located with ⟨ofWrong, ofMissing, _⟩
  refine ⟨wrong, missing, undeclared, rfl, ?_, ?_⟩
  · rcases ofWrong with ⟨inner, part, _, present, violates⟩ | ⟨other, _⟩
    · exact ⟨inner.kind, part, present, violates⟩
    · cases other
  · rcases ofMissing with
      ⟨_, _, _, _, violates⟩ | ⟨_, path, _, entries, key, _, present, absent, same⟩
    · exact absurd violates not_violates_missingRequired
    · exact ⟨path, entries, key, present, absent, same⟩

end Validator

end ToolGate
