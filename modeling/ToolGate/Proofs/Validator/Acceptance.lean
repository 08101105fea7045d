import ToolGate.Proofs.Validator.Frame

/-!
# What it means to be accepted

For each kind this module says exactly which values are accepted and with
which output, in terms of the validators inside the kind.  An object is the
only kind whose output is assembled from two sources, the fields and the
undeclared members; its output is described as a finite map.
-/

namespace ToolGate

namespace Verdict

theorem atRoot_eq_nil_iff {kinds : List IssueKind} : atRoot kinds = [] ↔ kinds = [] := by
  simp [atRoot]

theorem issues_eq_nil_iff {verdict : Verdict} (proper : verdict ≠ .error []) :
    issues verdict = [] ↔ ∃ output, verdict = .ok output := by
  cases verdict with
  | ok output => simp
  | error found =>
      have nonempty : found ≠ [] := fun none => proper (none ▸ rfl)
      simp [nonempty]

end Verdict

/-- The kinds that give back what they accept. -/
def ValidatorKind.isVerbatim : ValidatorKind → Bool
  | .string _ | .number _ | .integer _ | .boolean | .null | .unknown => true
  | .array ⟨items, _, _⟩ => items.isNone
  | _ => false

namespace Validator

open Verdict

variable {description : String} {value output : Json}

/-- A value is accepted if there is an output for it. -/
theorem accepts_iff {validator : Validator} :
    validator.accepts value = true ↔ ∃ output, validator.validate value = .ok output := by
  rw [accepts, check_eq_record]
  cases result : validator.validate value with
  | ok output => simp
  | error found => simp [record]

theorem validate_issues_eq_nil_iff {validator : Validator} :
    issues (validator.validate value) = [] ↔ ∃ output, validator.validate value = .ok output :=
  issues_eq_nil_iff (validator.validate_ne_error_nil value)

theorem validate_string_ok {rules : StringRules} :
    validate ⟨.string rules, description⟩ value = .ok output ↔
      ∃ text, value = .string text ∧ rules.violations text = [] ∧ output = value := by
  rw [validate_eq_judge]
  cases value <;> simp [ValidatorKind.judge, atRoot_eq_nil_iff, refuseType, refuse]

theorem validate_number_ok {rules : NumberRules} :
    validate ⟨.number rules, description⟩ value = .ok output ↔
      ∃ n, value = .number n ∧ rules.violations n.toBinary64 = [] ∧ output = value := by
  rw [validate_eq_judge]
  cases value <;> simp [ValidatorKind.judge, atRoot_eq_nil_iff, refuseType, refuse]

theorem validate_integer_ok {rules : NumberRules} :
    validate ⟨.integer rules, description⟩ value = .ok output ↔
      ∃ n, value = .number n ∧ n.toBinary64.isWhole = true ∧
        rules.violations n.toBinary64 = [] ∧ output = value := by
  rw [validate_eq_judge]
  cases value <;>
    simp [ValidatorKind.judge, atRoot_eq_nil_iff, refuseType, refuse, and_assoc]

theorem validate_boolean_ok :
    validate ⟨.boolean, description⟩ value = .ok output ↔
      ∃ truth, value = .bool truth ∧ output = value := by
  rw [validate_eq_judge]
  cases value <;> simp [ValidatorKind.judge, refuseType, refuse, eq_comm]

theorem validate_null_ok :
    validate ⟨.null, description⟩ value = .ok output ↔ value = .null ∧ output = value := by
  rw [validate_eq_judge]
  cases value <;> simp [ValidatorKind.judge, refuseType, refuse, eq_comm]

theorem validate_unknown_ok :
    validate ⟨.unknown, description⟩ value = .ok output ↔ output = value := by
  rw [validate_eq_judge]
  simp [ValidatorKind.judge, eq_comm]

theorem validate_literal_ok {expected : Json} :
    validate ⟨.literal expected, description⟩ value = .ok output ↔
      expected.sameValue value = true ∧ output = expected := by
  rw [validate_eq_judge]
  by_cases same : expected.sameValue value = true <;>
    simp [ValidatorKind.judge, same, refuse, eq_comm]

/-- An array without a validator of elements is accepted for its size. -/
theorem validate_array_none_ok {minItems maxItems : Option UInt64} :
    validate ⟨.array ⟨none, minItems, maxItems⟩, description⟩ value = .ok output ↔
      ∃ elements, value = .array elements ∧
        sizeViolations minItems maxItems elements.length = [] ∧ output = value := by
  rw [validate_eq_judge]
  cases value <;>
    simp [ValidatorKind.judge, ValidatorKind.itemsIssues, ValidatorKind.itemsOutputs,
      atRoot_eq_nil_iff, refuseType, refuse]

/-- An array is accepted if its size is and every element is. -/
theorem validate_array_some_ok {items : Validator} {minItems maxItems : Option UInt64} :
    validate ⟨.array ⟨some items, minItems, maxItems⟩, description⟩ value = .ok output ↔
      ∃ elements results, value = .array elements ∧
        sizeViolations minItems maxItems elements.length = [] ∧
        List.Forall₂ (fun element result => items.validate element = .ok result)
          elements results ∧
        output = .array results := by
  rw [validate_eq_judge]
  cases value with
  | array elements =>
      simp only [ValidatorKind.judge, ValidatorKind.itemsIssues, ValidatorKind.itemsOutputs,
        settle_eq_ok_iff, List.append_eq_nil_iff, atRoot_eq_nil_iff,
        issuesBelow_indexed_eq_nil_iff, List.forall_mem_map,
        forall₂_ok_iff items.validate_ne_error_nil, Json.array.injEq]
      constructor
      · rintro ⟨⟨sized, clean⟩, rfl⟩
        exact ⟨elements, _, rfl, sized, ⟨clean, rfl⟩, rfl⟩
      · rintro ⟨_, _, rfl, sized, ⟨clean, rfl⟩, rfl⟩
        exact ⟨⟨sized, clean⟩, rfl⟩
  | _ => simp [ValidatorKind.judge, refuseType, refuse]

/-- A tuple accepts arrays with one element for each slot. -/
theorem validate_tuple_ok {slots : List Validator} :
    validate ⟨.tuple slots, description⟩ value = .ok output ↔
      ∃ elements results, value = .array elements ∧ elements.length = slots.length ∧
        List.Forall₂ (fun part result => part.1.validate part.2 = .ok result)
          (slots.zip elements) results ∧
        output = .array results := by
  rw [validate_eq_judge]
  cases value with
  | array elements =>
      have zipped : slots.zipWith validate elements =
          (slots.zip elements).map fun part => part.1.validate part.2 := by
        rw [List.map_zip_eq_zipWith]
        rfl
      have proper : ∀ part : Validator × Json, part.1.validate part.2 ≠ .error [] :=
        fun part => part.1.validate_ne_error_nil part.2
      by_cases arity : elements.length = slots.length
      · simp only [ValidatorKind.judge, arity, zipped, settle_eq_ok_iff,
          issuesBelow_indexed_eq_nil_iff, List.forall_mem_map, forall₂_ok_iff proper,
          Json.array.injEq, ne_eq, not_true_eq_false, ↓reduceIte]
        constructor
        · rintro ⟨clean, rfl⟩
          exact ⟨elements, _, rfl, arity, ⟨clean, rfl⟩, rfl⟩
        · rintro ⟨_, _, rfl, _, ⟨clean, rfl⟩, rfl⟩
          exact ⟨clean, rfl⟩
      · simp only [ValidatorKind.judge, arity, ne_eq, not_false_eq_true, ↓reduceIte, refuse,
          reduceCtorEq, Json.array.injEq, false_iff]
        rintro ⟨_, _, rfl, same, _⟩
        exact arity same
  | _ => simp [ValidatorKind.judge, refuseType, refuse]

/-- A record accepts objects whose members are all accepted, and keeps their keys. -/
theorem validate_record_ok {values : Validator} :
    validate ⟨.record values, description⟩ value = .ok output ↔
      ∃ entries results, value = .object entries ∧
        List.Forall₂ (fun entry result =>
          result.1 = entry.1 ∧ values.validate entry.2 = .ok result.2) entries results ∧
        output = .object results := by
  rw [validate_eq_judge]
  cases value with
  | object entries =>
      simp only [ValidatorKind.judge, settle_eq_ok_iff, issuesBelow_keyed_eq_nil_iff,
        List.forall_mem_map, forall₂_keyed_ok_iff values.validate_ne_error_nil, Json.object.injEq]
      constructor
      · rintro ⟨clean, rfl⟩
        exact ⟨entries, _, rfl, ⟨clean, rfl⟩, rfl⟩
      · rintro ⟨_, _, rfl, ⟨clean, rfl⟩, rfl⟩
        exact ⟨clean, rfl⟩
  | _ => simp [ValidatorKind.judge, refuseType, refuse]

/-- A union gives the first output of a branch. -/
theorem validate_union_ok {branches : List Validator} :
    validate ⟨.union branches, description⟩ value = .ok output ↔
      branches.findSome? (fun branch => output? (branch.validate value)) = some output := by
  rw [validate_eq_judge]
  simp only [ValidatorKind.judge]
  cases branches.findSome? fun branch => output? (branch.validate value) <;> simp [refuse]

/-- An intersection merges the outputs of all its branches. -/
theorem validate_intersection_ok {branches : List Validator} :
    validate ⟨.intersection branches, description⟩ value = .ok output ↔
      ∃ results, List.Forall₂ (fun branch result => branch.validate value = .ok result)
        branches results ∧ merged value results = .ok output := by
  have proper : ∀ branch : Validator, branch.validate value ≠ .error [] :=
    fun branch => branch.validate_ne_error_nil value
  rw [validate_eq_judge]
  simp only [ValidatorKind.judge, forall₂_ok_iff proper, List.isEmpty_iff,
    List.flatMap_eq_nil_iff, List.forall_mem_map]
  by_cases clean : ∀ branch ∈ branches, issues (branch.validate value) = []
  · rw [if_pos clean]
    constructor
    · exact fun positive => ⟨_, ⟨clean, rfl⟩, positive⟩
    · rintro ⟨_, ⟨_, rfl⟩, positive⟩
      exact positive
  · simp only [clean, ↓reduceIte, reduceCtorEq, false_and, exists_const]

/-- If a branch refuses, an intersection reports the issues of all its branches. -/
theorem validate_intersection_error {branches : List Validator} {branch : Validator}
    (member : branch ∈ branches) (refused : issues (branch.validate value) ≠ []) :
    validate ⟨.intersection branches, description⟩ value =
      .error (branches.flatMap fun branch => issues (branch.validate value)) := by
  have found : (branches.flatMap fun branch => issues (branch.validate value)) ≠ [] := by
    intro none
    exact refused (List.flatMap_eq_nil_iff.mp none branch member)
  rw [validate_eq_judge]
  simp only [ValidatorKind.judge, List.flatMap_map, List.isEmpty_iff, found, ↓reduceIte]

/-- A nullable validator accepts `null` beside what it wraps. -/
theorem validate_nullable_ok {inner : Validator} :
    validate ⟨.nullable inner, description⟩ value = .ok output ↔
      value = .null ∧ output = .null ∨ value ≠ .null ∧ inner.validate value = .ok output := by
  rw [validate_eq_judge]
  cases value <;> simp [ValidatorKind.judge, eq_comm]

theorem output_eq_of_verbatim {kind : ValidatorKind} (verbatim : kind.isVerbatim = true)
    (accepted : validate ⟨kind, description⟩ value = .ok output) : output = value := by
  cases kind with
  | string rules =>
      rcases validate_string_ok.mp accepted with ⟨_, _, _, same⟩
      exact same
  | number rules =>
      rcases validate_number_ok.mp accepted with ⟨_, _, _, same⟩
      exact same
  | integer rules =>
      rcases validate_integer_ok.mp accepted with ⟨_, _, _, _, same⟩
      exact same
  | boolean =>
      rcases validate_boolean_ok.mp accepted with ⟨_, _, same⟩
      exact same
  | null => exact (validate_null_ok.mp accepted).2
  | unknown => exact validate_unknown_ok.mp accepted
  | array rules =>
      rcases rules with ⟨items, minItems, maxItems⟩
      obtain rfl := Option.isNone_iff_eq_none.mp verbatim
      rcases validate_array_none_ok.mp accepted with ⟨_, _, _, same⟩
      exact same
  | _ => cases verbatim

/-- Some branch gives the output of a union. -/
theorem exists_branch_of_union_ok {branches : List Validator}
    (accepted : validate ⟨.union branches, description⟩ value = .ok output) :
    ∃ branch ∈ branches, branch.validate value = .ok output := by
  obtain ⟨branch, member, found⟩ :=
    List.exists_of_findSome?_eq_some (validate_union_ok.mp accepted)
  exact ⟨branch, member, output?_eq_some_iff.mp found⟩

/-- A union accepts what some branch accepts. -/
theorem accepts_union_iff {branches : List Validator} :
    accepts ⟨.union branches, description⟩ value = true ↔
      ∃ branch ∈ branches, branch.accepts value = true := by
  simp only [accepts_iff]
  constructor
  · rintro ⟨output, accepted⟩
    rcases exists_branch_of_union_ok accepted with ⟨branch, member, found⟩
    exact ⟨branch, member, output, found⟩
  · rintro ⟨branch, member, output, accepted⟩
    have some : (branches.findSome? fun branch => output? (branch.validate value)).isSome := by
      rw [List.isSome_findSome?, List.any_eq_true]
      exact ⟨branch, member, by rw [accepted]; rfl⟩
    rcases Option.isSome_iff_exists.mp some with ⟨first, found⟩
    exact ⟨first, validate_union_ok.mpr found⟩

end Validator

namespace ValidatorKind

open Verdict Validator

/-- The field has nothing to say against the members of an object. -/
structure FieldAccepts (entries : List (String × Json)) (entry : String × Field) : Prop where
  /-- The member of the field is accepted if it is there. -/
  present : ∀ value, entries.lookup entry.1 = some value →
    ∃ output, entry.2.validator.validate value = .ok output
  /-- The member may be missing if it is not there. -/
  absent : entries.lookup entry.1 = none →
    entry.2.optional = true ∨ entry.2.validator.allowsAbsent = true

/-- The members of the output for an object, the declared ones first. -/
def objectOutput (fields : List (String × Field)) (policy : UnknownKeys)
    (entries : List (String × Json)) : List (String × Json) :=
  keyedOutputs (fields.filterMap (fieldVerdict validate entries)) ++
    undeclaredOutput policy (entries.filter fun entry => !Entries.contains fields entry.1)

theorem fieldVerdict_clean_iff {entries : List (String × Json)} {entry : String × Field} :
    (∀ part, fieldVerdict validate entries entry = some part → issues part.2 = []) ↔
      FieldAccepts entries entry := by
  cases found : entries.lookup entry.1 with
  | some value =>
      simp only [fieldVerdict, found, Option.some.injEq, forall_eq', validate_issues_eq_nil_iff]
      constructor
      · rintro accepted
        exact ⟨by simpa [found] using accepted, by simp [found]⟩
      · intro accepts
        exact accepts.present value found
  | none =>
      by_cases admitted : (entry.2.optional || entry.2.validator.allowsAbsent) = true
      · simp only [fieldVerdict, found, admitted, ↓reduceIte, reduceCtorEq, false_implies,
          implies_true, true_iff]
        exact ⟨by simp [found], fun _ => by simpa using admitted⟩
      · simp only [fieldVerdict, found, admitted, Bool.false_eq_true, ↓reduceIte,
          Option.some.injEq, forall_eq', refuse, issues_error, List.cons_ne_nil, false_iff]
        intro accepts
        exact admitted (by simpa using accepts.absent found)

theorem undeclaredIssues_eq_nil_iff {policy : UnknownKeys} {extra : List (String × Json)} :
    undeclaredIssues policy extra = [] ↔ (policy = .strict → extra = []) := by
  cases policy <;> simp [undeclaredIssues, atRoot]

/-- An object is accepted if its fields accept and a strict policy finds no further member. -/
theorem validate_object_ok {fields : List (String × Field)} {policy : UnknownKeys}
    {description : String} {value output : Json} :
    validate ⟨.object ⟨fields, policy⟩, description⟩ value = .ok output ↔
      ∃ entries, value = .object entries ∧
        (∀ entry ∈ fields, FieldAccepts entries entry) ∧
        (policy = .strict → ∀ entry ∈ entries, entry.1 ∈ Entries.names fields) ∧
        output = .object (objectOutput fields policy entries) := by
  rw [validate_eq_judge]
  cases value with
  | object entries =>
      have clean : (∀ part ∈ fields.filterMap (fieldVerdict validate entries),
          issues part.2 = []) ↔ ∀ entry ∈ fields, FieldAccepts entries entry := by
        simp only [List.mem_filterMap, ← fieldVerdict_clean_iff]
        constructor
        · intro clean entry member part verdict
          exact clean part ⟨entry, member, verdict⟩
        · rintro clean part ⟨entry, member, verdict⟩
          exact clean entry member part verdict
      have declared : (entries.filter fun entry => !Entries.contains fields entry.1) = [] ↔
          ∀ entry ∈ entries, entry.1 ∈ Entries.names fields := by
        simp [List.filter_eq_nil_iff]
      simp only [judge, settle_eq_ok_iff, List.append_eq_nil_iff, issuesBelow_keyed_eq_nil_iff,
        clean, undeclaredIssues_eq_nil_iff, declared, Json.object.injEq, exists_eq_left',
        and_assoc, objectOutput]
  | _ => simp [judge, refuseType, refuse]

theorem fieldVerdict_name {entries : List (String × Json)} {entry : String × Field}
    {part : String × Verdict} (verdict : fieldVerdict validate entries entry = some part) :
    part.1 = entry.1 := by
  unfold fieldVerdict at verdict
  split at verdict
  · rw [← Option.some.inj verdict]
  · split at verdict
    · cases verdict
    · rw [← Option.some.inj verdict]

theorem names_declared_subset (fields : List (String × Field)) (entries : List (String × Json)) :
    (Entries.names (keyedOutputs (fields.filterMap (fieldVerdict validate entries)))).Sublist
      (Entries.names fields) := by
  induction fields with
  | nil => exact List.Sublist.refl _
  | cons entry fields ih =>
      rw [List.filterMap_cons, Entries.names_cons]
      cases verdict : fieldVerdict validate entries entry with
      | none => exact ih.cons _
      | some part =>
          have same : part.1 = entry.1 := fieldVerdict_name verdict
          simp only [keyedOutputs_cons, Entries.names_append]
          cases output? part.2 with
          | none => exact ih.cons _
          | some output => simpa [same] using ih

/-- The members of the output have distinct names. -/
theorem distinct_objectOutput {fields : List (String × Field)} (policy : UnknownKeys)
    {entries : List (String × Json)} (distinctFields : Entries.Distinct fields)
    (distinctEntries : Entries.Distinct entries) :
    Entries.Distinct (objectOutput fields policy entries) := by
  have declared := names_declared_subset fields entries
  refine Entries.distinct_append.mpr ⟨declared.nodup distinctFields, ?_, ?_⟩
  · cases policy with
    | passthrough => exact distinctEntries.filter _
    | strip => exact Entries.distinct_nil
    | strict => exact Entries.distinct_nil
  · intro name listed extra
    cases policy with
    | passthrough =>
        rcases Entries.mem_names_iff.mp extra with ⟨value, member⟩
        have undeclared := (List.mem_filter.mp member).2
        rw [Bool.not_eq_true', Bool.eq_false_iff, ne_eq, Entries.contains_iff] at undeclared
        exact undeclared (declared.subset listed)
    | strip => cases extra
    | strict => cases extra

theorem lookup_declared {fields : List (String × Field)} (entries : List (String × Json))
    (distinctFields : Entries.Distinct fields) (name : String) :
    (keyedOutputs (fields.filterMap (fieldVerdict validate entries))).lookup name =
      (fields.lookup name).bind fun field =>
        (entries.lookup name).bind fun value => output? (field.validator.validate value) := by
  induction fields with
  | nil => rfl
  | cons entry fields ih =>
      rcases entry with ⟨fieldName, field⟩
      rcases Entries.distinct_cons.mp distinctFields with ⟨absent, distinctRest⟩
      rw [List.filterMap_cons]
      by_cases same : name = fieldName
      · subst same
        have rest : (keyedOutputs (fields.filterMap (fieldVerdict validate entries))).lookup name =
            none := by
          rw [Entries.lookup_eq_none_iff]
          intro listed
          exact absent ((names_declared_subset fields entries).subset listed)
        rw [List.lookup_cons_self, Option.bind_some]
        cases found : entries.lookup name with
        | some value =>
            simp only [fieldVerdict, found, keyedOutputs_cons, Option.bind_some]
            cases output? (field.validator.validate value) with
            | some output => simp
            | none => simpa using rest
        | none =>
            by_cases admitted : (field.optional || field.validator.allowsAbsent) = true
            · simpa [fieldVerdict, found, admitted] using rest
            · simpa [fieldVerdict, found, admitted, refuse] using rest
      · have different : (name == fieldName) = false := beq_eq_false_iff_ne.mpr same
        rw [List.lookup_cons, different, ← ih distinctRest]
        cases verdict : fieldVerdict validate entries (fieldName, field) with
        | none => rfl
        | some part =>
            have partName := fieldVerdict_name verdict
            cases output : output? part.2 with
            | none => simp [output]
            | some output => simp [output, partName, List.lookup_cons, different]

/-- What the output has under a name: what the field gives, or what is passed on. -/
theorem lookup_objectOutput {fields : List (String × Field)} (policy : UnknownKeys)
    (entries : List (String × Json)) (distinctFields : Entries.Distinct fields) (name : String) :
    (objectOutput fields policy entries).lookup name =
      match fields.lookup name with
      | some field =>
          (entries.lookup name).bind fun value => output? (field.validator.validate value)
      | none => if policy = .passthrough then entries.lookup name else none := by
  have extra : (entries.filter fun entry => !Entries.contains fields entry.1).lookup name =
      if name ∈ Entries.names fields then none else entries.lookup name := by
    rw [Entries.lookup_filter_names fun key => !Entries.contains fields key]
    by_cases listed : name ∈ Entries.names fields
    · simp [listed, Entries.contains_iff.mpr listed]
    · have unlisted : Entries.contains fields name = false := by
        rw [Bool.eq_false_iff, ne_eq, Entries.contains_iff]
        exact listed
      simp [listed, unlisted]
  rw [objectOutput, List.lookup_append, lookup_declared entries distinctFields]
  cases found : fields.lookup name with
  | some field =>
      have listed : name ∈ Entries.names fields := Entries.mem_names_of_lookup found
      cases policy <;> simp [undeclaredOutput, extra, listed]
  | none =>
      have unlisted : name ∉ Entries.names fields := Entries.lookup_eq_none_iff.mp found
      cases policy <;> simp [undeclaredOutput, extra, unlisted]

end ValidatorKind

namespace Validator

open Verdict ValidatorKind

variable {description : String} {value : Json}

/-- The description has no influence on what is accepted. -/
theorem accepts_congr_description (kind : ValidatorKind) (first second : String) (value : Json) :
    accepts ⟨kind, first⟩ value = accepts ⟨kind, second⟩ value := by
  simp only [accepts, check]

theorem accepts_string_iff {rules : StringRules} :
    accepts ⟨.string rules, description⟩ value = true ↔
      ∃ text, value = .string text ∧ rules.violations text = [] := by
  simp [accepts_iff, validate_string_ok]

theorem accepts_number_iff {rules : NumberRules} :
    accepts ⟨.number rules, description⟩ value = true ↔
      ∃ n, value = .number n ∧ rules.violations n.toBinary64 = [] := by
  simp [accepts_iff, validate_number_ok]

theorem accepts_integer_iff {rules : NumberRules} :
    accepts ⟨.integer rules, description⟩ value = true ↔
      ∃ n, value = .number n ∧ n.toBinary64.isWhole = true ∧
        rules.violations n.toBinary64 = [] := by
  simp [accepts_iff, validate_integer_ok]

theorem accepts_boolean_iff :
    accepts ⟨.boolean, description⟩ value = true ↔ ∃ truth, value = .bool truth := by
  simp [accepts_iff, validate_boolean_ok]

theorem accepts_null_iff : accepts ⟨.null, description⟩ value = true ↔ value = .null := by
  simp [accepts_iff, validate_null_ok]

theorem accepts_unknown : accepts ⟨.unknown, description⟩ value = true := by
  simp [accepts_iff, validate_unknown_ok]

theorem accepts_literal_iff {expected : Json} :
    accepts ⟨.literal expected, description⟩ value = true ↔ expected.sameValue value = true := by
  simp [accepts_iff, validate_literal_ok]

theorem accepts_array_none_iff {minItems maxItems : Option UInt64} :
    accepts ⟨.array ⟨none, minItems, maxItems⟩, description⟩ value = true ↔
      ∃ elements, value = .array elements ∧
        sizeViolations minItems maxItems elements.length = [] := by
  simp [accepts_iff, validate_array_none_ok]

theorem accepts_array_some_iff {items : Validator} {minItems maxItems : Option UInt64} :
    accepts ⟨.array ⟨some items, minItems, maxItems⟩, description⟩ value = true ↔
      ∃ elements, value = .array elements ∧
        sizeViolations minItems maxItems elements.length = [] ∧
        ∀ element ∈ elements, items.accepts element = true := by
  simp only [accepts_iff, validate_array_some_ok, ← List.Forall₂.exists_iff]
  constructor
  · rintro ⟨_, elements, results, rfl, sized, correspond, _⟩
    exact ⟨elements, rfl, sized, results, correspond⟩
  · rintro ⟨elements, rfl, sized, results, correspond⟩
    exact ⟨_, elements, results, rfl, sized, correspond, rfl⟩

theorem accepts_tuple_iff {slots : List Validator} :
    accepts ⟨.tuple slots, description⟩ value = true ↔
      ∃ elements, value = .array elements ∧ elements.length = slots.length ∧
        ∀ pair ∈ slots.zip elements, pair.1.accepts pair.2 = true := by
  simp only [accepts_iff, validate_tuple_ok, ← List.Forall₂.exists_iff]
  constructor
  · rintro ⟨_, elements, results, rfl, arity, correspond, _⟩
    exact ⟨elements, rfl, arity, results, correspond⟩
  · rintro ⟨elements, rfl, arity, results, correspond⟩
    exact ⟨_, elements, results, rfl, arity, correspond, rfl⟩

theorem accepts_record_iff {values : Validator} :
    accepts ⟨.record values, description⟩ value = true ↔
      ∃ entries, value = .object entries ∧ ∀ entry ∈ entries, values.accepts entry.2 = true := by
  simp only [accepts_iff, validate_record_ok]
  constructor
  · rintro ⟨_, entries, results, rfl, correspond, _⟩
    refine ⟨entries, rfl, ?_⟩
    intro entry member
    rcases correspond.exists_of_mem_left member with ⟨result, _, _, accepted⟩
    exact ⟨result.2, accepted⟩
  · rintro ⟨entries, rfl, accepted⟩
    have results : ∀ entry ∈ entries, ∃ result : String × Json,
        result.1 = entry.1 ∧ values.validate entry.2 = .ok result.2 := by
      intro entry member
      rcases accepted entry member with ⟨output, isOutput⟩
      exact ⟨(entry.1, output), rfl, isOutput⟩
    rcases List.Forall₂.exists_of_forall results with ⟨results, correspond⟩
    exact ⟨_, entries, results, rfl, correspond, rfl⟩

theorem accepts_object_iff {fields : List (String × Field)} {policy : UnknownKeys} :
    accepts ⟨.object ⟨fields, policy⟩, description⟩ value = true ↔
      ∃ entries, value = .object entries ∧
        (∀ entry ∈ fields,
          (∀ member, entries.lookup entry.1 = some member →
            entry.2.validator.accepts member = true) ∧
          (entries.lookup entry.1 = none →
            entry.2.optional = true ∨ entry.2.validator.allowsAbsent = true)) ∧
        (policy = .strict → ∀ entry ∈ entries, entry.1 ∈ Entries.names fields) := by
  simp only [accepts_iff, validate_object_ok]
  constructor
  · rintro ⟨_, entries, rfl, accepted, declared, _⟩
    exact ⟨entries, rfl, fun entry member =>
      ⟨(accepted entry member).present, (accepted entry member).absent⟩, declared⟩
  · rintro ⟨entries, rfl, accepted, declared⟩
    exact ⟨_, entries, rfl, fun entry member =>
      ⟨(accepted entry member).1, (accepted entry member).2⟩, declared, rfl⟩

theorem accepts_nullable_iff {inner : Validator} :
    accepts ⟨.nullable inner, description⟩ value = true ↔
      value = .null ∨ inner.accepts value = true := by
  simp only [accepts_iff, validate_nullable_ok]
  constructor
  · rintro ⟨output, ⟨isNull, _⟩ | ⟨_, accepted⟩⟩
    · exact .inl isNull
    · exact .inr ⟨output, accepted⟩
  · rintro (isNull | ⟨output, accepted⟩)
    · exact ⟨.null, .inl ⟨isNull, rfl⟩⟩
    · by_cases isNull : value = .null
      · exact ⟨.null, .inl ⟨isNull, rfl⟩⟩
      · exact ⟨output, .inr ⟨isNull, accepted⟩⟩

end Validator

end ToolGate
