import ToolGate.Proofs.Json.Arrangement
import ToolGate.Proofs.Validator.Congruence
import ToolGate.Proofs.Validator.Violations

/-!
# Equal values are indistinguishable

No validator tells values apart that are equal by value: it accepts both or
neither, and gives them equal outputs or the same issues.  The issues come in
the order of the members they are about, so equal values have permutations of
one list, and the same list if their members have the same order.
-/

namespace ToolGate

open Json Verdict ValidatorKind

/-- The issues about undeclared members depend on the names alone. -/
theorem Verdict.undeclaredIssues_eq (policy : UnknownKeys) (extra : List (String × Json)) :
    undeclaredIssues policy extra =
      match policy with
      | .strict => (Entries.names extra).map fun name => ⟨.root, .unrecognizedKey name⟩
      | _ => [] := by
  cases policy with
  | strict => simp [undeclaredIssues, atRoot, Entries.names]
  | strip => rfl
  | passthrough => rfl

namespace Validator

variable {order : MemberOrder} {left right : Json} {description : String}

/-- Values that are the same up to an order have the same issues up to it. -/
def ReportsAlike (order : MemberOrder) (validator : Validator) : Prop :=
  ∀ {left right : Json}, left.WellFormed → right.WellFormed → SameUpTo order left right →
    order.Arranges (issues (validator.validate left)) (issues (validator.validate right))

section ReportsAlike

/-- Values of one type that a kind is not about are refused alike. -/
theorem arranges_of_other_type {kind : ValidatorKind} {expected actual : String}
    (types : kind.types? = some (expected, actual)) (same : left.typeName = right.typeName)
    (other : right.typeName ≠ actual) :
    order.Arranges (issues (validate ⟨kind, description⟩ left))
      (issues (validate ⟨kind, description⟩ right)) := by
  have otherLeft : left.typeName ≠ actual := same ▸ other
  rw [validate_of_other_type types otherLeft, validate_of_other_type types other, refuseType,
    refuseType, same]

theorem reportsAlike_string (rules : StringRules) :
    ReportsAlike order ⟨.string rules, description⟩ := by
  intro left right _ _ same
  cases same with
  | string text => rfl
  | _ => exact arranges_of_other_type rfl rfl (by simp [typeName])

theorem reportsAlike_boolean : ReportsAlike order ⟨.boolean, description⟩ := by
  intro left right _ _ same
  cases same with
  | bool value => rfl
  | _ => exact arranges_of_other_type rfl rfl (by simp [typeName])

theorem reportsAlike_null : ReportsAlike order ⟨.null, description⟩ := by
  intro left right _ _ same
  cases same with
  | null => rfl
  | _ => exact arranges_of_other_type rfl rfl (by simp [typeName])

theorem reportsAlike_number (rules : NumberRules) :
    ReportsAlike order ⟨.number rules, description⟩ := by
  intro left right _ _ same
  cases same with
  | number same =>
      rw [JsonNumber.sameValue_iff] at same
      rw [validate_eq_judge, validate_eq_judge]
      simp only [judge, issues_settle, rules.violations_congr same]
      rfl
  | _ => exact arranges_of_other_type rfl rfl (by simp [typeName])

theorem reportsAlike_integer (rules : NumberRules) :
    ReportsAlike order ⟨.integer rules, description⟩ := by
  intro left right _ _ same
  cases same with
  | number same =>
      rw [JsonNumber.sameValue_iff] at same
      rw [validate_eq_judge, validate_eq_judge]
      simp only [judge, issues_settle, rules.violations_congr same, Binary64.isWhole_congr same]
      rfl
  | _ => exact arranges_of_other_type rfl rfl (by simp [typeName])

/-- A literal equals both values or neither. -/
theorem reportsAlike_literal {expected : Json} (formed : expected.WellFormed) :
    ReportsAlike order ⟨.literal expected, description⟩ := by
  intro left right formedLeft formedRight same
  have equivalent := same.equivalent formedLeft formedRight
  have equivalence := JsonNumber.sameValue_equivalence
  have both : expected.sameValue left = expected.sameValue right := by
    rw [Bool.eq_iff_iff, sameValue, sameValue,
      equalBy_iff_equivalent equivalence formed formedLeft,
      equalBy_iff_equivalent equivalence formed formedRight]
    constructor
    · exact fun equal => equal.trans equivalence equivalent
    · exact fun equal => equal.trans equivalence equivalent.symm
  rw [validate_eq_judge, validate_eq_judge]
  simp only [judge, both]
  cases expected.sameValue right <;> rfl

theorem reportsAlike_array {items : Option Validator} {minItems maxItems : Option UInt64}
    (inside : ∀ child ∈ items, child.ReportsAlike order) :
    ReportsAlike order ⟨.array ⟨items, minItems, maxItems⟩, description⟩ := by
  intro left right formedLeft formedRight same
  cases same with
  | @array lefts rights elements =>
      rw [wellFormed_array] at formedLeft formedRight
      rw [validate_array_issues, validate_array_issues, elements.length_eq]
      refine MemberOrder.Arranges.append (.refl _) ?_
      cases items with
      | none => rfl
      | some child =>
          simp only [Option.toList_some, List.flatMap_singleton]
          apply MemberOrder.arranges_flatMap
          apply (elements.zipIdx 0).imp_of_mem
          rintro ⟨element, index⟩ member ⟨other, _⟩ partner ⟨alike, rfl⟩
          have inLeft : element ∈ lefts := List.fst_mem_of_mem_zipIdx member
          have inRight : other ∈ rights := List.fst_mem_of_mem_zipIdx partner
          exact (inside child rfl (formedLeft _ inLeft) (formedRight _ inRight) alike).map _
  | _ => exact arranges_of_other_type rfl rfl (by simp [typeName])

theorem reportsAlike_tuple {slots : List Validator}
    (inside : ∀ slot ∈ slots, slot.ReportsAlike order) :
    ReportsAlike order ⟨.tuple slots, description⟩ := by
  intro left right formedLeft formedRight same
  cases same with
  | @array lefts rights elements =>
      rw [wellFormed_array] at formedLeft formedRight
      by_cases arity : lefts.length = slots.length
      · have arityRight : rights.length = slots.length := elements.length_eq ▸ arity
        rw [validate_tuple_issues arity, validate_tuple_issues arityRight]
        have slotwise : List.Forall₂ (fun slot other => slot = other ∧ slot ∈ slots) slots slots :=
          List.forall₂_same.mpr fun _ member => ⟨rfl, member⟩
        apply MemberOrder.arranges_flatMap
        apply ((slotwise.zip elements).zipIdx 0).imp_of_mem
        rintro ⟨⟨slot, element⟩, index⟩ member ⟨⟨_, other⟩, _⟩ partner ⟨⟨⟨rfl, listed⟩, alike⟩, rfl⟩
        have inLeft : element ∈ lefts := (List.of_mem_zip (List.fst_mem_of_mem_zipIdx member)).2
        have inRight : other ∈ rights := (List.of_mem_zip (List.fst_mem_of_mem_zipIdx partner)).2
        exact (inside slot listed (formedLeft _ inLeft) (formedRight _ inRight) alike).map _
      · have arityRight : rights.length ≠ slots.length := elements.length_eq ▸ arity
        rw [validate_eq_judge, validate_eq_judge]
        simp only [judge, arityRight, ne_eq, not_false_eq_true, ↓reduceIte, issues_refuse,
          elements.length_eq]
        rfl
  | _ => exact arranges_of_other_type rfl rfl (by simp [typeName])

/-- A field has the same to say about the members of both objects. -/
theorem arranges_fieldIssues {lefts rights : List (String × Json)} {entry : String × Field}
    (inside : entry.2.validator.ReportsAlike order) (formedLeft : (Json.object lefts).WellFormed)
    (formedRight : (Json.object rights).WellFormed)
    (same : SameUpTo order (.object lefts) (.object rights)) :
    order.Arranges (fieldIssues lefts entry) (fieldIssues rights entry) := by
  have here := same.lookup (wellFormed_object.mp formedLeft).1 entry.1
  unfold fieldIssues
  generalize foundLeft : lefts.lookup entry.1 = first at here ⊢
  generalize foundRight : rights.lookup entry.1 = second at here ⊢
  cases here with
  | none => rfl
  | some alike =>
      exact (inside (formedLeft.lookup foundLeft) (formedRight.lookup foundRight) alike).map _

theorem reportsAlike_object {fields : List (String × Field)} {policy : UnknownKeys}
    (inside : ∀ entry ∈ fields, entry.2.validator.ReportsAlike order) :
    ReportsAlike order ⟨.object ⟨fields, policy⟩, description⟩ := by
  intro left right formedLeft formedRight same
  cases same with
  | @object lefts arranged rights arranges names values =>
      have same : SameUpTo order (.object lefts) (.object rights) := .object arranges names values
      rw [validate_object_issues, validate_object_issues]
      apply MemberOrder.Arranges.append
      · apply MemberOrder.arranges_flatMap
        apply List.forall₂_same.mpr
        intro entry member
        exact arranges_fieldIssues (inside entry member) formedLeft formedRight same
      · have ofNames : ∀ entries : List (String × Json),
            Entries.names (entries.filter fun entry => !Entries.contains fields entry.1) =
              (Entries.names entries).filter fun name => !Entries.contains fields name := by
          intro entries
          rw [Entries.names, Entries.names, List.filter_map]
          rfl
        have namesArranged : order.Arranges (Entries.names lefts) (Entries.names rights) := by
          rw [← names]
          exact arranges.map Prod.fst
        rw [undeclaredIssues_eq, undeclaredIssues_eq, ofNames, ofNames]
        cases policy with
        | strict => exact (namesArranged.filter _).map _
        | strip => rfl
        | passthrough => rfl
  | _ => exact arranges_of_other_type rfl rfl (by simp [typeName])

theorem reportsAlike_record {values : Validator} (inside : values.ReportsAlike order) :
    ReportsAlike order ⟨.record values, description⟩ := by
  intro left right formedLeft formedRight same
  cases same with
  | @object lefts _ rights arranges names values =>
      have same : SameUpTo order (.object lefts) (.object rights) := .object arranges names values
      rcases same.exists_members with ⟨arranged, arranges, members⟩
      rw [validate_record_issues, validate_record_issues]
      refine (arranges.flatMap _).trans ?_
      apply MemberOrder.arranges_flatMap
      apply members.imp_of_mem
      rintro ⟨key, member⟩ listed ⟨_, other⟩ partner ⟨rfl, alike⟩
      have inLeft := arranges.perm.mem_iff.mpr listed
      exact (inside ((wellFormed_object.mp formedLeft).2 _ inLeft)
        ((wellFormed_object.mp formedRight).2 _ partner) alike).map _
  | _ => exact arranges_of_other_type rfl rfl (by simp [typeName])

theorem reportsAlike_union {branches : List Validator}
    (inside : ∀ branch ∈ branches, branch.ReportsAlike order) :
    ReportsAlike order ⟨.union branches, description⟩ := by
  intro left right formedLeft formedRight same
  have clean : ∀ branch ∈ branches,
      (issues (branch.validate left) = [] ↔ issues (branch.validate right) = []) :=
    fun branch member => (inside branch member formedLeft formedRight same).eq_nil_iff
  by_cases refused : ∀ branch ∈ branches, issues (branch.validate left) ≠ []
  · have refusedRight : ∀ branch ∈ branches, issues (branch.validate right) ≠ [] :=
      fun branch member none => refused branch member ((clean branch member).mpr none)
    rw [validate_union_issues refused, validate_union_issues refusedRight]
  · push Not at refused
    rcases refused with ⟨branch, member, none⟩
    rw [validate_union_clean member none,
      validate_union_clean member ((clean branch member).mp none)]

theorem reportsAlike_intersection {branches : List Validator}
    (sound : ∀ branch ∈ branches, branch.WellFormed)
    (inside : ∀ branch ∈ branches, branch.ReportsAlike order) :
    ReportsAlike order ⟨.intersection branches, description⟩ := by
  intro left right formedLeft formedRight same
  rw [validate_intersection_issues sound formedLeft, validate_intersection_issues sound formedRight]
  apply MemberOrder.arranges_flatMap
  apply List.forall₂_same.mpr
  exact fun branch member => inside branch member formedLeft formedRight same

theorem reportsAlike_nullable {inner : Validator} (inside : inner.ReportsAlike order) :
    ReportsAlike order ⟨.nullable inner, description⟩ := by
  intro left right formedLeft formedRight same
  by_cases isNull : left = .null
  · subst isNull
    cases same
    rfl
  · have notNull : right ≠ .null := by
      rintro rfl
      cases same
      exact isNull rfl
    rw [validate_nullable_issues isNull, validate_nullable_issues notNull]
    exact inside formedLeft formedRight same

end ReportsAlike

/-- Every validator has the same issues with equal values, in the order of their members. -/
theorem reportsAlike {validator : Validator} (sound : validator.WellFormed) :
    validator.ReportsAlike order := by
  induction validator with
  | string rules => exact reportsAlike_string rules
  | number rules => exact reportsAlike_number rules
  | integer rules => exact reportsAlike_integer rules
  | boolean => exact reportsAlike_boolean
  | null => exact reportsAlike_null
  | unknown =>
      intro left right _ _ _
      rw [validate_eq_judge, validate_eq_judge]
      rfl
  | literal expected => exact reportsAlike_literal sound.here
  | array items minItems maxItems description ih =>
      exact reportsAlike_array fun child given =>
        ih child given (sound.child (Option.mem_toList.mpr given))
  | tuple slots description ih =>
      exact reportsAlike_tuple fun slot member => ih slot member (sound.child member)
  | object fields policy description ih =>
      exact reportsAlike_object fun entry member => ih entry member (sound.field member)
  | record values description ih => exact reportsAlike_record (ih (sound.child List.mem_cons_self))
  | union branches description ih =>
      exact reportsAlike_union fun branch member => ih branch member (sound.child member)
  | intersection branches description ih =>
      exact reportsAlike_intersection (fun branch member => sound.child member)
        fun branch member => ih branch member (sound.child member)
  | nullable inner description ih =>
      exact reportsAlike_nullable (ih (sound.child List.mem_cons_self))

/-- Equal values are both accepted or both refused. -/
theorem accepts_congr {validator : Validator} (sound : validator.WellFormed)
    (formedLeft : left.WellFormed) (formedRight : right.WellFormed)
    (same : SameUpTo order left right) : validator.accepts left = validator.accepts right := by
  rw [Bool.eq_iff_iff, accepts_iff, accepts_iff, ← validate_issues_eq_nil_iff,
    ← validate_issues_eq_nil_iff]
  exact (reportsAlike sound formedLeft formedRight same).eq_nil_iff

/--
Equality by value is an equivalence on values with distinct keys, and coarser
than the equality that tells integers from floats.  No validator tells equal
values apart: it accepts both or neither, their outputs are equal, and their
issues are permutations of each other, which only the order of members can
make different.
-/
theorem equal_values_indistinguishable :
    (Equivalence fun left right : { value : Json // value.WellFormed } =>
      left.val.sameValue right.val = true) ∧
    ∀ left right : Json, left.WellFormed → right.WellFormed →
      (left.sameForm right = true → left.sameValue right = true) ∧
      (left.sameValue right = true → ∀ validator : Validator, validator.WellFormed →
        validator.accepts left = validator.accepts right ∧
        (∀ output result, validator.validate left = .ok output →
          validator.validate right = .ok result → output.sameValue result = true) ∧
        (∀ found others, validator.validate left = .error found →
          validator.validate right = .error others →
            found.Perm others ∧ (SameUpTo .kept left right → found = others))) := by
  have equivalence := JsonNumber.sameValue_equivalence
  have equal_iff : ∀ {left right : Json}, left.WellFormed → right.WellFormed →
      (left.sameValue right = true ↔ EquivalentBy JsonNumber.sameValue left right) :=
    fun formedLeft formedRight => equalBy_iff_equivalent equivalence formedLeft formedRight
  refine ⟨⟨?_, ?_, ?_⟩, ?_⟩
  · exact fun value => (equal_iff value.2 value.2).mpr (.refl equivalence value.2)
  · exact fun {x y} same => (equal_iff y.2 x.2).mpr ((equal_iff x.2 y.2).mp same).symm
  · intro x y z first second
    exact (equal_iff x.2 z.2).mpr
      (((equal_iff x.2 y.2).mp first).trans equivalence ((equal_iff y.2 z.2).mp second))
  intro left right formedLeft formedRight
  constructor
  · intro sameForm
    have forms := JsonNumber.sameForm_equivalence
    have equivalent := (equalBy_iff_equivalent forms formedLeft formedRight).mp sameForm
    exact (equal_iff formedLeft formedRight).mpr (equivalent.value forms)
  intro same validator sound
  have equivalent := (equal_iff formedLeft formedRight).mp same
  have sameMembers := equivalent.sameUpTo formedLeft formedRight
  refine ⟨accepts_congr sound formedLeft formedRight sameMembers, ?_, ?_⟩
  · intro output result accepted acceptedOther
    have formedOutput := (output_isProjectionOf sound formedLeft accepted).1
    have formedResult := (output_isProjectionOf sound formedRight acceptedOther).1
    exact (equal_iff formedOutput formedResult).mpr
      (respects equivalence sound formedLeft formedRight equivalent accepted acceptedOther)
  · intro found others refused refusedOther
    have arranges {order : MemberOrder} (same : SameUpTo order left right) :
        order.Arranges found others := by
      have both := reportsAlike sound formedLeft formedRight same
      rwa [refused, refusedOther] at both
    exact ⟨arranges sameMembers, arranges⟩

/-- A strict object meets two undeclared members in either order, one of them `1` or `1.0`. -/
theorem equal_values_indistinguishable_undeclared :
    let left : Json := .object [("a", .ofNat 1), ("b", .null)]
    let right : Json := .object [("b", .null), ("a", .ofBinary64 (.ofInt 1))]
    let closed : Validator := .ofKind (.object ⟨[], .strict⟩)
    left.sameValue right = true ∧ left.sameForm right = false ∧
      ∃ found others, closed.validate left = .error found ∧
        closed.validate right = .error others ∧ found.Perm others ∧ found ≠ others := by
  intro left right closed
  have equal : left.sameValue right = true := by decide +kernel
  have formedLeft : left.WellFormed := by
    simp [left, Entries.distinct_cons, Entries.distinct_nil, Json.ofNat]
  have formedRight : right.WellFormed := by
    simp [right, Entries.distinct_cons, Entries.distinct_nil, Json.ofBinary64]
  have sound : closed.WellFormed := by
    simp [closed, WellFormed, ofKind, everywhere_iff, ValidatorKind.Sound,
      ValidatorKind.children, Entries.distinct_nil]
  have refused : closed.validate left =
      .error [⟨.root, .unrecognizedKey "a"⟩, ⟨.root, .unrecognizedKey "b"⟩] := rfl
  have refusedOther : closed.validate right =
      .error [⟨.root, .unrecognizedKey "b"⟩, ⟨.root, .unrecognizedKey "a"⟩] := rfl
  have alike := (equal_values_indistinguishable.2 left right formedLeft formedRight).2
    equal closed sound
  refine ⟨equal, by decide +kernel, _, _, refused, refusedOther, ?_, by simp⟩
  exact (alike.2.2 _ _ refused refusedOther).1

end Validator

end ToolGate
