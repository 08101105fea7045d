import ToolGate.Proofs.Validator.Issues

/-!
# Validators of which one finds less

Two validators that differ only in what they do with undeclared members find
related issues: those of the more lenient one are a sublist of those of the
other, on every value.  The relation passes through every kind.  Unions rely
on it for the branches that refuse, and intersections on the fact that their
branches always merge, so that both report what the branches found.
-/

namespace ToolGate

open Verdict

/-- The first policy reports undeclared members only if the second does. -/
def UnknownKeys.LaxerThan (lax firm : UnknownKeys) : Prop :=
  lax = .strict → firm = .strict

theorem Verdict.undeclaredIssues_sublist {lax firm : UnknownKeys} (laxer : lax.LaxerThan firm)
    (extra : List (String × Json)) :
    (undeclaredIssues lax extra).Sublist (undeclaredIssues firm extra) := by
  cases lax with
  | strip => exact List.nil_sublist _
  | passthrough => exact List.nil_sublist _
  | strict =>
      rw [laxer rfl]

namespace Validator

/-- The first validator finds on every value a part of what the second finds. -/
structure FindsWithin (lax firm : Validator) : Prop where
  /-- The two agree on absence. -/
  absent : lax.allowsAbsent = firm.allowsAbsent
  /-- The issues of the first are among those of the second, in their order. -/
  found : ∀ value : Json, value.WellFormed →
    (issues (lax.validate value)).Sublist (issues (firm.validate value))

theorem FindsWithin.refl (validator : Validator) : FindsWithin validator validator :=
  ⟨rfl, fun _ _ => List.Sublist.refl _⟩

/-- Where the kinds give one verdict, both validators find the same. -/
theorem sublist_of_judge_eq {laxKind firmKind : ValidatorKind} {value : Json}
    (same : laxKind.judge validate value = firmKind.judge validate value) :
    (issues ((ofKind laxKind).validate value)).Sublist
      (issues ((ofKind firmKind).validate value)) := by
  rw [ofKind, ofKind, validate_eq_judge, validate_eq_judge, same]

section Kinds

variable {lax firm : Validator} {laxes firms : List Validator}

theorem FindsWithin.withDescription (within : FindsWithin lax firm) (text other : String) :
    FindsWithin (lax.withDescription text) (firm.withDescription other) := by
  rcases lax with ⟨laxKind, laxText⟩
  rcases firm with ⟨firmKind, firmText⟩
  constructor
  · simpa only [Validator.withDescription, allowsAbsent] using within.absent
  · intro value formed
    have same := within.found value formed
    rwa [validate_congr_description laxKind laxText text,
      validate_congr_description firmKind firmText other] at same

theorem FindsWithin.nullable (within : FindsWithin lax firm) :
    FindsWithin (ofKind (.nullable lax)) (ofKind (.nullable firm)) := by
  constructor
  · simpa only [ofKind, allowsAbsent, kindAllowsAbsent] using within.absent
  · intro value formed
    by_cases isNull : value = .null
    · subst isNull
      exact sublist_of_judge_eq rfl
    · rw [ofKind, ofKind, validate_nullable_issues isNull, validate_nullable_issues isNull]
      exact within.found value formed

/-- Issues below a step are found within those of another verdict there. -/
theorem FindsWithin.below (within : FindsWithin lax firm) {value : Json}
    (formed : value.WellFormed) (step : PathSegment) :
    ((issues (lax.validate value)).map (Issue.under [step])).Sublist
      ((issues (firm.validate value)).map (Issue.under [step])) :=
  (within.found value formed).map _

theorem FindsWithin.array (within : FindsWithin lax firm) (minItems maxItems : Option UInt64) :
    FindsWithin (ofKind (.array ⟨some lax, minItems, maxItems⟩))
      (ofKind (.array ⟨some firm, minItems, maxItems⟩)) := by
  refine ⟨rfl, ?_⟩
  intro value formed
  cases value with
  | array elements =>
      rw [ofKind, ofKind, validate_array_issues, validate_array_issues]
      refine List.Sublist.append (List.Sublist.refl _) ?_
      simp only [Option.toList_some, List.flatMap_singleton]
      apply List.Forall₂.flatMap_sublist
      rw [List.forall₂_same]
      rintro ⟨element, index⟩ member
      have inside : element ∈ elements := (List.mem_zipIdx member).2.2 ▸ List.getElem_mem _
      exact within.below (Json.wellFormed_array.mp formed element inside) (.index index)
  | _ => exact sublist_of_judge_eq rfl

theorem FindsWithin.tuple (within : List.Forall₂ FindsWithin laxes firms) :
    FindsWithin (ofKind (.tuple laxes)) (ofKind (.tuple firms)) := by
  refine ⟨rfl, ?_⟩
  intro value formed
  cases value with
  | array elements =>
      have lengths : laxes.length = firms.length := within.length_eq
      by_cases arity : elements.length = laxes.length
      · rw [ofKind, ofKind, validate_tuple_issues arity,
          validate_tuple_issues (arity.trans lengths)]
        apply List.Forall₂.flatMap_sublist
        apply ((within.zip_same elements).zipIdx 0).imp
        rintro ⟨⟨lax, element⟩, index⟩ ⟨⟨firm, _⟩, _⟩ ⟨⟨inner, rfl, inside⟩, rfl⟩
        exact inner.below (Json.wellFormed_array.mp formed element inside) (.index index)
      · have otherArity : elements.length ≠ firms.length := lengths ▸ arity
        apply sublist_of_judge_eq
        simp only [ValidatorKind.judge, otherArity, ne_eq, not_false_eq_true, ↓reduceIte, lengths]
  | _ => exact sublist_of_judge_eq rfl

theorem FindsWithin.record (within : FindsWithin lax firm) :
    FindsWithin (ofKind (.record lax)) (ofKind (.record firm)) := by
  refine ⟨rfl, ?_⟩
  intro value formed
  cases value with
  | object entries =>
      rw [ofKind, ofKind, validate_record_issues, validate_record_issues]
      apply List.Forall₂.flatMap_sublist
      rw [List.forall₂_same]
      intro entry member
      exact within.below ((Json.wellFormed_object.mp formed).2 entry member) (.key entry.1)
  | _ => exact sublist_of_judge_eq rfl

/-- Fields of one name of which the first finds less, and may be missing when the second may. -/
structure FieldFindsWithin (lax firm : String × Field) : Prop where
  name : lax.1 = firm.1
  optional : lax.2.optional = firm.2.optional
  validator : FindsWithin lax.2.validator firm.2.validator

theorem FieldFindsWithin.fieldIssues {lax firm : String × Field}
    (within : FieldFindsWithin lax firm) {entries : List (String × Json)}
    (formed : (Json.object entries).WellFormed) :
    (ValidatorKind.fieldIssues entries lax).Sublist
      (ValidatorKind.fieldIssues entries firm) := by
  unfold ValidatorKind.fieldIssues
  rw [within.name, within.optional, within.validator.absent]
  cases found : entries.lookup firm.1 with
  | some member => exact within.validator.below (formed.lookup found) (.key firm.1)
  | none => exact List.Sublist.refl _

theorem FindsWithin.object {laxFields firmFields : List (String × Field)}
    (within : List.Forall₂ FieldFindsWithin laxFields firmFields)
    {laxPolicy firmPolicy : UnknownKeys} (laxer : laxPolicy.LaxerThan firmPolicy) :
    FindsWithin (ofKind (.object ⟨laxFields, laxPolicy⟩))
      (ofKind (.object ⟨firmFields, firmPolicy⟩)) := by
  refine ⟨rfl, ?_⟩
  intro value formed
  have names : Entries.names laxFields = Entries.names firmFields :=
    (Entries.names_eq_of_forall₂ (within.imp fun _ _ inner => inner.name.symm)).symm
  cases value with
  | object entries =>
      rw [ofKind, ofKind, validate_object_issues, validate_object_issues]
      apply List.Sublist.append
      · apply List.Forall₂.flatMap_sublist
        exact within.imp fun _ _ inner => inner.fieldIssues formed
      · simp only [Entries.contains_congr names]
        exact undeclaredIssues_sublist laxer _
  | _ => exact sublist_of_judge_eq rfl

theorem FindsWithin.union (within : List.Forall₂ FindsWithin laxes firms) :
    FindsWithin (ofKind (.union laxes)) (ofKind (.union firms)) := by
  refine ⟨rfl, ?_⟩
  intro value formed
  by_cases refused : ∀ branch ∈ laxes, issues (branch.validate value) ≠ []
  · -- then the second refuses too, and both have the same one issue
    have refusedToo : ∀ branch ∈ firms, issues (branch.validate value) ≠ [] := by
      intro branch member clean
      rcases within.exists_of_mem_right member with ⟨lax, inside, inner⟩
      have none := inner.found value formed
      rw [clean, List.sublist_nil] at none
      exact refused lax inside none
    rw [ofKind, ofKind, validate_union_issues refused, validate_union_issues refusedToo,
      within.length_eq]
  · push Not at refused
    rcases refused with ⟨branch, member, clean⟩
    rw [ofKind, validate_union_clean member clean]
    exact List.nil_sublist _

theorem FindsWithin.intersection (within : List.Forall₂ FindsWithin laxes firms)
    (laxSound : ∀ branch ∈ laxes, branch.WellFormed)
    (firmSound : ∀ branch ∈ firms, branch.WellFormed) :
    FindsWithin (ofKind (.intersection laxes)) (ofKind (.intersection firms)) := by
  refine ⟨rfl, ?_⟩
  intro value formed
  rw [ofKind, ofKind, validate_intersection_issues laxSound formed,
    validate_intersection_issues firmSound formed]
  apply List.Forall₂.flatMap_sublist
  exact within.imp fun _ _ inner => inner.found value formed

end Kinds

end Validator

end ToolGate
