import ToolGate.Proofs.Correspondence
import ToolGate.Proofs.Entries
import ToolGate.Proofs.Schema.Congruence
import ToolGate.Proofs.Validator.Frame

/-!
# Validators that no input tells apart

Two validators are interchangeable if parsing gives the same with both, for
every value and for absence.  The verdict of a kind is made from the verdicts
of the validators inside it, so the relation passes through every kind.  It
needs no assumption about the values or the validators, because nothing but
equal verdicts is put in the place of equal verdicts.
-/

namespace ToolGate.Validator

open Verdict

/-- Parsing gives the same with both, be it the output or the issues. -/
def Interchangeable (first second : Validator) : Prop :=
  ∀ given : Option Json, first.parse given = second.parse given

section Interchangeable

variable {first second third : Validator} {firsts seconds : List Validator}

theorem Interchangeable.refl (validator : Validator) : Interchangeable validator validator :=
  fun _ => rfl

theorem Interchangeable.symm (same : Interchangeable first second) :
    Interchangeable second first :=
  fun given => (same given).symm

theorem Interchangeable.trans (same : Interchangeable first second)
    (next : Interchangeable second third) : Interchangeable first third :=
  fun given => (same given).trans (next given)

/-- Absence adds to the verdicts on values only whether it is admitted. -/
theorem interchangeable_iff :
    Interchangeable first second ↔
      first.validate = second.validate ∧ first.allowsAbsent = second.allowsAbsent := by
  constructor
  · intro same
    refine ⟨funext fun value => same (some value), ?_⟩
    have absent := same none
    simp only [parse, validateAbsent] at absent
    cases admits : first.allowsAbsent <;> cases admitsOther : second.allowsAbsent <;>
      simp [admits, admitsOther] at absent ⊢
  · rintro ⟨verdicts, absent⟩ given
    cases given with
    | some value => exact congrFun verdicts value
    | none => simp only [parse, validateAbsent, absent]

theorem Interchangeable.validate_eq (same : Interchangeable first second) :
    first.validate = second.validate :=
  (interchangeable_iff.mp same).1

theorem Interchangeable.allowsAbsent_eq (same : Interchangeable first second) :
    first.allowsAbsent = second.allowsAbsent :=
  (interchangeable_iff.mp same).2

theorem interchangeable_withDescription (validator : Validator) (text : String) :
    Interchangeable validator (validator.withDescription text) := by
  rcases validator with ⟨kind, before⟩
  refine interchangeable_iff.mpr ⟨?_, ?_⟩
  · funext value
    exact validate_congr_description kind before text value
  · simp only [withDescription, allowsAbsent]

theorem Interchangeable.described (same : Interchangeable first second) (text other : String) :
    Interchangeable (first.withDescription text) (second.withDescription other) :=
  (interchangeable_withDescription first text).symm.trans
    (same.trans (interchangeable_withDescription second other))

/-- Kinds that judge alike make interchangeable validators if they treat absence alike. -/
theorem interchangeable_of_judge {kind other : ValidatorKind}
    (absent : kindAllowsAbsent kind = kindAllowsAbsent other)
    (judged : ∀ value, kind.judge validate value = other.judge validate value) :
    Interchangeable (ofKind kind) (ofKind other) := by
  refine interchangeable_iff.mpr ⟨?_, ?_⟩
  · funext value
    rw [ofKind, ofKind, validate_eq_judge, validate_eq_judge, judged]
  · simpa only [ofKind, allowsAbsent] using absent

theorem Interchangeable.nullable (same : Interchangeable first second) :
    Interchangeable (ofKind (.nullable first)) (ofKind (.nullable second)) := by
  apply interchangeable_of_judge
  · simpa only [kindAllowsAbsent] using same.allowsAbsent_eq
  · intro value
    simp only [ValidatorKind.judge, same.validate_eq]

theorem Interchangeable.array (same : Interchangeable first second)
    (minItems maxItems : Option UInt64) :
    Interchangeable (ofKind (.array ⟨some first, minItems, maxItems⟩))
      (ofKind (.array ⟨some second, minItems, maxItems⟩)) := by
  refine interchangeable_of_judge rfl ?_
  intro value
  simp only [ValidatorKind.judge, ValidatorKind.itemsIssues, ValidatorKind.itemsOutputs,
    same.validate_eq]

theorem Interchangeable.record (same : Interchangeable first second) :
    Interchangeable (ofKind (.record first)) (ofKind (.record second)) := by
  refine interchangeable_of_judge rfl ?_
  intro value
  simp only [ValidatorKind.judge, same.validate_eq]

/-- Interchangeable branches have one list of verdicts. -/
theorem map_validate_eq (same : List.Forall₂ Interchangeable firsts seconds) :
    firsts.map validate = seconds.map validate :=
  (same.imp fun _ _ branch => branch.validate_eq).map_eq

theorem Interchangeable.tuple (same : List.Forall₂ Interchangeable firsts seconds) :
    Interchangeable (ofKind (.tuple firsts)) (ofKind (.tuple seconds)) := by
  have zipped : ∀ elements : List Json,
      firsts.zipWith validate elements = seconds.zipWith validate elements := by
    intro elements
    have verdicts := congrArg
      (List.zipWith (fun verdictOf element => verdictOf element) · elements)
      (map_validate_eq same)
    simpa only [List.zipWith_map_left] using verdicts
  refine interchangeable_of_judge rfl ?_
  intro value
  simp only [ValidatorKind.judge, zipped, same.length_eq]

theorem Interchangeable.union (same : List.Forall₂ Interchangeable firsts seconds) :
    Interchangeable (ofKind (.union firsts)) (ofKind (.union seconds)) := by
  have selected : ∀ value : Json,
      (firsts.findSome? fun branch => output? (branch.validate value)) =
        seconds.findSome? fun branch => output? (branch.validate value) := by
    intro value
    have verdicts := congrArg
      (List.findSome? fun verdictOf : Json → Verdict => output? (verdictOf value))
      (map_validate_eq same)
    simpa only [List.findSome?_map, Function.comp_def] using verdicts
  refine interchangeable_of_judge rfl ?_
  intro value
  simp only [ValidatorKind.judge, selected, same.length_eq]

theorem Interchangeable.intersection (same : List.Forall₂ Interchangeable firsts seconds) :
    Interchangeable (ofKind (.intersection firsts)) (ofKind (.intersection seconds)) := by
  refine interchangeable_of_judge rfl ?_
  intro value
  have verdicts : (firsts.map fun branch => branch.validate value) =
      seconds.map fun branch => branch.validate value :=
    (same.imp fun _ _ branch => congrFun branch.validate_eq value).map_eq
  simp only [ValidatorKind.judge, verdicts]

/-- Fields of one name with interchangeable validators have one verdict on every object. -/
theorem FieldRelated.fieldVerdict_eq {entry other : String × Field}
    (same : FieldRelated Interchangeable entry other) (entries : List (String × Json)) :
    ValidatorKind.fieldVerdict validate entries entry =
      ValidatorKind.fieldVerdict validate entries other := by
  simp only [ValidatorKind.fieldVerdict, same.name, same.optional, same.validator.validate_eq,
    same.validator.allowsAbsent_eq]

theorem Interchangeable.object {fields others : List (String × Field)}
    (same : List.Forall₂ (FieldRelated Interchangeable) fields others) (policy : UnknownKeys) :
    Interchangeable (ofKind (.object ⟨fields, policy⟩)) (ofKind (.object ⟨others, policy⟩)) := by
  have verdicts : ∀ entries : List (String × Json),
      fields.filterMap (ValidatorKind.fieldVerdict validate entries) =
        others.filterMap (ValidatorKind.fieldVerdict validate entries) := by
    intro entries
    exact (same.imp fun _ _ field => FieldRelated.fieldVerdict_eq field entries).filterMap_eq
  have names : Entries.names fields = Entries.names others :=
    (same.imp fun _ _ field => field.name).map_eq
  refine interchangeable_of_judge rfl ?_
  intro value
  simp only [ValidatorKind.judge, verdicts, Entries.contains_congr names]

end Interchangeable

theorem interchangeable_congruence (policy : UnknownKeys) :
    CompilationCongruence policy policy Interchangeable where
  refl := .refl
  described text other same := same.described text other
  nullable same := same.nullable
  array minItems maxItems same := same.array minItems maxItems
  tuple same := .tuple same
  object same := .object same policy
  record same := same.record
  union same := .union same
  intersection same _ _ := .intersection same

end ToolGate.Validator
