import ToolGate.Proofs.Schema.Congruence
import ToolGate.Proofs.Validator.Intersection

/-!
# Validators of which one accepts more

A validator widens another one if it accepts every value that the other
accepts, and absence if the other does.  The relation passes through every
kind.  A wider branch may change which branch of a union gives the output and
what an intersection has to merge, but not whether there is an output.
-/

namespace ToolGate

namespace Validator

/-- What the first validator accepts, be it a value or absence, the second accepts too. -/
def Widens (narrow wide : Validator) : Prop :=
  ∀ given : Option Json, (∀ value ∈ given, value.WellFormed) →
    (∃ output, narrow.parse given = .ok output) → ∃ output, wide.parse given = .ok output

theorem parse_none_ok_iff {validator : Validator} :
    (∃ output, validator.parse none = .ok output) ↔ validator.allowsAbsent = true := by
  rw [parse, validateAbsent]
  by_cases admitted : validator.allowsAbsent = true <;> simp [admitted]

theorem widens_iff {narrow wide : Validator} :
    Widens narrow wide ↔
      (∀ value : Json, value.WellFormed → narrow.accepts value = true →
        wide.accepts value = true) ∧
      (narrow.allowsAbsent = true → wide.allowsAbsent = true) := by
  simp only [accepts_iff, ← parse_none_ok_iff]
  constructor
  · intro widens
    constructor
    · intro value formed accepted
      have formedGiven : ∀ other ∈ some value, other.WellFormed := by
        rintro other ⟨⟩
        exact formed
      exact widens (some value) formedGiven accepted
    · intro absent
      exact widens none nofun absent
  · rintro ⟨accepts, absent⟩ given formed accepted
    cases given with
    | some value => exact accepts value (formed value rfl) accepted
    | none => exact absent accepted

section Widens

variable {narrow wide : Validator} {narrows wides : List Validator}

theorem Widens.accepts (widens : Widens narrow wide) {value : Json} (formed : value.WellFormed)
    (accepted : narrow.accepts value = true) : wide.accepts value = true :=
  (widens_iff.mp widens).1 value formed accepted

theorem Widens.refl (validator : Validator) : Widens validator validator :=
  fun _ _ => id

/-- A kind that never admits absence only has to accept more values. -/
theorem widens_of_accepts {narrow wide : ValidatorKind}
    (absent : kindAllowsAbsent narrow = false)
    (accepts : ∀ value : Json, value.WellFormed → (ofKind narrow).accepts value = true →
      (ofKind wide).accepts value = true) :
    Widens (ofKind narrow) (ofKind wide) := by
  refine widens_iff.mpr ⟨accepts, ?_⟩
  intro admitted
  rw [ofKind, allowsAbsent, absent] at admitted
  cases admitted

theorem Widens.described (widens : Widens narrow wide) (text other : String) :
    Widens (narrow.withDescription text) (wide.withDescription other) := by
  rcases narrow with ⟨narrow, before⟩
  rcases wide with ⟨wide, beforeOther⟩
  refine widens_iff.mpr ⟨?_, ?_⟩
  · intro value formed accepted
    rw [withDescription, accepts_congr_description wide other beforeOther]
    rw [withDescription, accepts_congr_description narrow text before] at accepted
    exact widens.accepts formed accepted
  · intro admitted
    rw [withDescription, allowsAbsent] at admitted ⊢
    exact (widens_iff.mp widens).2 admitted

theorem Widens.nullable (widens : Widens narrow wide) :
    Widens (ofKind (.nullable narrow)) (ofKind (.nullable wide)) := by
  refine widens_iff.mpr ⟨?_, ?_⟩
  · intro value formed accepted
    rcases accepts_nullable_iff.mp accepted with isNull | accepted
    · exact accepts_nullable_iff.mpr (.inl isNull)
    · exact accepts_nullable_iff.mpr (.inr (widens.accepts formed accepted))
  · intro admitted
    rw [ofKind, allowsAbsent, kindAllowsAbsent] at admitted ⊢
    exact (widens_iff.mp widens).2 admitted

theorem Widens.array (widens : Widens narrow wide) (minItems maxItems : Option UInt64) :
    Widens (ofKind (.array ⟨some narrow, minItems, maxItems⟩))
      (ofKind (.array ⟨some wide, minItems, maxItems⟩)) := by
  apply widens_of_accepts rfl
  intro value formed accepted
  rcases accepts_array_some_iff.mp accepted with ⟨elements, rfl, sized, each⟩
  rw [Json.wellFormed_array] at formed
  refine accepts_array_some_iff.mpr ⟨elements, rfl, sized, ?_⟩
  intro element member
  exact widens.accepts (formed element member) (each element member)

theorem Widens.tuple (widens : List.Forall₂ Widens narrows wides) :
    Widens (ofKind (.tuple narrows)) (ofKind (.tuple wides)) := by
  apply widens_of_accepts rfl
  intro value formed accepted
  rcases accepts_tuple_iff.mp accepted with ⟨elements, rfl, arity, each⟩
  rw [Json.wellFormed_array] at formed
  refine accepts_tuple_iff.mpr ⟨elements, rfl, arity.trans widens.length_eq, ?_⟩
  rintro ⟨slot, element⟩ member
  rcases (widens.zip_same elements).exists_of_mem_right member with
    ⟨⟨narrow, _⟩, inside, widens, rfl, listed⟩
  exact widens.accepts (formed _ listed) (each _ inside)

theorem Widens.record (widens : Widens narrow wide) :
    Widens (ofKind (.record narrow)) (ofKind (.record wide)) := by
  apply widens_of_accepts rfl
  intro value formed accepted
  rcases accepts_record_iff.mp accepted with ⟨entries, rfl, each⟩
  refine accepts_record_iff.mpr ⟨entries, rfl, ?_⟩
  intro entry member
  exact widens.accepts ((Json.wellFormed_object.mp formed).2 entry member) (each entry member)

theorem Widens.object {narrowFields wideFields : List (String × Field)} (policy : UnknownKeys)
    (widens : List.Forall₂ (FieldRelated Widens) narrowFields wideFields) :
    Widens (ofKind (.object ⟨narrowFields, policy⟩)) (ofKind (.object ⟨wideFields, policy⟩)) := by
  apply widens_of_accepts rfl
  intro value formed accepted
  rcases accepts_object_iff.mp accepted with ⟨entries, rfl, each, declared⟩
  have names : Entries.names wideFields = Entries.names narrowFields :=
    Entries.names_eq_of_forall₂ (widens.imp fun _ _ field => field.name.symm)
  refine accepts_object_iff.mpr ⟨entries, rfl, ?_, ?_⟩
  · intro field member
    rcases widens.exists_of_mem_right member with ⟨narrow, inside, related⟩
    rcases each narrow inside with ⟨present, absent⟩
    rw [related.name] at present absent
    constructor
    · intro member found
      exact related.validator.accepts (formed.lookup found) (present member found)
    · intro missing
      rcases absent missing with optional | admitted
      · exact .inl (related.optional ▸ optional)
      · exact .inr ((widens_iff.mp related.validator).2 admitted)
  · rw [names]
    exact declared

theorem Widens.union (widens : List.Forall₂ Widens narrows wides) :
    Widens (ofKind (.union narrows)) (ofKind (.union wides)) := by
  apply widens_of_accepts rfl
  intro value formed accepted
  rcases accepts_union_iff.mp accepted with ⟨branch, member, accepted⟩
  rcases widens.exists_of_mem_left member with ⟨wide, inside, wider⟩
  exact accepts_union_iff.mpr ⟨wide, inside, wider.accepts formed accepted⟩

theorem Widens.intersection (widens : List.Forall₂ Widens narrows wides)
    (soundNarrow : ∀ branch ∈ narrows, branch.WellFormed)
    (soundWide : ∀ branch ∈ wides, branch.WellFormed) :
    Widens (ofKind (.intersection narrows)) (ofKind (.intersection wides)) := by
  apply widens_of_accepts rfl
  intro value formed accepted
  have each := (accepts_intersection_iff soundNarrow formed).mp accepted
  apply (accepts_intersection_iff soundWide formed).mpr
  intro branch member
  rcases widens.exists_of_mem_right member with ⟨narrow, inside, wider⟩
  exact wider.accepts formed (each narrow inside)

/-- To widen a part is to widen the whole, whatever happens to undeclared members. -/
theorem widens_congruence (policy : UnknownKeys) :
    CompilationCongruence policy policy Widens where
  refl := Widens.refl
  described text other widens := widens.described text other
  nullable := Widens.nullable
  array minItems maxItems widens := widens.array minItems maxItems
  tuple := Widens.tuple
  object := Widens.object policy
  record := Widens.record
  union := Widens.union
  intersection := Widens.intersection

end Widens

end Validator

end ToolGate
