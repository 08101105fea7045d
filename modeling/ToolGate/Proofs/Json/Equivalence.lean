import ToolGate.Proofs.Json.Equality

/-!
# Equivalent JSON values

Values that are projections of each other differ in the order of object
members and in the numbers that a notion of sameness identifies, and in
nothing else.  On well-formed values this is an equivalence, it coincides
with the equality that is computed, and on objects it says that the same keys
are present with equivalent values.
-/

namespace ToolGate

/-- What is found under each name in one list has a partner under it in the other. -/
theorem Entries.matched_of_lookup {α β : Type} {related : α → β → Prop}
    {left : List (String × α)} {right : List (String × β)} (distinct : Entries.Distinct left)
    (same : ∀ name, Option.Rel related (left.lookup name) (right.lookup name)) :
    Entries.Matched related left right := by
  intro entry member
  have partner := same entry.1
  rw [(Entries.lookup_eq_some_iff_mem distinct).mpr member] at partner
  generalize right.lookup entry.1 = found at partner ⊢
  cases partner with
  | some relation => exact ⟨_, rfl, relation⟩

namespace Json

variable {numbers weaker : JsonNumber → JsonNumber → Bool}

/-- The values are projections of each other. -/
def EquivalentBy (numbers : JsonNumber → JsonNumber → Bool) (left right : Json) : Prop :=
  ProjectionBy numbers left right ∧ ProjectionBy numbers right left

/-- A projection stays one when more numbers count as the same. -/
theorem ProjectionBy.imp (implies : ∀ {x y}, numbers x y = true → weaker x y = true)
    {part whole : Json} (projection : ProjectionBy numbers part whole) :
    ProjectionBy weaker part whole := by
  induction part generalizing whole with
  | null => exact projectionBy_null_left.mpr (projectionBy_null_left.mp projection)
  | bool value => exact projectionBy_bool_left.mpr (projectionBy_bool_left.mp projection)
  | number x =>
      rcases projectionBy_number_left.mp projection with ⟨y, rfl, same⟩
      exact projectionBy_number_left.mpr ⟨y, rfl, implies same⟩
  | string text => exact projectionBy_string_left.mpr (projectionBy_string_left.mp projection)
  | array elements ih =>
      rcases projectionBy_array_left.mp projection with ⟨others, rfl, correspond⟩
      apply projectionBy_array_iff.mpr
      exact correspond.imp_of_mem fun element member _ _ => ih element member
  | object members ih =>
      rcases projectionBy_object_left.mp projection with ⟨others, rfl, matched⟩
      apply projectionBy_object_iff.mpr
      exact matched.imp fun member inside _ _ => ih member inside

namespace EquivalentBy

variable {left middle right : Json}

theorem refl (equivalence : JsonNumber.Equivalence numbers) (formed : left.WellFormed) :
    EquivalentBy numbers left left :=
  ⟨projectionBy_refl equivalence formed, projectionBy_refl equivalence formed⟩

theorem symm (same : EquivalentBy numbers left right) : EquivalentBy numbers right left :=
  ⟨same.2, same.1⟩

theorem trans (equivalence : JsonNumber.Equivalence numbers)
    (first : EquivalentBy numbers left middle) (second : EquivalentBy numbers middle right) :
    EquivalentBy numbers left right :=
  ⟨first.1.trans equivalence second.1, second.2.trans equivalence first.2⟩

theorem imp (implies : ∀ {x y}, numbers x y = true → weaker x y = true)
    (same : EquivalentBy numbers left right) : EquivalentBy weaker left right :=
  ⟨same.1.imp implies, same.2.imp implies⟩

/-- Equivalent values have the same value. -/
theorem value (equivalence : JsonNumber.Equivalence numbers)
    (same : EquivalentBy numbers left right) : EquivalentBy JsonNumber.sameValue left right :=
  same.imp equivalence.sameValue

/-- Values with the same bounds are equivalent. -/
theorem ofBounds (equivalence : JsonNumber.Equivalence numbers) (formedLeft : left.WellFormed)
    (formedRight : right.WellFormed)
    (same : ∀ bound : Json, bound.WellFormed →
      (ProjectionBy numbers left bound ↔ ProjectionBy numbers right bound)) :
    EquivalentBy numbers left right := by
  constructor
  · exact (same right formedRight).mpr (projectionBy_refl equivalence formedRight)
  · exact (same left formedLeft).mp (projectionBy_refl equivalence formedLeft)

end EquivalentBy

/-- Values that are equal by computation are equivalent, and conversely. -/
theorem equalBy_iff_equivalent (equivalence : JsonNumber.Equivalence numbers) {left right : Json}
    (formedLeft : left.WellFormed) (formedRight : right.WellFormed) :
    equalBy numbers left right = true ↔ EquivalentBy numbers left right :=
  equalBy_iff_projections equivalence formedLeft formedRight

theorem equivalentBy_array_iff {lefts rights : List Json} :
    EquivalentBy numbers (.array lefts) (.array rights) ↔
      List.Forall₂ (EquivalentBy numbers) lefts rights := by
  simp only [EquivalentBy, projectionBy_array_iff]
  constructor
  · rintro ⟨forward, backward⟩
    exact List.Forall₂.mp (fun _ _ first second => And.intro first second) forward backward.flip
  · intro both
    exact ⟨both.imp fun _ _ => And.left, (both.imp fun _ _ => And.right).flip⟩

/-- Equivalent objects have equivalent values under the same keys. -/
theorem equivalentBy_object_iff {lefts rights : List (String × Json)}
    (distinctLeft : Entries.Distinct lefts) (distinctRight : Entries.Distinct rights) :
    EquivalentBy numbers (.object lefts) (.object rights) ↔
      ∀ key, Option.Rel (EquivalentBy numbers) (lefts.lookup key) (rights.lookup key) := by
  simp only [EquivalentBy, projectionBy_object_iff]
  constructor
  · rintro ⟨forward, backward⟩ key
    have both := forward.and backward distinctLeft
    cases found : lefts.lookup key with
    | some left =>
        rcases both.lookup found with ⟨right, foundRight, same⟩
        rw [foundRight]
        exact .some same
    | none =>
        have absent : rights.lookup key = none := by
          rw [Entries.lookup_eq_none_iff] at found ⊢
          exact fun listed => found (backward.names_subset listed)
        rw [absent]
        exact .none
  · intro same
    have back : ∀ key,
        Option.Rel (EquivalentBy numbers) (rights.lookup key) (lefts.lookup key) := by
      intro key
      have related := same key
      generalize lefts.lookup key = left, rights.lookup key = right at related ⊢
      cases related with
      | some equivalent => exact .some equivalent.symm
      | none => exact .none
    exact ⟨(Entries.matched_of_lookup distinctLeft same).imp fun _ _ _ _ => And.left,
      (Entries.matched_of_lookup distinctRight back).imp fun _ _ _ _ => And.left⟩

/-- A value equivalent to an array is an array of equivalent elements. -/
theorem EquivalentBy.exists_array {lefts : List Json} {right : Json}
    (same : EquivalentBy numbers (.array lefts) right) :
    ∃ rights, right = .array rights ∧ List.Forall₂ (EquivalentBy numbers) lefts rights := by
  rcases projectionBy_array_left.mp same.1 with ⟨rights, rfl, _⟩
  exact ⟨rights, rfl, equivalentBy_array_iff.mp same⟩

/-- A value equivalent to an object is an object. -/
theorem EquivalentBy.exists_object {lefts : List (String × Json)} {right : Json}
    (same : EquivalentBy numbers (.object lefts) right) : ∃ rights, right = .object rights := by
  rcases projectionBy_object_left.mp same.1 with ⟨rights, rfl, _⟩
  exact ⟨rights, rfl⟩

end Json

end ToolGate
