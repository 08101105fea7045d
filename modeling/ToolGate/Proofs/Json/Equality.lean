import ToolGate.Proofs.Json.Projection

/-!
# Equality of JSON values as mutual projection

Equality compares the lengths of objects and looks for an equal member under
every key of the first.  As keys are distinct, this leaves no key of the
second object out, so two values are equal exactly when each is a projection
of the other.
-/

namespace ToolGate.Json

variable {numbers : JsonNumber → JsonNumber → Bool}

theorem equalElementsBy_iff {xs ys : List Json} :
    equalElementsBy numbers xs ys = true ↔
      List.Forall₂ (fun x y => equalBy numbers x y = true) xs ys := by
  induction xs generalizing ys with
  | nil => cases ys <;> simp [equalElementsBy]
  | cons x xs ih => cases ys <;> simp [equalElementsBy, ih]

theorem equalMembersBy_iff {xs ys : List (String × Json)} :
    equalMembersBy numbers xs ys = true ↔
      Entries.Matched (fun x y => equalBy numbers x y = true) xs ys := by
  induction xs with
  | nil => simp [equalMembersBy, Entries.Matched]
  | cons member rest ih =>
      rw [equalMembersBy, Bool.and_eq_true, ih, Entries.Matched, Entries.Matched,
        List.forall_mem_cons]
      cases found : ys.lookup member.1 <;> simp

/-- Equal values are projections of each other, and nothing else is. -/
theorem equalBy_iff_projections (equivalence : JsonNumber.Equivalence numbers) {left right : Json}
    (formedLeft : left.WellFormed) (formedRight : right.WellFormed) :
    equalBy numbers left right = true ↔
      ProjectionBy numbers left right ∧ ProjectionBy numbers right left := by
  induction left generalizing right with
  | null => cases right <;> simp [equalBy]
  | bool value =>
      cases right with
      | bool other =>
          simp only [equalBy, beq_iff_eq, projectionBy_bool_left, Json.bool.injEq]
          exact ⟨fun same => ⟨same.symm, same⟩, And.right⟩
      | _ => simp [equalBy]
  | number x =>
      cases right with
      | number y =>
          simp only [equalBy, projectionBy_number_left, Json.number.injEq, exists_eq_left']
          exact ⟨fun same => ⟨same, equivalence.symm same⟩, And.left⟩
      | _ => simp [equalBy]
  | string text =>
      cases right with
      | string other =>
          simp only [equalBy, beq_iff_eq, projectionBy_string_left, Json.string.injEq]
          exact ⟨fun same => ⟨same.symm, same⟩, And.right⟩
      | _ => simp [equalBy]
  | array xs ih =>
      cases right with
      | array ys =>
          rw [wellFormed_array] at formedLeft formedRight
          simp only [equalBy, equalElementsBy_iff, projectionBy_array_left, Json.array.injEq,
            exists_eq_left', List.forall₂_iff_get]
          constructor
          · rintro ⟨sameLength, same⟩
            have both := fun index inside insideRight =>
              (ih _ (List.get_mem xs ⟨index, inside⟩) (formedLeft _ (List.get_mem xs _))
                (formedRight _ (List.get_mem ys ⟨index, insideRight⟩))).mp
                (same index inside insideRight)
            exact ⟨⟨sameLength, fun index inside insideRight => (both index inside insideRight).1⟩,
              sameLength.symm, fun index inside insideLeft => (both index insideLeft inside).2⟩
          · rintro ⟨⟨sameLength, forward⟩, _, backward⟩
            refine ⟨sameLength, fun index inside insideRight => ?_⟩
            exact (ih _ (List.get_mem xs ⟨index, inside⟩) (formedLeft _ (List.get_mem xs _))
              (formedRight _ (List.get_mem ys ⟨index, insideRight⟩))).mpr
              ⟨forward index inside insideRight, backward index insideRight inside⟩
      | _ => simp [equalBy]
  | object xs ih =>
      cases right with
      | object ys =>
          rcases wellFormed_object.mp formedLeft with ⟨distinctLeft, formedMembers⟩
          rcases wellFormed_object.mp formedRight with ⟨distinctRight, _⟩
          simp only [equalBy, Bool.and_eq_true, beq_iff_eq, equalMembersBy_iff,
            projectionBy_object_left, Json.object.injEq, exists_eq_left']
          have partners : ∀ member ∈ xs, ∀ y, ys.lookup member.1 = some y →
              (equalBy numbers member.2 y = true ↔
                ProjectionBy numbers member.2 y ∧ ProjectionBy numbers y member.2) :=
            fun member inside y found =>
              ih member inside (formedMembers member inside) (formedRight.lookup found)
          constructor
          · rintro ⟨sameLength, same⟩
            have both : Entries.Matched
                (fun x y => ProjectionBy numbers x y ∧ ProjectionBy numbers y x) xs ys :=
              same.imp fun member inside y found equal =>
                (partners member inside y found).mp equal
            have back := both.flip distinctLeft distinctRight (Nat.le_of_eq sameLength.symm)
            exact ⟨both.imp fun _ _ _ _ => And.left, back.imp fun _ _ _ _ => And.right⟩
          · rintro ⟨forward, backward⟩
            refine ⟨forward.length_eq backward distinctLeft distinctRight, ?_⟩
            exact (forward.and backward distinctLeft).imp fun member inside y found both =>
              (partners member inside y found).mpr both
      | _ => simp [equalBy]

/-- A well-formed value equals itself. -/
theorem equalBy_refl (equivalence : JsonNumber.Equivalence numbers) {value : Json}
    (formed : value.WellFormed) : equalBy numbers value value = true :=
  (equalBy_iff_projections equivalence formed formed).mpr
    ⟨projectionBy_refl equivalence formed, projectionBy_refl equivalence formed⟩

end ToolGate.Json
