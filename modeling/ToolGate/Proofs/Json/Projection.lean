import ToolGate.Json.Equality
import ToolGate.Proofs.Correspondence
import ToolGate.Proofs.Json.WellFormed

/-!
# Projections of JSON values

A projection of a value is what remains of it when object members are left
out at any depth.  Arrays keep their length, and what is no object stays the
same, where two notions of sameness of numbers are of interest.  On
well-formed values being a projection is a partial order, and two values are
equal exactly when each is a projection of the other.
-/

namespace ToolGate

namespace JsonNumber

/-- An equivalence of numbers that never joins different values. -/
structure Equivalence (numbers : JsonNumber → JsonNumber → Bool) : Prop where
  /-- A number is equivalent to itself. -/
  refl : ∀ x, numbers x x = true
  /-- The order of the numbers is immaterial. -/
  symm : ∀ {x y}, numbers x y = true → numbers y x = true
  /-- Equivalences join. -/
  trans : ∀ {x y z}, numbers x y = true → numbers y z = true → numbers x z = true
  /-- Equivalent numbers have the same value. -/
  sameValue : ∀ {x y}, numbers x y = true → x.sameValue y = true

theorem sameValue_iff {x y : JsonNumber} :
    x.sameValue y = true ↔ x.toBinary64.units = y.toBinary64.units := by
  simp [JsonNumber.sameValue, Binary64.sameValue]

/-- Equality of values is an equivalence. -/
theorem sameValue_equivalence : Equivalence sameValue where
  refl _ := sameValue_iff.mpr rfl
  symm same := sameValue_iff.mpr (sameValue_iff.mp same).symm
  trans first second :=
    sameValue_iff.mpr ((sameValue_iff.mp first).trans (sameValue_iff.mp second))
  sameValue same := same

/-- Equality of forms is an equivalence. -/
theorem sameForm_equivalence : Equivalence sameForm where
  refl x := by
    cases x <;> simp [sameForm, Binary64.sameValue]
  symm {x y} same := by
    cases x <;> cases y <;> simp_all [sameForm, Binary64.sameValue]
  trans {x y z} first second := by
    cases x <;> cases y <;> cases z <;> simp_all [sameForm, Binary64.sameValue]
  sameValue {x y} same := by
    cases x <;> cases y <;> simp_all [sameForm, sameValue_iff, toBinary64, Binary64.sameValue]

end JsonNumber

namespace Json

variable {numbers : JsonNumber → JsonNumber → Bool}

mutual

/-- The first value is a projection of the second, with the given equality of numbers. -/
def ProjectionBy (numbers : JsonNumber → JsonNumber → Bool) : Json → Json → Prop
  | .null, .null => True
  | .bool a, .bool b => a = b
  | .number x, .number y => numbers x y = true
  | .string a, .string b => a = b
  | .array xs, .array ys => ElementsProjectionBy numbers xs ys
  | .object xs, .object ys => MembersProjectionBy numbers xs ys
  | _, _ => False

/-- The elements are projections one by one. -/
def ElementsProjectionBy (numbers : JsonNumber → JsonNumber → Bool) :
    List Json → List Json → Prop
  | [], [] => True
  | x :: xs, y :: ys => ProjectionBy numbers x y ∧ ElementsProjectionBy numbers xs ys
  | _, _ => False

/-- Every member is a projection of the one under its key. -/
def MembersProjectionBy (numbers : JsonNumber → JsonNumber → Bool) :
    List (String × Json) → List (String × Json) → Prop
  | [], _ => True
  | (key, x) :: rest, ys =>
      (match ys.lookup key with
        | some y => ProjectionBy numbers x y
        | none => False)
      ∧ MembersProjectionBy numbers rest ys

end

/-- The first value is a projection of the second, numbers being compared by value. -/
abbrev IsProjectionOf (part whole : Json) : Prop :=
  ProjectionBy JsonNumber.sameValue part whole

theorem elementsProjectionBy_iff {xs ys : List Json} :
    ElementsProjectionBy numbers xs ys ↔ List.Forall₂ (ProjectionBy numbers) xs ys := by
  induction xs generalizing ys with
  | nil => cases ys <;> simp [ElementsProjectionBy]
  | cons x xs ih => cases ys <;> simp [ElementsProjectionBy, ih]

theorem membersProjectionBy_iff {xs ys : List (String × Json)} :
    MembersProjectionBy numbers xs ys ↔ Entries.Matched (ProjectionBy numbers) xs ys := by
  induction xs with
  | nil => simp [MembersProjectionBy, Entries.Matched]
  | cons member rest ih =>
      rw [MembersProjectionBy, ih, Entries.Matched, Entries.Matched, List.forall_mem_cons]
      cases found : ys.lookup member.1 <;> simp

/-- A projection has the form of the whole, and the parts of the two correspond. -/
theorem projectionBy_iff {part whole : Json} :
    ProjectionBy numbers part whole ↔
      match part, whole with
      | .null, .null => True
      | .bool a, .bool b => a = b
      | .number x, .number y => numbers x y = true
      | .string a, .string b => a = b
      | .array xs, .array ys => List.Forall₂ (ProjectionBy numbers) xs ys
      | .object xs, .object ys => Entries.Matched (ProjectionBy numbers) xs ys
      | _, _ => False := by
  cases part <;> cases whole <;>
    simp [ProjectionBy, elementsProjectionBy_iff, membersProjectionBy_iff]

@[simp]
theorem projectionBy_null_left {whole : Json} :
    ProjectionBy numbers .null whole ↔ whole = .null := by
  rw [projectionBy_iff]
  cases whole <;> simp

@[simp]
theorem projectionBy_bool_left {value : Bool} {whole : Json} :
    ProjectionBy numbers (.bool value) whole ↔ whole = .bool value := by
  rw [projectionBy_iff]
  cases whole <;> simp [eq_comm]

@[simp]
theorem projectionBy_number_left {x : JsonNumber} {whole : Json} :
    ProjectionBy numbers (.number x) whole ↔ ∃ y, whole = .number y ∧ numbers x y = true := by
  rw [projectionBy_iff]
  cases whole <;> simp

@[simp]
theorem projectionBy_string_left {text : String} {whole : Json} :
    ProjectionBy numbers (.string text) whole ↔ whole = .string text := by
  rw [projectionBy_iff]
  cases whole <;> simp [eq_comm]

@[simp]
theorem projectionBy_array_left {xs : List Json} {whole : Json} :
    ProjectionBy numbers (.array xs) whole ↔
      ∃ ys, whole = .array ys ∧ List.Forall₂ (ProjectionBy numbers) xs ys := by
  rw [projectionBy_iff]
  cases whole <;> simp

@[simp]
theorem projectionBy_object_left {xs : List (String × Json)} {whole : Json} :
    ProjectionBy numbers (.object xs) whole ↔
      ∃ ys, whole = .object ys ∧ Entries.Matched (ProjectionBy numbers) xs ys := by
  rw [projectionBy_iff]
  cases whole <;> simp

@[simp]
theorem projectionBy_null_right {part : Json} :
    ProjectionBy numbers part .null ↔ part = .null := by
  rw [projectionBy_iff]
  cases part <;> simp

@[simp]
theorem projectionBy_bool_right {part : Json} {value : Bool} :
    ProjectionBy numbers part (.bool value) ↔ part = .bool value := by
  rw [projectionBy_iff]
  cases part <;> simp

@[simp]
theorem projectionBy_number_right {part : Json} {y : JsonNumber} :
    ProjectionBy numbers part (.number y) ↔ ∃ x, part = .number x ∧ numbers x y = true := by
  rw [projectionBy_iff]
  cases part <;> simp

@[simp]
theorem projectionBy_string_right {part : Json} {text : String} :
    ProjectionBy numbers part (.string text) ↔ part = .string text := by
  rw [projectionBy_iff]
  cases part <;> simp

@[simp]
theorem projectionBy_array_right {part : Json} {ys : List Json} :
    ProjectionBy numbers part (.array ys) ↔
      ∃ xs, part = .array xs ∧ List.Forall₂ (ProjectionBy numbers) xs ys := by
  rw [projectionBy_iff]
  cases part <;> simp

@[simp]
theorem projectionBy_object_right {part : Json} {ys : List (String × Json)} :
    ProjectionBy numbers part (.object ys) ↔
      ∃ xs, part = .object xs ∧ Entries.Matched (ProjectionBy numbers) xs ys := by
  rw [projectionBy_iff]
  cases part <;> simp

theorem projectionBy_array_iff {xs ys : List Json} :
    ProjectionBy numbers (.array xs) (.array ys) ↔
      List.Forall₂ (ProjectionBy numbers) xs ys := by
  simp

theorem projectionBy_object_iff {xs ys : List (String × Json)} :
    ProjectionBy numbers (.object xs) (.object ys) ↔
      Entries.Matched (ProjectionBy numbers) xs ys := by
  simp

/-- A well-formed value is a projection of itself. -/
theorem projectionBy_refl (equivalence : JsonNumber.Equivalence numbers) {value : Json}
    (formed : value.WellFormed) : ProjectionBy numbers value value := by
  induction value with
  | null => simp
  | bool value => simp
  | number x => simpa using equivalence.refl x
  | string text => simp
  | array elements ih =>
      rw [wellFormed_array] at formed
      refine projectionBy_array_left.mpr ⟨elements, rfl, List.forall₂_same.mpr ?_⟩
      intro element member
      exact ih element member (formed element member)
  | object members ih =>
      rcases wellFormed_object.mp formed with ⟨distinct, formedMembers⟩
      refine projectionBy_object_left.mpr ⟨members, rfl, ?_⟩
      intro member inside
      exact ⟨member.2, (Entries.lookup_eq_some_iff_mem distinct).mpr inside,
        ih member inside (formedMembers member inside)⟩

/-- A projection of a projection is a projection. -/
theorem ProjectionBy.trans (equivalence : JsonNumber.Equivalence numbers) {part middle whole : Json}
    (first : ProjectionBy numbers part middle) (second : ProjectionBy numbers middle whole) :
    ProjectionBy numbers part whole := by
  induction part generalizing middle whole with
  | null =>
      obtain rfl := projectionBy_null_left.mp first
      exact second
  | bool value =>
      obtain rfl := projectionBy_bool_left.mp first
      exact second
  | number x =>
      rcases projectionBy_number_left.mp first with ⟨y, rfl, sameFirst⟩
      rcases projectionBy_number_left.mp second with ⟨z, rfl, sameSecond⟩
      exact projectionBy_number_left.mpr ⟨z, rfl, equivalence.trans sameFirst sameSecond⟩
  | string text =>
      obtain rfl := projectionBy_string_left.mp first
      exact second
  | array xs ih =>
      rcases projectionBy_array_left.mp first with ⟨ys, rfl, firstElements⟩
      rcases projectionBy_array_left.mp second with ⟨zs, rfl, secondElements⟩
      refine projectionBy_array_left.mpr ⟨zs, rfl, firstElements.comp secondElements ?_⟩
      intro element member middle final partOfMiddle middleOfWhole
      exact ih element member partOfMiddle middleOfWhole
  | object xs ih =>
      rcases projectionBy_object_left.mp first with ⟨ys, rfl, firstMembers⟩
      rcases projectionBy_object_left.mp second with ⟨zs, rfl, secondMembers⟩
      refine projectionBy_object_left.mpr ⟨zs, rfl, ?_⟩
      intro member inside
      rcases firstMembers member inside with ⟨y, foundMiddle, partOfMiddle⟩
      rcases secondMembers.lookup foundMiddle with ⟨z, foundWhole, middleOfWhole⟩
      exact ⟨z, foundWhole, ih member inside partOfMiddle middleOfWhole⟩

/-- An array of well-formed projections is a well-formed projection. -/
theorem array_projection {elements results : List Json}
    (projected : List.Forall₂ (fun element result =>
      result.WellFormed ∧ ProjectionBy numbers result element) elements results) :
    WellFormed (.array results) ∧ ProjectionBy numbers (.array results) (.array elements) := by
  constructor
  · rw [wellFormed_array]
    intro result member
    rcases projected.exists_of_mem_right member with ⟨element, _, formed, _⟩
    exact formed
  · exact projectionBy_array_iff.mpr (projected.imp fun _ _ => And.right).flip

/-- An object of well-formed projections under distinct keys is a well-formed projection. -/
theorem object_projection {entries results : List (String × Json)}
    (distinct : Entries.Distinct results)
    (projected : Entries.Matched (fun result value =>
      result.WellFormed ∧ ProjectionBy numbers result value) results entries) :
    WellFormed (.object results) ∧ ProjectionBy numbers (.object results) (.object entries) := by
  constructor
  · refine wellFormed_object.mpr ⟨distinct, ?_⟩
    intro member inside
    rcases projected member inside with ⟨value, _, formed, _⟩
    exact formed
  · exact projectionBy_object_iff.mpr (projected.imp fun _ _ _ _ => And.right)

end Json

end ToolGate
