import Mathlib.Data.List.Perm.Basic
import ToolGate.Proofs.Json.Equivalence

/-!
# The order of members

Equal values may have their members in different orders.  Most of what is
derived from two equal values then differs in its order too, and only if
their members do.  To prove both facts at once, the two possibilities are one
parameter: lists are either the same or permutations of each other, and
values are the same with their members so arranged.
-/

namespace ToolGate

/-- Whether a list keeps its order. -/
inductive MemberOrder where
  | kept
  | free

/-- The second list is the first one, in any order if the order is free. -/
def MemberOrder.Arranges (order : MemberOrder) {α : Type} (first second : List α) : Prop :=
  match order with
  | .kept => first = second
  | .free => first.Perm second

namespace MemberOrder

variable {order : MemberOrder} {α β : Type} {first second third : List α}

@[refl]
theorem Arranges.refl (list : List α) : order.Arranges list list := by
  cases order with
  | kept => exact Eq.refl list
  | free => exact List.Perm.refl list

theorem Arranges.perm (arranges : order.Arranges first second) : first.Perm second := by
  cases order with
  | kept => exact List.Perm.of_eq arranges
  | free => exact arranges

theorem Arranges.trans (before : order.Arranges first second)
    (after : order.Arranges second third) : order.Arranges first third := by
  cases order with
  | kept => exact Eq.trans before after
  | free => exact List.Perm.trans before after

theorem Arranges.eq_nil_iff (arranges : order.Arranges first second) :
    first = [] ↔ second = [] := by
  rw [← List.length_eq_zero_iff, ← List.length_eq_zero_iff, arranges.perm.length_eq]

theorem Arranges.append {others rest : List α} (heads : order.Arranges first second)
    (tails : order.Arranges others rest) : order.Arranges (first ++ others) (second ++ rest) := by
  cases order with
  | kept => exact congrArg₂ List.append heads tails
  | free => exact List.Perm.append heads tails

theorem Arranges.map (arranges : order.Arranges first second) (results : α → β) :
    order.Arranges (first.map results) (second.map results) := by
  cases order with
  | kept => exact congrArg (List.map results) arranges
  | free => exact List.Perm.map results arranges

theorem Arranges.filter (arranges : order.Arranges first second) (keep : α → Bool) :
    order.Arranges (first.filter keep) (second.filter keep) := by
  cases order with
  | kept => exact congrArg (List.filter keep) arranges
  | free => exact List.Perm.filter keep arranges

theorem Arranges.flatMap (arranges : order.Arranges first second) (pieces : α → List β) :
    order.Arranges (first.flatMap pieces) (second.flatMap pieces) := by
  cases order with
  | kept => exact congrArg (List.flatMap pieces) arranges
  | free => exact List.Perm.flatMap_right pieces arranges

/-- Lists made of arranged pieces are arranged. -/
theorem arranges_flatMap {γ : Type} {pieces : α → List γ} {others : β → List γ} {left : List α}
    {right : List β}
    (correspond : List.Forall₂ (fun a b => order.Arranges (pieces a) (others b)) left right) :
    order.Arranges (left.flatMap pieces) (right.flatMap others) := by
  induction correspond with
  | nil => rfl
  | cons head tail ih => exact head.append ih

end MemberOrder

namespace Json

/-- The values are the same, with the members of objects arranged as the order allows. -/
inductive SameUpTo (order : MemberOrder) : Json → Json → Prop where
  | null : SameUpTo order .null .null
  | bool (value : Bool) : SameUpTo order (.bool value) (.bool value)
  | number {x y : JsonNumber} (same : x.sameValue y = true) :
      SameUpTo order (.number x) (.number y)
  | string (text : String) : SameUpTo order (.string text) (.string text)
  | array {lefts rights : List Json} (elements : List.Forall₂ (SameUpTo order) lefts rights) :
      SameUpTo order (.array lefts) (.array rights)
  | object {lefts arranged rights : List (String × Json)}
      (arranges : order.Arranges lefts arranged)
      (names : Entries.names arranged = Entries.names rights)
      (values : List.Forall₂ (SameUpTo order) (arranged.map Prod.snd) (rights.map Prod.snd)) :
      SameUpTo order (.object lefts) (.object rights)

variable {order : MemberOrder} {left right : Json} {lefts rights : List (String × Json)}

theorem SameUpTo.exists_members (same : SameUpTo order (.object lefts) (.object rights)) :
    ∃ arranged, order.Arranges lefts arranged ∧
      List.Forall₂ (fun left right => right.1 = left.1 ∧ SameUpTo order left.2 right.2)
        arranged rights := by
  cases same with
  | @object _ arranged _ arranges names values =>
      have named : List.Forall₂ Eq (arranged.map Prod.fst) (rights.map Prod.fst) :=
        List.forall₂_eq_eq_eq ▸ names
      rw [List.forall₂_map_left_iff, List.forall₂_map_right_iff] at named values
      exact ⟨arranged, arranges,
        named.mp (fun _ _ sameName sameValue => ⟨sameName.symm, sameValue⟩) values⟩

theorem SameUpTo.ofMembers {arranged : List (String × Json)}
    (arranges : order.Arranges lefts arranged)
    (members : List.Forall₂ (fun left right => right.1 = left.1 ∧ SameUpTo order left.2 right.2)
      arranged rights) : SameUpTo order (.object lefts) (.object rights) := by
  refine .object arranges ?_ ?_
  · exact (Entries.names_eq_of_forall₂ (members.imp fun _ _ => And.left)).symm
  · rw [List.forall₂_map_left_iff, List.forall₂_map_right_iff]
    exact members.imp fun _ _ => And.right

/-- What is found under a key in one object has its counterpart there in the other. -/
theorem SameUpTo.lookup (same : SameUpTo order (.object lefts) (.object rights))
    (distinct : Entries.Distinct lefts) (key : String) :
    Option.Rel (SameUpTo order) (lefts.lookup key) (rights.lookup key) := by
  rcases same.exists_members with ⟨arranged, arranges, members⟩
  rw [Entries.lookup_eq_of_perm distinct arranges.perm]
  exact Entries.rel_lookup_of_forall₂ members key

/-- Values that are the same but for the order of members have the same value. -/
theorem SameUpTo.equivalent (same : SameUpTo order left right) (formedLeft : left.WellFormed)
    (formedRight : right.WellFormed) : EquivalentBy JsonNumber.sameValue left right := by
  induction left generalizing right with
  | null =>
      cases same
      exact .refl JsonNumber.sameValue_equivalence formedLeft
  | bool value =>
      cases same
      exact .refl JsonNumber.sameValue_equivalence formedLeft
  | string text =>
      cases same
      exact .refl JsonNumber.sameValue_equivalence formedLeft
  | number x =>
      cases same with
      | @number _ y same =>
          have back := JsonNumber.sameValue_equivalence.symm same
          exact ⟨projectionBy_number_left.mpr ⟨y, rfl, same⟩,
            projectionBy_number_left.mpr ⟨x, rfl, back⟩⟩
  | array lefts ih =>
      cases same with
      | array elements =>
          rw [wellFormed_array] at formedLeft formedRight
          apply equivalentBy_array_iff.mpr
          apply elements.imp_of_mem
          intro left member right partner same
          exact ih left member same (formedLeft left member) (formedRight right partner)
  | object lefts ih =>
      have isObject : ∃ rights, right = .object rights := by
        cases same
        exact ⟨_, rfl⟩
      rcases isObject with ⟨rights, rfl⟩
      have distinctLeft := (wellFormed_object.mp formedLeft).1
      have distinctRight := (wellFormed_object.mp formedRight).1
      apply (equivalentBy_object_iff distinctLeft distinctRight).mpr
      intro key
      have related := same.lookup distinctLeft key
      generalize foundLeft : lefts.lookup key = first at related ⊢
      generalize foundRight : rights.lookup key = second at related ⊢
      cases related with
      | none => exact .none
      | some same =>
          exact .some (ih _ (Entries.mem_of_lookup foundLeft) same
            (formedLeft.lookup foundLeft) (formedRight.lookup foundRight))

/-- The members of an object can be put into the order of an equivalent object. -/
theorem EquivalentBy.exists_arranged {numbers : JsonNumber → JsonNumber → Bool}
    (same : EquivalentBy numbers (.object lefts) (.object rights))
    (distinctLeft : Entries.Distinct lefts) (distinctRight : Entries.Distinct rights) :
    ∃ arranged, lefts.Perm arranged ∧
      List.Forall₂ (fun left right => right.1 = left.1 ∧ EquivalentBy numbers left.2 right.2)
        arranged rights := by
  have forward := projectionBy_object_iff.mp same.1
  have backward := projectionBy_object_iff.mp same.2
  have partners : ∀ right ∈ rights, ∃ left : String × Json, left ∈ lefts ∧
      right.1 = left.1 ∧ EquivalentBy numbers left.2 right.2 := by
    intro right member
    rcases backward.and forward distinctRight right member with ⟨left, found, both⟩
    exact ⟨(right.1, left), Entries.mem_of_lookup found, rfl, both.symm⟩
  rcases List.Forall₂.exists_of_forall partners with ⟨arranged, correspond⟩
  have members := (correspond.imp fun _ _ => And.right).flip
  have names : Entries.names rights = Entries.names arranged :=
    Entries.names_eq_of_forall₂ (members.imp fun _ _ => And.left)
  refine ⟨arranged, ?_, members⟩
  have inside : arranged ⊆ lefts := by
    intro left member
    rcases correspond.exists_of_mem_right member with ⟨_, _, listed, _⟩
    exact listed
  have distinct : Entries.Distinct arranged := by
    rwa [Entries.Distinct, ← names]
  have sameLength : lefts.length = arranged.length :=
    (forward.length_eq backward distinctLeft distinctRight).trans
      correspond.length_eq
  exact ((List.Nodup.subperm (List.Nodup.of_map _ distinct) inside).perm_of_length_le
    (Nat.le_of_eq sameLength)).symm

/-- Values of the same value are the same but for the order of members. -/
theorem EquivalentBy.sameUpTo (same : EquivalentBy JsonNumber.sameValue left right)
    (formedLeft : left.WellFormed) (formedRight : right.WellFormed) :
    SameUpTo .free left right := by
  induction left generalizing right with
  | null =>
      obtain rfl := projectionBy_null_left.mp same.1
      exact .null
  | bool value =>
      obtain rfl := projectionBy_bool_left.mp same.1
      exact .bool value
  | string text =>
      obtain rfl := projectionBy_string_left.mp same.1
      exact .string text
  | number x =>
      rcases projectionBy_number_left.mp same.1 with ⟨y, rfl, sameNumber⟩
      exact .number sameNumber
  | array lefts ih =>
      rcases same.exists_array with ⟨rights, rfl, elements⟩
      rw [wellFormed_array] at formedLeft formedRight
      apply SameUpTo.array
      apply elements.imp_of_mem
      intro left member right partner equivalent
      exact ih left member equivalent (formedLeft left member) (formedRight right partner)
  | object lefts ih =>
      rcases same.exists_object with ⟨rights, rfl⟩
      rcases wellFormed_object.mp formedLeft with ⟨distinctLeft, formedLefts⟩
      rcases wellFormed_object.mp formedRight with ⟨distinctRight, formedRights⟩
      rcases same.exists_arranged distinctLeft distinctRight with ⟨arranged, perm, members⟩
      have arranges : MemberOrder.free.Arranges lefts arranged := perm
      apply SameUpTo.ofMembers arranges
      apply members.imp_of_mem
      rintro left member right partner ⟨sameKey, equivalent⟩
      have listed : left ∈ lefts := perm.mem_iff.mpr member
      exact ⟨sameKey, ih left listed equivalent (formedLefts left listed)
        (formedRights right partner)⟩

end Json

end ToolGate
