import Mathlib.Data.List.Forall2

/-!
# Lists that correspond element by element

Checking a list gives a list of results that correspond to its elements.
The lemmas here pass from such a correspondence to single elements and back.
-/

namespace List.Forall₂

variable {α β γ : Type _} {related : α → β → Prop} {left : List α} {right : List β}

theorem exists_of_mem_left (correspond : Forall₂ related left right) {element : α}
    (member : element ∈ left) : ∃ partner ∈ right, related element partner := by
  induction correspond with
  | nil => cases member
  | cons head tail ih =>
      rcases List.mem_cons.mp member with rfl | later
      · exact ⟨_, List.mem_cons_self, head⟩
      · rcases ih later with ⟨partner, inside, relation⟩
        exact ⟨partner, List.mem_cons_of_mem _ inside, relation⟩

theorem exists_of_mem_right (correspond : Forall₂ related left right) {partner : β}
    (member : partner ∈ right) : ∃ element ∈ left, related element partner :=
  exists_of_mem_left (Forall₂.flip correspond) member

/-- A relation between members of corresponding lists may be weakened. -/
theorem imp_of_mem {weaker : α → β → Prop} (correspond : Forall₂ related left right)
    (implies : ∀ element ∈ left, ∀ partner ∈ right, related element partner →
      weaker element partner) :
    Forall₂ weaker left right := by
  induction correspond with
  | nil => exact .nil
  | cons head tail ih =>
      refine .cons (implies _ List.mem_cons_self _ List.mem_cons_self head) (ih ?_)
      intro element member partner inside
      exact implies element (List.mem_cons_of_mem _ member) partner
        (List.mem_cons_of_mem _ inside)

/-- Elements that all have a partner have a list of partners. -/
theorem exists_of_forall (partners : ∀ element ∈ left, ∃ partner, related element partner) :
    ∃ results : List β, Forall₂ related left results := by
  induction left with
  | nil => exact ⟨[], .nil⟩
  | cons element rest ih =>
      rw [List.forall_mem_cons] at partners
      rcases partners.1 with ⟨partner, relation⟩
      rcases ih partners.2 with ⟨results, correspond⟩
      exact ⟨partner :: results, .cons relation correspond⟩

theorem exists_iff :
    (∃ results : List β, Forall₂ related left results) ↔
      ∀ element ∈ left, ∃ partner, related element partner := by
  constructor
  · rintro ⟨results, correspond⟩ element member
    rcases correspond.exists_of_mem_left member with ⟨partner, _, relation⟩
    exact ⟨partner, relation⟩
  · exact exists_of_forall

/-- Two correspondences with the same middle list compose. -/
theorem comp {other : List γ} {next : β → γ → Prop} {composed : α → γ → Prop}
    (first : Forall₂ related left right) (second : Forall₂ next right other)
    (compose : ∀ element ∈ left, ∀ middle final, related element middle → next middle final →
      composed element final) : Forall₂ composed left other := by
  induction first generalizing other with
  | nil =>
      obtain rfl := List.forall₂_nil_left_iff.mp second
      exact .nil
  | cons head tail ih =>
      rcases List.forall₂_cons_left_iff.mp second with ⟨final, others, nextHead, nextTail, rfl⟩
      rw [List.forall_mem_cons] at compose
      exact .cons (compose.1 _ _ head nextHead) (ih nextTail compose.2)

/-- The results for corresponding elements correspond. -/
theorem results {δ : Type _} {first : α → γ → Prop} {second : β → δ → Prop}
    {resulting : γ → δ → Prop} {firsts : List γ} {seconds : List δ}
    (correspond : Forall₂ related left right) (ofLeft : Forall₂ first left firsts)
    (ofRight : Forall₂ second right seconds)
    (implies : ∀ element ∈ left, ∀ partner ∈ right, ∀ result other, related element partner →
      first element result → second partner other → resulting result other) :
    Forall₂ resulting firsts seconds := by
  induction correspond generalizing firsts seconds with
  | nil =>
      cases ofLeft
      cases ofRight
      exact .nil
  | cons head tail ih =>
      rcases List.forall₂_cons_left_iff.mp ofLeft with ⟨result, _, isResult, restLeft, rfl⟩
      rcases List.forall₂_cons_left_iff.mp ofRight with ⟨other, _, isOther, restRight, rfl⟩
      refine .cons (implies _ List.mem_cons_self _ List.mem_cons_self _ _ head isResult isOther)
        (ih restLeft restRight ?_)
      intro element member partner inside
      exact implies element (List.mem_cons_of_mem _ member) partner
        (List.mem_cons_of_mem _ inside)

/-- Results for the pairs of two lists are results for the second list. -/
theorem zip_right {triple : α → β → γ → Prop} {results : List γ}
    (correspond : Forall₂ (fun pair result => triple pair.1 pair.2 result) (left.zip right) results)
    (same : right.length = left.length) :
    Forall₂ (fun partner result => ∃ element ∈ left, triple element partner result)
      right results := by
  have paired : Forall₂ (fun pair result => ∃ element ∈ left, triple element pair.2 result)
      (left.zip right) results :=
    correspond.imp_of_mem fun pair member result _ relation =>
      ⟨pair.1, (List.of_mem_zip member).1, relation⟩
  rw [← List.map_snd_zip (Nat.le_of_eq same)]
  exact List.forall₂_map_left_iff.mpr paired

/-- Results for the pairs of two lists are results for the first list. -/
theorem zip_left {triple : α → β → γ → Prop} {results : List γ}
    (correspond : Forall₂ (fun pair result => triple pair.1 pair.2 result) (left.zip right) results)
    (same : left.length = right.length) :
    Forall₂ (fun element result => ∃ partner ∈ right, triple element partner result)
      left results := by
  have paired : Forall₂ (fun pair result => ∃ partner ∈ right, triple pair.1 partner result)
      (left.zip right) results :=
    correspond.imp_of_mem fun pair member result _ relation =>
      ⟨pair.2, (List.of_mem_zip member).2, relation⟩
  rw [← List.map_fst_zip (Nat.le_of_eq same)]
  exact List.forall₂_map_left_iff.mpr paired

/-- Corresponding elements correspond at their indices too. -/
theorem zipIdx (correspond : Forall₂ related left right) (index : Nat) :
    Forall₂ (fun first second => related first.1 second.1 ∧ first.2 = second.2)
      (left.zipIdx index) (right.zipIdx index) := by
  induction correspond generalizing index with
  | nil => exact .nil
  | cons head tail ih => exact .cons ⟨head, rfl⟩ (ih (index + 1))

/-- Pairs of corresponding elements correspond in both parts. -/
theorem zip {δ : Type _} {next : γ → δ → Prop} {parts : List γ} {others : List δ}
    (first : Forall₂ related left right) (second : Forall₂ next parts others) :
    Forall₂ (fun pair other => related pair.1 other.1 ∧ next pair.2 other.2)
      (left.zip parts) (right.zip others) := by
  induction first generalizing parts others with
  | nil => exact .nil
  | cons head tail ih =>
      cases second with
      | nil => exact .nil
      | cons partHead partTail => exact .cons ⟨head, partHead⟩ (ih partTail)

/-- Corresponding elements correspond when each is paired with the same further one. -/
theorem zip_same (correspond : Forall₂ related left right) (parts : List γ) :
    Forall₂ (fun first second =>
        related first.1 second.1 ∧ first.2 = second.2 ∧ first.2 ∈ parts)
      (left.zip parts) (right.zip parts) := by
  have same : Forall₂ (fun part other => part = other ∧ part ∈ parts) parts parts :=
    List.forall₂_same.mpr fun _ member => ⟨rfl, member⟩
  exact correspond.zip same

/-- Lists that are made element by element are sublists if their pieces are. -/
theorem flatMap_sublist {first : α → List γ} {second : β → List γ}
    (correspond : Forall₂ (fun a b => (first a).Sublist (second b)) left right) :
    (left.flatMap first).Sublist (right.flatMap second) := by
  induction correspond with
  | nil => exact List.Sublist.refl _
  | cons head tail ih => exact head.append ih

/-- Corresponding elements with one image give one list of images. -/
theorem map_eq {first : α → γ} {second : β → γ}
    (correspond : Forall₂ (fun a b => first a = second b) left right) :
    left.map first = right.map second := by
  rw [← List.forall₂_eq_eq_eq, List.forall₂_map_left_iff, List.forall₂_map_right_iff]
  exact correspond

/-- Corresponding elements with one image, if any, give one list of images. -/
theorem filterMap_eq {first : α → Option γ} {second : β → Option γ}
    (correspond : Forall₂ (fun a b => first a = second b) left right) :
    left.filterMap first = right.filterMap second := by
  have images := congrArg (List.filterMap id) correspond.map_eq
  rwa [List.filterMap_map, List.filterMap_map, Function.id_comp, Function.id_comp] at images

end List.Forall₂
