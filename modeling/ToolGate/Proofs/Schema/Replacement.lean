import ToolGate.Proofs.Schema.Congruence

/-!
# Replacing a node in a schema

A node may occur at any depth of a schema, under any of the seven keywords
that hold nodes.  To replace one occurrence is to replace it in one child and
to leave everything else as it is.  A congruence that relates the old node to
the new one relates the whole schema before to the whole schema after.
-/

namespace ToolGate.SchemaNode

/-- One occurrence of a node, at any depth, is replaced by another node. -/
inductive Replaced (old new : SchemaNode) : SchemaNode → SchemaNode → Prop where
  | here : Replaced old new old new
  | properties {node child other : SchemaNode} {front back : List (String × SchemaNode)}
      {name : String} (given : node.properties = some (front ++ (name, child) :: back))
      (inner : Replaced old new child other) :
      Replaced old new node { node with properties := some (front ++ (name, other) :: back) }
  | additionalProperties {node child other : SchemaNode}
      (given : node.additionalProperties = some child) (inner : Replaced old new child other) :
      Replaced old new node { node with additionalProperties := some other }
  | items {node child other : SchemaNode} (given : node.items = some child)
      (inner : Replaced old new child other) :
      Replaced old new node { node with items := some other }
  | prefixItems {node child other : SchemaNode} {front back : List SchemaNode}
      (given : node.prefixItems = some (front ++ child :: back))
      (inner : Replaced old new child other) :
      Replaced old new node { node with prefixItems := some (front ++ other :: back) }
  | anyOf {node child other : SchemaNode} {front back : List SchemaNode}
      (given : node.anyOf = some (front ++ child :: back)) (inner : Replaced old new child other) :
      Replaced old new node { node with anyOf := some (front ++ other :: back) }
  | oneOf {node child other : SchemaNode} {front back : List SchemaNode}
      (given : node.oneOf = some (front ++ child :: back)) (inner : Replaced old new child other) :
      Replaced old new node { node with oneOf := some (front ++ other :: back) }
  | allOf {node child other : SchemaNode} {front back : List SchemaNode}
      (given : node.allOf = some (front ++ child :: back)) (inner : Replaced old new child other) :
      Replaced old new node { node with allOf := some (front ++ other :: back) }

/-- What is replaced is a part of the schema, and as well formed as the schema is. -/
theorem Replaced.old_wellFormed {old new before after : SchemaNode}
    (replaced : Replaced old new before after) (formed : before.WellFormed) : old.WellFormed := by
  induction replaced with
  | here => exact formed
  | @properties node child _ _ _ name given inner ih =>
      have inside : child ∈ node.children :=
        mem_children_iff.mpr (.inl ⟨_, given, (name, child), by simp, rfl⟩)
      exact ih (formed.child inside)
  | additionalProperties given inner ih =>
      exact ih (formed.child (additionalProperties_mem_children given))
  | items given inner ih => exact ih (formed.child (items_mem_children given))
  | prefixItems given inner ih => exact ih (formed.child (slot_mem_children given (by simp)))
  | anyOf given inner ih => exact ih (formed.child (mem_children_iff.mpr (by simp [given])))
  | oneOf given inner ih => exact ih (formed.child (mem_children_iff.mpr (by simp [given])))
  | allOf given inner ih => exact ih (formed.child (conjunct_mem_children given (by simp)))

section Corresponds

variable {related weaker : SchemaNode → SchemaNode → Prop} {before after : SchemaNode}

theorem rel_refl {α : Type} {relation : α → α → Prop} (refl : ∀ item, relation item item)
    (item : Option α) : Option.Rel relation item item := by
  cases item with
  | some value => exact .some (refl value)
  | none => exact .none

theorem rel_imp {α β : Type} {relation weaker : α → β → Prop} {first : Option α}
    {second : Option β} (rel : Option.Rel relation first second)
    (implies : ∀ item, first = some item → ∀ other, relation item other → weaker item other) :
    Option.Rel weaker first second := by
  cases rel with
  | some relation => exact .some (implies _ rfl _ relation)
  | none => exact .none

/-- Every node corresponds to itself. -/
theorem corresponds_refl (refl : ∀ node, related node node) (node : SchemaNode) :
    Corresponds related node node where
  keywords := ⟨node.keywords.description, rfl⟩
  properties := rel_refl (fun _ => List.forall₂_same.mpr fun entry _ => ⟨rfl, refl entry.2⟩) _
  additionalProperties := rel_refl refl _
  items := rel_refl refl _
  prefixItems := rel_refl (fun _ => List.forall₂_same.mpr fun child _ => refl child) _
  anyOf := rel_refl (fun _ => List.forall₂_same.mpr fun child _ => refl child) _
  oneOf := rel_refl (fun _ => List.forall₂_same.mpr fun child _ => refl child) _
  allOf := rel_refl (fun _ => List.forall₂_same.mpr fun child _ => refl child) _

/-- The relation of the children may be weakened. -/
theorem Corresponds.imp (corresponds : Corresponds related before after)
    (implies : ∀ child ∈ before.children, ∀ other, related child other → weaker child other) :
    Corresponds weaker before after where
  keywords := corresponds.keywords
  properties := rel_imp corresponds.properties fun _ declared _ entries =>
    entries.imp_of_mem fun _ member _ _ both =>
      ⟨both.1, implies _ (property_mem_children declared member) _ both.2⟩
  additionalProperties := rel_imp corresponds.additionalProperties fun child given =>
    implies child (additionalProperties_mem_children given)
  items := rel_imp corresponds.items fun child given => implies child (items_mem_children given)
  prefixItems := rel_imp corresponds.prefixItems fun _ given _ slots =>
    slots.imp_of_mem fun child member other _ =>
      implies child (slot_mem_children given member) other
  anyOf := rel_imp corresponds.anyOf fun _ given _ branches =>
    branches.imp_of_mem fun child member other _ =>
      implies child (mem_children_iff.mpr (by simp [given, member])) other
  oneOf := rel_imp corresponds.oneOf fun _ given _ branches =>
    branches.imp_of_mem fun child member other _ =>
      implies child (mem_children_iff.mpr (by simp [given, member])) other
  allOf := rel_imp corresponds.allOf fun _ given _ branches =>
    branches.imp_of_mem fun child member other _ =>
      implies child (conjunct_mem_children given member) other

/-- A node that corresponds to a well-formed one is well formed if its children are. -/
theorem Corresponds.wellFormed
    (corresponds : Corresponds (fun _ other => other.WellFormed) before after)
    (formed : before.WellFormed) : after.WellFormed := by
  have single : ∀ {first second : Option SchemaNode},
      Option.Rel (fun _ other => SchemaNode.WellFormed other) first second →
        ∀ child ∈ second, child.WellFormed := by
    rintro first second (formed | _) child given
    · cases given
      exact formed
    · cases given
  have listed : ∀ {first second : Option (List SchemaNode)},
      Option.Rel (List.Forall₂ fun _ other => SchemaNode.WellFormed other) first second →
        ∀ nodes ∈ second, ∀ child ∈ nodes, child.WellFormed := by
    rintro first second (pairs | _) nodes given child member
    · cases given
      rcases pairs.exists_of_mem_right member with ⟨_, _, formed⟩
      exact formed
    · cases given
  rcases corresponds.keywords with ⟨text, keywords⟩
  rcases wellFormed_iff.mp formed with ⟨constant, enumeration, properties, _⟩
  refine wellFormed_iff.mpr ⟨?_, ?_, ?_, single corresponds.additionalProperties,
    single corresponds.items, listed corresponds.prefixItems, listed corresponds.anyOf,
    listed corresponds.oneOf, listed corresponds.allOf⟩
  · rw [keywords]
    exact constant
  · rw [keywords]
    exact enumeration
  · have declared := corresponds.properties
    generalize before.properties = first, after.properties = second at declared properties ⊢
    rintro entries given
    cases declared with
    | none => cases given
    | some pairs =>
        cases given
        constructor
        · have names := Entries.names_eq_of_forall₂ (pairs.imp fun _ _ both => both.1.symm)
          rw [Entries.Distinct, names]
          exact (properties _ rfl).1
        · intro entry member
          rcases pairs.exists_of_mem_right member with ⟨_, _, _, formed⟩
          exact formed

end Corresponds

theorem forall₂_replaced {α : Type} {relation : α → α → Prop} (refl : ∀ item, relation item item)
    {one other : α} (front back : List α) (replaced : relation one other) :
    List.Forall₂ relation (front ++ one :: back) (front ++ other :: back) := by
  induction front with
  | nil => exact .cons replaced (List.forall₂_same.mpr fun item _ => refl item)
  | cons first rest ih => exact .cons (refl first) ih

/-- A reflexive relation that passes from children to nodes relates before and after. -/
theorem Replaced.induct {related : SchemaNode → SchemaNode → Prop}
    {old new before after : SchemaNode} (replaced : Replaced old new before after)
    (refl : ∀ node, related node node)
    (passes : ∀ {before after}, Corresponds related before after → related before after)
    (base : related old new) : related before after := by
  induction replaced with
  | here => exact base
  | @properties node child other front back name given inner ih =>
      apply passes
      exact { corresponds_refl refl node with
        properties := by
          rw [given]
          exact .some (forall₂_replaced (fun entry => ⟨rfl, refl entry.2⟩) front back ⟨rfl, ih⟩) }
  | @additionalProperties node child other given inner ih =>
      apply passes
      exact { corresponds_refl refl node with
        additionalProperties := by
          rw [given]
          exact .some ih }
  | @items node child other given inner ih =>
      apply passes
      exact { corresponds_refl refl node with
        items := by
          rw [given]
          exact .some ih }
  | @prefixItems node child other front back given inner ih =>
      apply passes
      exact { corresponds_refl refl node with
        prefixItems := by
          rw [given]
          exact .some (forall₂_replaced refl front back ih) }
  | @anyOf node child other front back given inner ih =>
      apply passes
      exact { corresponds_refl refl node with
        anyOf := by
          rw [given]
          exact .some (forall₂_replaced refl front back ih) }
  | @oneOf node child other front back given inner ih =>
      apply passes
      exact { corresponds_refl refl node with
        oneOf := by
          rw [given]
          exact .some (forall₂_replaced refl front back ih) }
  | @allOf node child other front back given inner ih =>
      apply passes
      exact { corresponds_refl refl node with
        allOf := by
          rw [given]
          exact .some (forall₂_replaced refl front back ih) }

/-- A congruence that relates the old node to the new one relates the schemas around them. -/
theorem Replaced.compile_related {policy : UnknownKeys} {related : Validator → Validator → Prop}
    (congruence : CompilationCongruence policy policy related) {old new before after : SchemaNode}
    (replaced : Replaced old new before after) (formed : before.WellFormed)
    (formedNew : new.WellFormed) (base : related (old.compile policy) (new.compile policy)) :
    related (before.compile policy) (after.compile policy) := by
  have both : before.WellFormed →
      after.WellFormed ∧ related (before.compile policy) (after.compile policy) := by
    apply replaced.induct
    · intro node formed
      exact ⟨formed, congruence.refl _⟩
    · intro before after corresponds formed
      have inside := corresponds.imp fun child member other implies =>
        implies (formed.child member)
      have formedAfter := (inside.imp fun _ _ _ => And.left).wellFormed formed
      exact ⟨formedAfter,
        congruence.compile formed formedAfter (inside.imp fun _ _ _ => And.right)⟩
    · intro _
      exact ⟨formedNew, base⟩
  exact (both formed).2

end ToolGate.SchemaNode
