import ToolGate.Proofs.Schema.Compilation

/-!
# Compilation respects relations of validators

Two nodes correspond if they differ at most in their description and in
children that correspond.  A relation of validators that passes through every
kind that compilation makes passes from corresponding children to the nodes.
So what is to be shown of a replacement somewhere in a schema is shown once
for each kind of validator, and the keywords that decide what a node means
need no further care.
-/

namespace ToolGate

/-- Fields of one name that may be missing alike, with related validators. -/
structure FieldRelated (related : Validator → Validator → Prop) (first second : String × Field) :
    Prop where
  name : first.1 = second.1
  optional : first.2.optional = second.2.optional
  validator : related first.2.validator second.2.validator

/--
A relation that passes through the kinds made by compilation, on the left
under one policy and on the right under another.
-/
structure CompilationCongruence (left right : UnknownKeys)
    (related : Validator → Validator → Prop) : Prop where
  refl : ∀ validator, related validator validator
  described : ∀ {first second} text other, related first second →
    related (first.withDescription text) (second.withDescription other)
  nullable : ∀ {first second}, related first second →
    related (.ofKind (.nullable first)) (.ofKind (.nullable second))
  array : ∀ {first second} minItems maxItems, related first second →
    related (.ofKind (.array ⟨some first, minItems, maxItems⟩))
      (.ofKind (.array ⟨some second, minItems, maxItems⟩))
  tuple : ∀ {firsts seconds}, List.Forall₂ related firsts seconds →
    related (.ofKind (.tuple firsts)) (.ofKind (.tuple seconds))
  object : ∀ {firsts seconds}, List.Forall₂ (FieldRelated related) firsts seconds →
    related (.ofKind (.object ⟨firsts, left⟩)) (.ofKind (.object ⟨seconds, right⟩))
  record : ∀ {first second}, related first second →
    related (.ofKind (.record first)) (.ofKind (.record second))
  union : ∀ {firsts seconds}, List.Forall₂ related firsts seconds →
    related (.ofKind (.union firsts)) (.ofKind (.union seconds))
  intersection : ∀ {firsts seconds}, List.Forall₂ related firsts seconds →
    (∀ branch ∈ firsts, branch.WellFormed) → (∀ branch ∈ seconds, branch.WellFormed) →
      related (.ofKind (.intersection firsts)) (.ofKind (.intersection seconds))

/-- What decides the meaning of two nodes is the same but for related branches. -/
inductive NodeKind.Related (related : SchemaNode → SchemaNode → Prop) :
    NodeKind → NodeKind → Prop where
  | constant (value : Json) : Related related (.constant value) (.constant value)
  | union {firsts seconds : List SchemaNode} (branches : List.Forall₂ related firsts seconds) :
      Related related (.union firsts) (.union seconds)
  | intersection {firsts seconds : List SchemaNode}
      (branches : List.Forall₂ related firsts seconds) :
      Related related (.intersection firsts) (.intersection seconds)
  | typed (type : Option SchemaType) : Related related (.typed type) (.typed type)

namespace SchemaNode

/-- The nodes have the same keywords, apart from the description, and related children. -/
structure Corresponds (related : SchemaNode → SchemaNode → Prop) (before after : SchemaNode) :
    Prop where
  keywords : ∃ text, after.keywords = { before.keywords with description := text }
  properties : Option.Rel (List.Forall₂ fun entry other =>
    entry.1 = other.1 ∧ related entry.2 other.2) before.properties after.properties
  additionalProperties : Option.Rel related before.additionalProperties after.additionalProperties
  items : Option.Rel related before.items after.items
  prefixItems : Option.Rel (List.Forall₂ related) before.prefixItems after.prefixItems
  anyOf : Option.Rel (List.Forall₂ related) before.anyOf after.anyOf
  oneOf : Option.Rel (List.Forall₂ related) before.oneOf after.oneOf
  allOf : Option.Rel (List.Forall₂ related) before.allOf after.allOf

variable {related : SchemaNode → SchemaNode → Prop} {before after : SchemaNode}

theorem Corresponds.alternatives (corresponds : Corresponds related before after) :
    Option.Rel (List.Forall₂ related) before.alternatives after.alternatives := by
  have first := corresponds.anyOf
  have second := corresponds.oneOf
  unfold SchemaNode.alternatives
  generalize before.anyOf = anyBefore, after.anyOf = anyAfter at first ⊢
  cases first with
  | some branches => exact .some branches
  | none => exact second

theorem Corresponds.kind (corresponds : Corresponds related before after) :
    NodeKind.Related related before.kind after.kind := by
  rcases corresponds.keywords with ⟨text, keywords⟩
  have alternatives := corresponds.alternatives
  have conjunction := corresponds.allOf
  unfold SchemaNode.alternatives at alternatives
  unfold SchemaNode.kind
  simp only [keywords]
  cases before.keywords.constant with
  | some value => exact .constant value
  | none =>
      generalize (before.anyOf <|> before.oneOf) = firsts,
        (after.anyOf <|> after.oneOf) = seconds at alternatives ⊢
      cases alternatives with
      | some branches => exact .union branches
      | none =>
          generalize before.allOf = firsts, after.allOf = seconds at conjunction ⊢
          cases conjunction with
          | some branches => exact .intersection branches
          | none => exact .typed _

end SchemaNode

namespace CompilationCongruence

open SchemaNode Validator

variable {left right : UnknownKeys} {related : Validator → Validator → Prop}

theorem compose (congruence : CompilationCongruence left right related)
    {join : List Validator → ValidatorKind} {firsts seconds : List Validator}
    (branches : List.Forall₂ related firsts seconds)
    (joined : related (ofKind (join firsts)) (ofKind (join seconds))) :
    related (SchemaNode.compose join firsts) (SchemaNode.compose join seconds) := by
  cases branches with
  | nil => exact congruence.refl _
  | cons head tail =>
      cases tail with
      | nil => exact head
      | cons second rest => exact joined

theorem finish (congruence : CompilationCongruence left right related) {first second : Validator}
    (cores : related first second) (keywords : Keywords) (text : Option String) :
    related (SchemaNode.finish keywords first)
      (SchemaNode.finish { keywords with description := text } second) := by
  have described := congruence.described (keywords.description.getD "") (text.getD "") cores
  by_cases nullable : keywords.nullable = true
  · simp only [SchemaNode.finish, nullable, ↓reduceIte]
    exact congruence.described _ _ (congruence.nullable described)
  · simp only [SchemaNode.finish, nullable, ↓reduceIte, Bool.false_eq_true]
    exact described

/-- The nodes compile to related validators. -/
def Relates (left right : UnknownKeys) (related : Validator → Validator → Prop)
    (before after : SchemaNode) : Prop :=
  related (before.compile left) (after.compile right)

theorem compileObject (congruence : CompilationCongruence left right related)
    {before after : SchemaNode}
    (corresponds : Corresponds (Relates left right related) before after) :
    related
      (SchemaNode.compileObject left
        (before.properties.map fun entries =>
          entries.map fun entry => (entry.1, ⟨entry.2.compile left, false⟩))
        (before.additionalProperties.map (compile left)))
      (SchemaNode.compileObject right
        (after.properties.map fun entries =>
          entries.map fun entry => (entry.1, ⟨entry.2.compile right, false⟩))
        (after.additionalProperties.map (compile right))) := by
  have declared := corresponds.properties
  have values := corresponds.additionalProperties
  generalize before.properties = firsts, after.properties = seconds at declared ⊢
  cases declared with
  | some entries =>
      apply congruence.object
      rw [List.forall₂_map_left_iff, List.forall₂_map_right_iff]
      exact entries.imp fun _ _ both => ⟨both.1, rfl, both.2⟩
  | none =>
      generalize before.additionalProperties = first, after.additionalProperties = second
        at values ⊢
      cases values with
      | some values => exact congruence.record values
      | none => exact congruence.refl _

theorem branches {firsts seconds : List SchemaNode}
    (nodes : List.Forall₂ (Relates left right related) firsts seconds) :
    List.Forall₂ related (firsts.map (compile left)) (seconds.map (compile right)) := by
  rw [List.forall₂_map_left_iff, List.forall₂_map_right_iff]
  exact nodes

theorem compileArray (congruence : CompilationCongruence left right related)
    {before after : SchemaNode}
    (corresponds : Corresponds (Relates left right related) before after) :
    related
      (SchemaNode.compileArray before.keywords
        (before.prefixItems.map fun nodes => nodes.map (compile left))
        (before.items.map (compile left)))
      (SchemaNode.compileArray after.keywords
        (after.prefixItems.map fun nodes => nodes.map (compile right))
        (after.items.map (compile right))) := by
  rcases corresponds.keywords with ⟨text, keywords⟩
  have slots := corresponds.prefixItems
  have items := corresponds.items
  generalize before.prefixItems = firsts, after.prefixItems = seconds at slots ⊢
  cases slots with
  | some nodes => exact congruence.tuple (branches nodes)
  | none =>
      generalize before.items = first, after.items = second at items ⊢
      rw [keywords]
      cases items with
      | some items => exact congruence.array _ _ items
      | none => exact congruence.refl _

/-- Corresponding nodes compile to related validators if their conjunctions do. -/
theorem compile_of_conjunctions (congruence : CompilationCongruence left right related)
    {before after : SchemaNode}
    (conjunctions : ∀ nodes others, before.allOf = some nodes → after.allOf = some others →
      List.Forall₂ related (nodes.map (SchemaNode.compile left))
        (others.map (SchemaNode.compile right)) →
          related (ofKind (.intersection (nodes.map (SchemaNode.compile left))))
            (ofKind (.intersection (others.map (SchemaNode.compile right)))))
    (corresponds : Corresponds (Relates left right related) before after) :
    related (before.compile left) (after.compile right) := by
  rcases corresponds.keywords with ⟨text, keywords⟩
  rw [compile_eq, compile_eq, keywords]
  apply congruence.finish
  have kinds := corresponds.kind
  unfold core
  cases kind : before.kind with
  | constant value =>
      rw [kind] at kinds
      generalize after.kind = other at kinds ⊢
      cases kinds
      exact congruence.refl _
  | union nodes =>
      rw [kind] at kinds
      generalize after.kind = other at kinds ⊢
      cases kinds with
      | union nodes =>
          have pairwise := branches nodes
          exact congruence.compose pairwise (congruence.union pairwise)
  | intersection nodes =>
      cases kindAfter : after.kind with
      | intersection others =>
          rw [kind, kindAfter] at kinds
          cases kinds with
          | intersection related =>
              have pairwise := branches related
              have given := (kind_eq_intersection_iff.mp kind).2.2
              have givenAfter := (kind_eq_intersection_iff.mp kindAfter).2.2
              exact congruence.compose pairwise
                (conjunctions nodes others given givenAfter pairwise)
      | _ =>
          rw [kind, kindAfter] at kinds
          cases kinds
  | typed type =>
      rw [kind] at kinds
      generalize after.kind = other at kinds ⊢
      cases kinds with
      | typed =>
          cases type with
          | none => exact congruence.refl _
          | some type =>
              cases type with
              | object => exact congruence.compileObject corresponds
              | array => exact congruence.compileArray corresponds
              -- all other types are compiled from keywords alone
              | _ =>
                  rw [keywords]
                  exact congruence.refl _

/-- Corresponding nodes compile to related validators. -/
theorem compile (congruence : CompilationCongruence left right related)
    {before after : SchemaNode} (formedBefore : before.WellFormed) (formedAfter : after.WellFormed)
    (corresponds : Corresponds (Relates left right related) before after) :
    related (before.compile left) (after.compile right) := by
  apply congruence.compile_of_conjunctions ?_ corresponds
  intro nodes others given givenAfter pairwise
  have sound : ∀ branch ∈ nodes.map (SchemaNode.compile left), branch.WellFormed := by
    rw [List.forall_mem_map]
    intro node member
    exact compile_wellFormed left (formedBefore.child (conjunct_mem_children given member))
  have soundAfter : ∀ branch ∈ others.map (SchemaNode.compile right), branch.WellFormed := by
    rw [List.forall_mem_map]
    intro node member
    exact compile_wellFormed right (formedAfter.child (conjunct_mem_children givenAfter member))
  exact congruence.intersection pairwise sound soundAfter

end CompilationCongruence

end ToolGate
