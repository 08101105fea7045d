import Mathlib.Logic.Relation
import ToolGate.Proofs.Schema.Replacement
import ToolGate.Proofs.Validator.Interchange

/-!
# What a schema may say at no cost

A composition of one branch is that branch, and a description is for people
only.  Compilation drops the former and copies the latter to where no check
looks, so a node that is restated in one of these ways compiles to a
validator that no input tells from the old one.  As this relation of
validators passes through all that compilation builds, nodes may be restated
anywhere in a schema, one after the other, inside each other too.
-/

namespace ToolGate

namespace SchemaNode

/-- The node with another description, or without one. -/
def describedAs (node : SchemaNode) (text : Option String) : SchemaNode :=
  { node with keywords := { node.keywords with description := text } }

/-- The second node is the first as the only branch of a composition, or with other words. -/
inductive Restated (node : SchemaNode) : SchemaNode → Prop where
  | anyOf : Restated node { anyOf := some [node] }
  | oneOf : Restated node { oneOf := some [node] }
  | allOf : Restated node { allOf := some [node] }
  | described (text : Option String) : Restated node (node.describedAs text)

/-- One node of the schema, at any depth, is restated. -/
def RestatedWithin (before after : SchemaNode) : Prop :=
  ∃ old new, Restated old new ∧ Replaced old new before after

/-- The nodes compile to validators that no input tells apart. -/
def Indistinct (policy : UnknownKeys) (before after : SchemaNode) : Prop :=
  (before.compile policy).Interchangeable (after.compile policy)

/-- A node that adds at most a description to the validator of another is indistinct from it. -/
theorem indistinct_of_core {policy : UnknownKeys} {old new : SchemaNode}
    (core : new.core policy = old.compile policy) (plain : new.keywords.nullable = false) :
    Indistinct policy old new := by
  rw [Indistinct, compile_eq policy new, core, finish, plain]
  exact Validator.interchangeable_withDescription _ _

theorem Restated.indistinct {old new : SchemaNode} (restated : Restated old new)
    (policy : UnknownKeys) : Indistinct policy old new := by
  cases restated with
  | anyOf => exact indistinct_of_core rfl rfl
  | oneOf => exact indistinct_of_core rfl rfl
  | allOf => exact indistinct_of_core rfl rfl
  | described text =>
      have sameCore : (old.describedAs text).core policy = old.core policy := rfl
      rw [Indistinct, compile_eq, compile_eq, sameCore]
      exact (Validator.interchangeable_congruence policy).finish (.refl _) old.keywords text

/-- Corresponding children that are indistinct make indistinct nodes. -/
theorem indistinct_of_corresponds {policy : UnknownKeys} {before after : SchemaNode}
    (corresponds : Corresponds (Indistinct policy) before after) :
    Indistinct policy before after := by
  apply (Validator.interchangeable_congruence policy).compile_of_conjunctions ?_ corresponds
  -- equal verdicts of the branches are merged alike, whether they fit together or not
  intro nodes others _ _ branches
  exact .intersection branches

theorem RestatedWithin.indistinct {before after : SchemaNode}
    (restated : RestatedWithin before after) (policy : UnknownKeys) :
    Indistinct policy before after := by
  rcases restated with ⟨old, new, restated, replaced⟩
  exact replaced.induct (fun node => .refl (node.compile policy)) indistinct_of_corresponds
    (restated.indistinct policy)

end SchemaNode

open SchemaNode

/--
Restating is free.  However many nodes of a schema are wrapped as the only
branch of a composition, unwrapped, or given other descriptions, at whatever
depth, parsing gives the same for every value and for absence: the same
output, or the same issues with their paths and their numbers of branches.
-/
theorem parse_restated {before after : SchemaNode}
    (restated : Relation.EqvGen RestatedWithin before after) (policy : UnknownKeys)
    (given : Option Json) :
    (before.compile policy).parse given = (after.compile policy).parse given := by
  have indistinct : Indistinct policy before after := by
    induction restated with
    | rel before after restated => exact restated.indistinct policy
    | refl node => exact .refl (node.compile policy)
    | symm before after _ ih => exact ih.symm
    | trans before between after _ _ first second => exact first.trans second
  exact indistinct given

/-- A branch inside a union inside an object is wrapped, and then the union is described. -/
theorem parse_restated_wrapped_branch :
    let whole : SchemaNode := { keywords := { type := some .integer } }
    let text : SchemaNode := { keywords := { type := some .string } }
    let union (branch : SchemaNode) : SchemaNode := { anyOf := some [branch, text] }
    let object (size : SchemaNode) : SchemaNode :=
      { keywords := { type := some .object }, properties := some [("size", size)] }
    let wrapped := union { allOf := some [whole] }
    let before := object (union whole)
    let after := object (wrapped.describedAs (some "The size."))
    let refused : Except (List Issue) Json := .error [⟨[.key "size"], .noMatchingBranch 2⟩]
    Relation.EqvGen RestatedWithin before after ∧
      (before.compile .strict).parse (some (.object [("size", .bool true)])) = refused ∧
      (after.compile .strict).parse (some (.object [("size", .bool true)])) = refused := by
  intro whole text union object wrapped before after refused
  have first : RestatedWithin before (object wrapped) := by
    refine ⟨whole, { allOf := some [whole] }, .allOf, ?_⟩
    apply @Replaced.properties _ _ before (union whole) _ [] [] "size" rfl
    exact @Replaced.anyOf _ _ (union whole) whole _ [] [text] rfl .here
  have second : RestatedWithin (object wrapped) after := by
    refine ⟨wrapped, _, .described (some "The size."), ?_⟩
    exact @Replaced.properties _ _ (object wrapped) wrapped _ [] [] "size" rfl .here
  have restated : Relation.EqvGen RestatedWithin before after :=
    .trans _ _ _ (.rel _ _ first) (.rel _ _ second)
  have checked : (before.compile .strict).parse (some (.object [("size", .bool true)])) = refused :=
    rfl
  exact ⟨restated, checked, (parse_restated restated .strict _).symm.trans checked⟩

end ToolGate
