import ToolGate.Proofs.Schema.Structure
import ToolGate.Proofs.Validator.Structure
import ToolGate.Schema.Compilation

/-!
# What compilation makes

A node is compiled by the keyword that decides what it means, and what is
made of it is finished with a description and a layer for `null`.  There are
few kinds that compilation makes of one node, and a property of these holds
everywhere in the compiled tree.  In particular compiled trees are well
formed, and they drop members only under the policy to do so.
-/

namespace ToolGate

namespace SchemaNode

variable {policy : UnknownKeys}

theorem compileList_eq (nodes : List SchemaNode) :
    compileList policy nodes = nodes.map (compile policy) := by
  induction nodes with
  | nil => rw [compileList, List.map_nil]
  | cons node rest ih => rw [compileList, ih, List.map_cons]

theorem compileFields_eq (entries : List (String × SchemaNode)) :
    compileFields policy entries =
      entries.map fun entry => (entry.1, ⟨entry.2.compile policy, false⟩) := by
  induction entries with
  | nil => rw [compileFields, List.map_nil]
  | cons entry rest ih => rw [compileFields, ih, List.map_cons]

theorem compile?_eq (node : Option SchemaNode) :
    compile? policy node = node.map (compile policy) := by
  cases node <;> rw [compile?] <;> rfl

theorem compileList?_eq (nodes : Option (List SchemaNode)) :
    compileList? policy nodes = nodes.map fun nodes => nodes.map (compile policy) := by
  cases nodes with
  | none => rw [compileList?, Option.map_none]
  | some nodes => rw [compileList?, compileList_eq, Option.map_some]

theorem compileFields?_eq (entries : Option (List (String × SchemaNode))) :
    compileFields? policy entries =
      entries.map fun entries =>
        entries.map fun entry => (entry.1, ⟨entry.2.compile policy, false⟩) := by
  cases entries with
  | none => rw [compileFields?, Option.map_none]
  | some entries => rw [compileFields?, compileFields_eq, Option.map_some]

/-- The validator of a node before it is finished. -/
def core (policy : UnknownKeys) (node : SchemaNode) : Validator :=
  match node.kind with
  | .constant value => .literal value
  | .union branches => compose .union (branches.map (compile policy))
  | .intersection branches => compose .intersection (branches.map (compile policy))
  | .typed (some .string) => compileString node.keywords
  | .typed (some .number) => compileNumber .number node.keywords
  | .typed (some .integer) => compileNumber .integer node.keywords
  | .typed (some .boolean) => .ofKind .boolean
  | .typed (some .null) => .ofKind .null
  | .typed (some .object) =>
      compileObject policy
        (node.properties.map fun entries =>
          entries.map fun entry => (entry.1, ⟨entry.2.compile policy, false⟩))
        (node.additionalProperties.map (compile policy))
  | .typed (some .array) =>
      compileArray node.keywords
        (node.prefixItems.map fun nodes => nodes.map (compile policy))
        (node.items.map (compile policy))
  | .typed (some (.unrecognized _)) => .unknown
  | .typed none => .unknown

/-- A node is compiled by its kind and then finished. -/
theorem compile_eq (policy : UnknownKeys) (node : SchemaNode) :
    node.compile policy = finish node.keywords (node.core policy) := by
  rcases node with ⟨keywords, properties, additionalProperties, items, prefixItems, anyOf, oneOf,
    allOf⟩
  simp only [compile, core, kind, compile?_eq, compileList?_eq, compileFields?_eq, alternatives?]
  congr 1
  cases keywords.constant with
  | some value => rfl
  | none =>
      cases anyOf with
      | some branches => rfl
      | none =>
          cases oneOf with
          | some branches => rfl
          | none =>
              cases allOf with
              | some branches => rfl
              | none =>
                  cases keywords.type with
                  | none => rfl
                  | some type => cases type <;> rfl

/-- The list of admitted values that counts is not empty. -/
theorem enumeration?_eq_some_iff {keywords : Keywords} {values : List Json} :
    enumeration? keywords = some values ↔ keywords.enumeration = some values ∧ values ≠ [] := by
  unfold enumeration?
  split
  · rename_i empty
    simp [empty]
  · rename_i other nonempty
    constructor
    · intro same
      refine ⟨same, ?_⟩
      rintro rfl
      exact nonempty same
    · exact And.left

/-- Only a list of strings reads as one. -/
theorem strings?_eq_some_iff {values : List Json} {allowed : List String} :
    strings? values = some allowed ↔ values = allowed.map .string := by
  unfold strings?
  induction values generalizing allowed with
  | nil => cases allowed <;> simp
  | cons first rest ih =>
      rw [List.mapM_cons]
      constructor
      · intro read
        rcases Option.bind_eq_some_iff.mp read with ⟨text, readFirst, readRest⟩
        rcases Option.bind_eq_some_iff.mp readRest with ⟨others, readOthers, same⟩
        cases same
        cases first with
        | string content =>
            cases readFirst
            rw [List.map_cons, ih.mp readOthers]
        | _ => cases readFirst
      · intro same
        cases allowed with
        | nil => cases same
        | cons text others =>
            rw [List.map_cons, List.cons.injEq] at same
            rcases same with ⟨rfl, others⟩
            rw [ih.mpr others]
            rfl

/--
The kinds that compilation makes of a node itself, beside those that it makes of the nodes inside.
-/
inductive Makes (policy : UnknownKeys) (node : SchemaNode) : ValidatorKind → Prop where
  | unknown : Makes policy node .unknown
  | boolean : Makes policy node .boolean
  | null : Makes policy node .null
  | number : Makes policy node (.number (numberRules node.keywords))
  | integer : Makes policy node (.integer (numberRules node.keywords))
  | text : Makes policy node <| .string
      { minLength := node.keywords.minLength
        maxLength := node.keywords.maxLength
        pattern := node.keywords.pattern.bind Pattern.whole?
        format := knownFormat? node.keywords }
  | texts {values : List Json} {allowed : List String}
      (given : enumeration? node.keywords = some values) (read : strings? values = some allowed) :
      Makes policy node (.string { allowed := some allowed })
  | constant {value : Json} (given : node.keywords.constant = some value) :
      Makes policy node (.literal value)
  | listed {values : List Json} {value : Json} (given : enumeration? node.keywords = some values)
      (member : value ∈ values) : Makes policy node (.literal value)
  | object {entries : List (String × SchemaNode)} (declared : node.properties = some entries) :
      Makes policy node <| .object
        ⟨entries.map fun entry => (entry.1, ⟨entry.2.compile policy, false⟩), policy⟩
  | record (values : Validator) : Makes policy node (.record values)
  | tuple (slots : List Validator) : Makes policy node (.tuple slots)
  | array (items : Validator) :
      Makes policy node (.array ⟨some items, node.keywords.minItems, node.keywords.maxItems⟩)
  | anyArray : Makes policy node (.array ⟨none, none, none⟩)
  | union {branches : List Validator} (several : 2 ≤ branches.length) :
      Makes policy node (.union branches)
  | intersection {branches : List Validator} (several : 2 ≤ branches.length) :
      Makes policy node (.intersection branches)
  | nullable (inner : Validator) : Makes policy node (.nullable inner)

section Makes

open Validator

variable {node : SchemaNode} {property : ValidatorKind → Prop}
  (made : ∀ kind, Makes policy node kind → property kind)

include made

theorem everywhere_finish {validator : Validator} (inside : validator.Everywhere property) :
    (finish node.keywords validator).Everywhere property := by
  rcases validator with ⟨kind, description⟩
  have described : ∀ text, Everywhere property ⟨kind, text⟩ :=
    fun text => everywhere_iff.mpr (everywhere_iff.mp inside)
  simp only [finish]
  split
  · refine .intro (made _ (.nullable _)) ?_
    intro child member
    rw [List.mem_singleton.mp member]
    exact described _
  · exact described _

theorem everywhere_leaf {kind : ValidatorKind} (makes : Makes policy node kind)
    (leaf : kind.children = []) : (ofKind kind).Everywhere property := by
  refine .intro (made kind makes) ?_
  rw [leaf]
  exact fun child member => nomatch member

theorem everywhere_compose {join : List Validator → ValidatorKind}
    (makes : ∀ {branches}, 2 ≤ branches.length → Makes policy node (join branches))
    (joined : ∀ branches, (join branches).children = branches) {branches : List Validator}
    (inside : ∀ branch ∈ branches, branch.Everywhere property) :
    (compose join branches).Everywhere property := by
  match branches with
  | [] => exact everywhere_leaf made .unknown rfl
  | [branch] => exact inside branch List.mem_cons_self
  | first :: second :: rest =>
      have several : 2 ≤ (first :: second :: rest).length := by simp
      refine .intro (made _ (makes several)) ?_
      rw [joined]
      exact inside

theorem everywhere_literals {values : List Json}
    (given : enumeration? node.keywords = some values) :
    (literals values).Everywhere property := by
  have single : ∀ value ∈ values, (literal value).Everywhere property :=
    fun value member => everywhere_leaf made (.listed given member) rfl
  have nonempty : values ≠ [] := (enumeration?_eq_some_iff.mp given).2
  match values with
  | [] => exact absurd rfl nonempty
  | [value] => exact single value List.mem_cons_self
  | first :: second :: rest =>
      have several : 2 ≤ ((first :: second :: rest).map literal).length := by simp
      refine .intro (made _ (.union several)) ?_
      intro child member
      rcases List.mem_map.mp member with ⟨value, inside, rfl⟩
      exact single value inside

theorem everywhere_compileString : (compileString node.keywords).Everywhere property := by
  unfold compileString
  split
  · rename_i values given
    split
    · rename_i allowed read
      exact everywhere_leaf made (.texts given read) rfl
    · exact everywhere_literals made given
  · exact everywhere_leaf made .text rfl

theorem everywhere_compileNumber {kind : NumberRules → ValidatorKind}
    (makes : Makes policy node (kind (numberRules node.keywords)))
    (leaf : ∀ rules, (kind rules).children = []) :
    (compileNumber kind node.keywords).Everywhere property := by
  unfold compileNumber
  split
  · rename_i values given
    exact everywhere_literals made given
  · exact everywhere_leaf made makes (leaf _)

theorem everywhere_compileObject
    (inside : ∀ child ∈ node.children, (child.compile policy).Everywhere property) :
    (compileObject policy
      (node.properties.map fun entries =>
        entries.map fun entry => (entry.1, ⟨entry.2.compile policy, false⟩))
      (node.additionalProperties.map (compile policy))).Everywhere property := by
  cases declared : node.properties with
  | some entries =>
      refine .intro (made _ (.object declared)) ?_
      intro child member
      simp only [ValidatorKind.children, List.map_map, List.mem_map, Function.comp_apply] at member
      rcases member with ⟨entry, listed, rfl⟩
      exact inside entry.2 (property_mem_children declared listed)
  | none =>
      cases given : node.additionalProperties with
      | some values =>
          refine .intro (made _ (.record _)) ?_
          intro child member
          rw [List.mem_singleton.mp member]
          exact inside values (additionalProperties_mem_children given)
      | none => exact everywhere_leaf made .unknown rfl

theorem everywhere_compileArray
    (inside : ∀ child ∈ node.children, (child.compile policy).Everywhere property) :
    (compileArray node.keywords
      (node.prefixItems.map fun nodes => nodes.map (compile policy))
      (node.items.map (compile policy))).Everywhere property := by
  cases slots : node.prefixItems with
  | some nodes =>
      refine .intro (made _ (.tuple _)) ?_
      intro child member
      rcases List.mem_map.mp member with ⟨slot, listed, rfl⟩
      exact inside slot (slot_mem_children slots listed)
  | none =>
      cases given : node.items with
      | some items =>
          refine .intro (made _ (.array _)) ?_
          intro child member
          rw [List.mem_singleton.mp member]
          exact inside items (items_mem_children given)
      | none => exact everywhere_leaf made .anyArray rfl

/-- What holds of the kinds made of a node and everywhere inside holds before it is finished. -/
theorem everywhere_core
    (inside : ∀ child ∈ node.children, (child.compile policy).Everywhere property) :
    (node.core policy).Everywhere property := by
  unfold core
  cases kind : node.kind with
  | constant value =>
      exact everywhere_leaf made (.constant (kind_eq_constant_iff.mp kind)) rfl
  | union branches =>
      apply everywhere_compose made .union fun _ => rfl
      rw [List.forall_mem_map]
      intro branch member
      exact inside branch (alternative_mem_children (kind_eq_union_iff.mp kind).2 member)
  | intersection branches =>
      apply everywhere_compose made .intersection fun _ => rfl
      rw [List.forall_mem_map]
      intro branch member
      exact inside branch (conjunct_mem_children (kind_eq_intersection_iff.mp kind).2.2 member)
  | typed type =>
      cases type with
      | none => exact everywhere_leaf made .unknown rfl
      | some type =>
          cases type with
          | string => exact everywhere_compileString made
          | number => exact everywhere_compileNumber made .number fun _ => rfl
          | integer => exact everywhere_compileNumber made .integer fun _ => rfl
          | boolean => exact everywhere_leaf made .boolean rfl
          | null => exact everywhere_leaf made .null rfl
          | object => exact everywhere_compileObject made inside
          | array => exact everywhere_compileArray made inside
          | unrecognized name => exact everywhere_leaf made .unknown rfl

end Makes

/--
A property of the kinds that are made of single nodes holds everywhere in a
compiled tree.  What the property needs of a node is to be inherited by the
nodes inside.
-/
theorem everywhere_of_makes {property : ValidatorKind → Prop} {needed : SchemaNode → Prop}
    (inherited : ∀ node, needed node → ∀ child ∈ node.children, needed child)
    (made : ∀ node, needed node → ∀ kind, Makes policy node kind → property kind)
    {node : SchemaNode} (given : needed node) : (node.compile policy).Everywhere property := by
  induction node with
  | step node ih =>
      have inside : ∀ child ∈ node.children, (child.compile policy).Everywhere property :=
        fun child member => ih child member (inherited node given child member)
      rw [compile_eq]
      exact everywhere_finish (made node given) (everywhere_core (made node given) inside)

end SchemaNode

/-- The kind is neither a literal nor an object. -/
def ValidatorKind.IsPlain : ValidatorKind → Prop
  | .literal _ => False
  | .object _ => False
  | _ => True

namespace SchemaNode

/-- A property holds of every kind that compilation makes of well-formed nodes. -/
structure HoldsOfCompiled (policy : UnknownKeys) (property : ValidatorKind → Prop) : Prop where
  /-- It holds of literals with the values of a schema. -/
  literal : ∀ value : Json, value.WellFormed → property (.literal value)
  /-- It holds of objects with the fields of a schema. -/
  object : ∀ fields, Entries.Distinct fields → property (.object ⟨fields, policy⟩)
  /-- It holds of all other kinds. -/
  plain : ∀ kind : ValidatorKind, kind.IsPlain → property kind

variable {property : ValidatorKind → Prop}

theorem HoldsOfCompiled.of_makes (holds : HoldsOfCompiled policy property) {node : SchemaNode}
    (formed : node.WellFormed) {kind : ValidatorKind} (makes : Makes policy node kind) :
    property kind := by
  cases makes with
  | constant given => exact holds.literal _ (formed.constant given)
  | listed given member =>
      exact holds.literal _ (formed.enumeration (enumeration?_eq_some_iff.mp given).1 member)
  | object declared =>
      apply holds.object
      rw [Entries.Distinct, Entries.names, List.map_map]
      exact formed.properties declared
  | _ => exact holds.plain _ trivial

/-- A property of the kinds that compilation makes holds everywhere in a compiled tree. -/
theorem compile_everywhere (holds : HoldsOfCompiled policy property) {node : SchemaNode}
    (formed : node.WellFormed) : (node.compile policy).Everywhere property :=
  everywhere_of_makes (fun _ formed _ member => formed.child member)
    (fun _ formed _ makes => holds.of_makes formed makes) formed

theorem holdsOfCompiled_sound (policy : UnknownKeys) :
    HoldsOfCompiled policy ValidatorKind.Sound :=
  { literal := fun _ formed => formed
    object := fun _ distinct => distinct
    plain := fun kind isPlain => by cases kind <;> trivial }

/-- The validator of a well-formed node is well formed. -/
theorem compile_wellFormed (policy : UnknownKeys) {node : SchemaNode} (formed : node.WellFormed) :
    (node.compile policy).WellFormed :=
  compile_everywhere (holdsOfCompiled_sound policy) formed

end SchemaNode

end ToolGate
