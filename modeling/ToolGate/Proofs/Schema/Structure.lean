import ToolGate.Proofs.Json.WellFormed
import ToolGate.Schema.Basic

/-!
# The tree of a schema node

A node holds further nodes under seven keywords.  This module names them,
gives the induction that follows them, and says when a node is well formed:
the values it mentions are, and no two properties have the same name.  It
also spells out which keyword decides what a node means.
-/

namespace ToolGate.SchemaNode

/-- The alternatives of a node, of which there are two spellings. -/
def alternatives (node : SchemaNode) : Option (List SchemaNode) :=
  node.anyOf <|> node.oneOf

/-- The type decides what a node means, as no keyword that goes before it is there. -/
structure DecidedByType (node : SchemaNode) (type : Option SchemaType) : Prop where
  /-- There is no constant. -/
  constant : node.keywords.constant = none
  /-- There are no alternatives. -/
  alternatives : node.alternatives = none
  /-- There is no conjunction. -/
  allOf : node.allOf = none
  /-- This is the type. -/
  type : node.keywords.type = type

section Kind

variable {node : SchemaNode}

theorem kind_eq_constant_iff {value : Json} :
    node.kind = .constant value ↔ node.keywords.constant = some value := by
  unfold kind
  cases node.keywords.constant with
  | some other => simp
  | none =>
      cases node.anyOf <|> node.oneOf with
      | some branches => simp
      | none => cases node.allOf <;> simp

theorem kind_eq_union_iff {branches : List SchemaNode} :
    node.kind = .union branches ↔
      node.keywords.constant = none ∧ node.alternatives = some branches := by
  unfold kind alternatives
  cases node.keywords.constant with
  | some value => simp
  | none =>
      cases node.anyOf <|> node.oneOf with
      | some others => simp
      | none => cases node.allOf <;> simp

theorem kind_eq_intersection_iff {branches : List SchemaNode} :
    node.kind = .intersection branches ↔
      node.keywords.constant = none ∧ node.alternatives = none ∧ node.allOf = some branches := by
  unfold kind alternatives
  cases node.keywords.constant with
  | some value => simp
  | none =>
      cases node.anyOf <|> node.oneOf with
      | some others => simp
      | none => cases node.allOf <;> simp

theorem kind_eq_typed_iff {type : Option SchemaType} :
    node.kind = .typed type ↔ node.DecidedByType type := by
  have fields : node.DecidedByType type ↔ node.keywords.constant = none ∧
      node.alternatives = none ∧ node.allOf = none ∧ node.keywords.type = type :=
    ⟨fun decided => ⟨decided.constant, decided.alternatives, decided.allOf, decided.type⟩,
      fun ⟨constant, alternatives, allOf, type⟩ => ⟨constant, alternatives, allOf, type⟩⟩
  rw [fields]
  unfold kind alternatives
  cases node.keywords.constant with
  | some value => simp
  | none =>
      cases node.anyOf <|> node.oneOf with
      | some others => simp
      | none => cases node.allOf <;> simp

end Kind

/-- The nodes directly inside a node. -/
def children (node : SchemaNode) : List SchemaNode :=
  ((node.properties.getD []).map Prod.snd)
    ++ node.additionalProperties.toList
    ++ node.items.toList
    ++ node.prefixItems.getD []
    ++ node.anyOf.getD []
    ++ node.oneOf.getD []
    ++ node.allOf.getD []

section Children

variable {node child : SchemaNode} {nodes : List SchemaNode}

/-- A child is under one of the seven keywords. -/
theorem mem_children_iff :
    child ∈ node.children ↔
      (∃ entries, node.properties = some entries ∧ ∃ entry ∈ entries, entry.2 = child) ∨
      node.additionalProperties = some child ∨
      node.items = some child ∨
      (∃ nodes, node.prefixItems = some nodes ∧ child ∈ nodes) ∨
      (∃ nodes, node.anyOf = some nodes ∧ child ∈ nodes) ∨
      (∃ nodes, node.oneOf = some nodes ∧ child ∈ nodes) ∨
      (∃ nodes, node.allOf = some nodes ∧ child ∈ nodes) := by
  have listed : ∀ list : Option (List SchemaNode),
      child ∈ list.getD [] ↔ ∃ nodes, list = some nodes ∧ child ∈ nodes := by
    intro list
    cases list <;> simp
  have declared : child ∈ (node.properties.getD []).map Prod.snd ↔
      ∃ entries, node.properties = some entries ∧ ∃ entry ∈ entries, entry.2 = child := by
    cases node.properties <;> simp
  simp only [children, List.mem_append, listed, declared, Option.mem_toList, or_assoc]

/-- A property of all children is one of the children under each keyword. -/
theorem forall_mem_children_iff {property : SchemaNode → Prop} :
    (∀ child ∈ node.children, property child) ↔
      (∀ entries ∈ node.properties, ∀ entry ∈ entries, property entry.2) ∧
      (∀ child ∈ node.additionalProperties, property child) ∧
      (∀ child ∈ node.items, property child) ∧
      (∀ nodes ∈ node.prefixItems, ∀ child ∈ nodes, property child) ∧
      (∀ nodes ∈ node.anyOf, ∀ child ∈ nodes, property child) ∧
      (∀ nodes ∈ node.oneOf, ∀ child ∈ nodes, property child) ∧
      (∀ nodes ∈ node.allOf, ∀ child ∈ nodes, property child) := by
  have listed : ∀ list : Option (List SchemaNode),
      (∀ child ∈ list.getD [], property child) ↔
        ∀ nodes ∈ list, ∀ child ∈ nodes, property child := by
    intro list
    cases list <;> simp
  have declared : (∀ child ∈ (node.properties.getD []).map Prod.snd, property child) ↔
      ∀ entries ∈ node.properties, ∀ entry ∈ entries, property entry.2 := by
    rw [List.forall_mem_map]
    cases node.properties <;> simp
  simp only [children, List.forall_mem_append, listed, declared, Option.mem_toList,
    Option.mem_def, and_assoc]

theorem property_mem_children {entries : List (String × SchemaNode)}
    {entry : String × SchemaNode} (declared : node.properties = some entries)
    (member : entry ∈ entries) : entry.2 ∈ node.children :=
  mem_children_iff.mpr (.inl ⟨entries, declared, entry, member, rfl⟩)

theorem additionalProperties_mem_children (given : node.additionalProperties = some child) :
    child ∈ node.children :=
  mem_children_iff.mpr (.inr (.inl given))

theorem items_mem_children (given : node.items = some child) : child ∈ node.children :=
  mem_children_iff.mpr (.inr (.inr (.inl given)))

theorem slot_mem_children (given : node.prefixItems = some nodes) (member : child ∈ nodes) :
    child ∈ node.children :=
  mem_children_iff.mpr (.inr (.inr (.inr (.inl ⟨nodes, given, member⟩))))

/-- The alternatives that decide what a node means are inside it. -/
theorem alternative_mem_children (given : node.alternatives = some nodes)
    (member : child ∈ nodes) : child ∈ node.children := by
  apply mem_children_iff.mpr
  rw [alternatives] at given
  cases first : node.anyOf with
  | some others =>
      rw [first] at given
      cases given
      simp [member]
  | none =>
      rw [first] at given
      have second : node.oneOf = some nodes := given
      simp [second, member]

theorem conjunct_mem_children (given : node.allOf = some nodes) (member : child ∈ nodes) :
    child ∈ node.children := by
  apply mem_children_iff.mpr
  simp [given, member]

theorem sizeOf_lt_of_mem_children (member : child ∈ node.children) :
    sizeOf child < sizeOf node := by
  rcases node with ⟨keywords, properties, additionalProperties, items, prefixItems, anyOf, oneOf,
    allOf⟩
  rw [SchemaNode.mk.sizeOf_spec]
  rcases mem_children_iff.mp member with
    ⟨entries, rfl, ⟨name, node⟩, inside, rfl⟩ | rfl | rfl | ⟨nodes, rfl, inside⟩ |
      ⟨nodes, rfl, inside⟩ | ⟨nodes, rfl, inside⟩ | ⟨nodes, rfl, inside⟩
  · have smaller := List.sizeOf_lt_of_mem inside
    simp only [Prod.mk.sizeOf_spec] at smaller
    simp only [Option.some.sizeOf_spec]
    omega
  · simp only [Option.some.sizeOf_spec]
    omega
  · simp only [Option.some.sizeOf_spec]
    omega
  all_goals
    have smaller := List.sizeOf_lt_of_mem inside
    simp only [Option.some.sizeOf_spec]
    omega

end Children

/-- A property that passes from the nodes inside a node to it holds of every node. -/
@[induction_eliminator]
theorem inductionOnChildren {motive : SchemaNode → Prop}
    (step : ∀ node, (∀ child ∈ node.children, motive child) → motive node) (node : SchemaNode) :
    motive node :=
  step node fun child _ => inductionOnChildren step child
termination_by sizeOf node
decreasing_by exact sizeOf_lt_of_mem_children (by assumption)

/-- The values in the tree are well formed and no node in it declares a property twice. -/
inductive WellFormed : SchemaNode → Prop where
  | intro {node : SchemaNode}
      (constant : ∀ value ∈ node.keywords.constant, value.WellFormed)
      (enumeration : ∀ values ∈ node.keywords.enumeration, ∀ value ∈ values, value.WellFormed)
      (properties : ∀ entries ∈ node.properties, Entries.Distinct entries)
      (inside : ∀ child ∈ node.children, WellFormed child) :
      WellFormed node

namespace WellFormed

variable {node : SchemaNode}

theorem constant (formed : node.WellFormed) {value : Json}
    (given : node.keywords.constant = some value) : value.WellFormed := by
  cases formed with
  | intro constant _ _ _ => exact constant value given

theorem enumeration (formed : node.WellFormed) {values : List Json}
    (given : node.keywords.enumeration = some values) {value : Json} (member : value ∈ values) :
    value.WellFormed := by
  cases formed with
  | intro _ enumeration _ _ => exact enumeration values given value member

theorem properties (formed : node.WellFormed) {entries : List (String × SchemaNode)}
    (declared : node.properties = some entries) : Entries.Distinct entries := by
  cases formed with
  | intro _ _ properties _ => exact properties entries declared

theorem child (formed : node.WellFormed) {child : SchemaNode} (member : child ∈ node.children) :
    child.WellFormed := by
  cases formed with
  | intro _ _ _ inside => exact inside child member

end WellFormed

/-- Being well formed is a condition on every keyword by itself. -/
theorem wellFormed_iff {node : SchemaNode} :
    node.WellFormed ↔
      (∀ value ∈ node.keywords.constant, value.WellFormed) ∧
      (∀ values ∈ node.keywords.enumeration, ∀ value ∈ values, value.WellFormed) ∧
      (∀ entries ∈ node.properties,
        Entries.Distinct entries ∧ ∀ entry ∈ entries, entry.2.WellFormed) ∧
      (∀ child ∈ node.additionalProperties, child.WellFormed) ∧
      (∀ child ∈ node.items, child.WellFormed) ∧
      (∀ nodes ∈ node.prefixItems, ∀ child ∈ nodes, child.WellFormed) ∧
      (∀ nodes ∈ node.anyOf, ∀ child ∈ nodes, child.WellFormed) ∧
      (∀ nodes ∈ node.oneOf, ∀ child ∈ nodes, child.WellFormed) ∧
      (∀ nodes ∈ node.allOf, ∀ child ∈ nodes, child.WellFormed) := by
  constructor
  · intro formed
    have inside : ∀ child ∈ node.children, child.WellFormed := fun child => formed.child
    rcases forall_mem_children_iff.mp inside with ⟨properties, others⟩
    exact ⟨fun value => formed.constant, fun values given value => formed.enumeration given,
      fun entries declared => ⟨formed.properties declared, properties entries declared⟩, others⟩
  · rintro ⟨constant, enumeration, properties, others⟩
    have inside : ∀ child ∈ node.children, child.WellFormed :=
      forall_mem_children_iff.mpr
        ⟨fun entries declared => (properties entries declared).2, others⟩
    exact .intro constant enumeration (fun entries declared => (properties entries declared).1)
      inside

/-- The condition on a node that is written out, which evaluates keyword by keyword. -/
theorem wellFormed_mk_iff {keywords : Keywords} {properties : Option (List (String × SchemaNode))}
    {additionalProperties items : Option SchemaNode}
    {prefixItems anyOf oneOf allOf : Option (List SchemaNode)} :
    WellFormed ⟨keywords, properties, additionalProperties, items, prefixItems, anyOf, oneOf,
        allOf⟩ ↔
      (∀ value ∈ keywords.constant, value.WellFormed) ∧
      (∀ values ∈ keywords.enumeration, ∀ value ∈ values, value.WellFormed) ∧
      (∀ entries ∈ properties,
        Entries.Distinct entries ∧ ∀ entry ∈ entries, entry.2.WellFormed) ∧
      (∀ child ∈ additionalProperties, child.WellFormed) ∧
      (∀ child ∈ items, child.WellFormed) ∧
      (∀ nodes ∈ prefixItems, ∀ child ∈ nodes, child.WellFormed) ∧
      (∀ nodes ∈ anyOf, ∀ child ∈ nodes, child.WellFormed) ∧
      (∀ nodes ∈ oneOf, ∀ child ∈ nodes, child.WellFormed) ∧
      (∀ nodes ∈ allOf, ∀ child ∈ nodes, child.WellFormed) :=
  wellFormed_iff

end ToolGate.SchemaNode
