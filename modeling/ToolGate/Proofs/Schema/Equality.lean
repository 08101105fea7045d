import ToolGate.Proofs.Json.Equality
import ToolGate.Proofs.Schema.Structure
import ToolGate.Schema.Equality

/-!
# Nodes that equal themselves

Nodes are compared keyword by keyword, with properties looked up by name.  A
node in which no name is declared twice equals itself, since every property
is then found under its own name.
-/

namespace ToolGate

theorem equalOptions_refl {α : Type} {equal : α → α → Bool} {given : Option α}
    (refl : ∀ value ∈ given, equal value value = true) : equalOptions equal given given = true := by
  cases given with
  | none => rfl
  | some value => exact refl value rfl

theorem Binary64.sameValue_refl (x : Binary64) : x.sameValue x = true := by
  rw [sameValue, beq_self_eq_true]

theorem Keywords.equal_refl {keywords : Keywords}
    (constant : ∀ value ∈ keywords.constant, value.WellFormed)
    (enumeration : ∀ values ∈ keywords.enumeration, ∀ value ∈ values, value.WellFormed) :
    keywords.equal keywords = true := by
  have constantBack : equalOptions Json.sameForm keywords.constant keywords.constant = true :=
    equalOptions_refl fun value given =>
      Json.equalBy_refl JsonNumber.sameForm_equivalence (constant value given)
  have enumerationBack : equalOptions (fun xs ys => (Json.array xs).sameForm (.array ys))
      keywords.enumeration keywords.enumeration = true :=
    equalOptions_refl fun values given =>
      Json.equalBy_refl JsonNumber.sameForm_equivalence
        (Json.wellFormed_array.mpr (enumeration values given))
  have boundBack : ∀ bound : Option Binary64,
      equalOptions Binary64.sameValue bound bound = true :=
    fun bound => equalOptions_refl fun x _ => x.sameValue_refl
  simp only [Keywords.equal, constantBack, enumerationBack, boundBack, beq_self_eq_true,
    Bool.and_self]

namespace SchemaNode

theorem equal?_refl {node : Option SchemaNode}
    (refl : ∀ child ∈ node, child.equal child = true) : equal? node node = true := by
  cases node with
  | none => rw [equal?]
  | some child =>
      rw [equal?]
      exact refl child rfl

theorem equalLists?_refl {nodes : Option (List SchemaNode)}
    (refl : ∀ children ∈ nodes, ∀ child ∈ children, child.equal child = true) :
    equalLists? nodes nodes = true := by
  cases nodes with
  | none => rw [equalLists?]
  | some children =>
      have reflAll := refl children rfl
      clear refl
      rw [equalLists?]
      induction children with
      | nil => rw [equalLists]
      | cons child rest ih =>
          rw [List.forall_mem_cons] at reflAll
          rw [equalLists, reflAll.1, ih reflAll.2, Bool.and_self]

theorem equalMembers_iff {left right : List (String × SchemaNode)} :
    equalMembers left right = true ↔
      Entries.Matched (fun a b => equal a b = true) left right := by
  induction left with
  | nil => simp [equalMembers, Entries.Matched]
  | cons entry rest ih =>
      rw [equalMembers, Bool.and_eq_true, ih, Entries.Matched, Entries.Matched,
        List.forall_mem_cons]
      cases found : right.lookup entry.1 <;> simp

/-- Entries are compared by name, and so equal themselves if no name occurs twice. -/
theorem equalMembers?_refl {entries : Option (List (String × SchemaNode))}
    (distinct : ∀ children ∈ entries, Entries.Distinct children)
    (refl : ∀ children ∈ entries, ∀ entry ∈ children, entry.2.equal entry.2 = true) :
    equalMembers? entries entries = true := by
  cases entries with
  | none => rw [equalMembers?]
  | some children =>
      rw [equalMembers?, beq_self_eq_true, Bool.true_and, equalMembers_iff]
      intro entry member
      have found : children.lookup entry.1 = some entry.2 :=
        (Entries.lookup_eq_some_iff_mem (distinct children rfl)).mpr member
      exact ⟨entry.2, found, refl children rfl entry member⟩

/-- A well-formed node equals itself. -/
theorem equal_refl {node : SchemaNode} (formed : node.WellFormed) : node.equal node = true := by
  induction node with
  | step node ih =>
      have refl : ∀ child ∈ node.children, child.equal child = true :=
        fun child member => ih child member (formed.child member)
      rcases forall_mem_children_iff.mp refl with ⟨properties, additionalProperties, items,
        prefixItems, anyOf, oneOf, allOf⟩
      rcases node with ⟨keywords, _, _, _, _, _, _, _⟩
      have keywordsBack : keywords.equal keywords = true :=
        Keywords.equal_refl (fun value => formed.constant) fun values given value =>
          formed.enumeration given
      unfold equal
      simp only [keywordsBack, equalMembers?_refl (fun entries => formed.properties) properties,
        equal?_refl additionalProperties, equal?_refl items, equalLists?_refl prefixItems,
        equalLists?_refl anyOf, equalLists?_refl oneOf, equalLists?_refl allOf, Bool.and_self]

end SchemaNode

end ToolGate
