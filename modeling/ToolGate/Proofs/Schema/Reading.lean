import ToolGate.Proofs.Schema.Structure
import ToolGate.Schema.Reading

/-!
# Nodes that are read

A node is read keyword by keyword from the members of an object, and what is
under a keyword is found as in any object.  It takes its values, and the names
of its properties, from the JSON value as they are, and every node inside it
is the node of a part of the value.  So the node of a well-formed value is
well formed.
-/

namespace ToolGate.SchemaNode

theorem ofElements_eq (elements : List Json) : ofElements elements = elements.map ofJson := by
  induction elements with
  | nil => rw [ofElements, List.map_nil]
  | cons element rest ih => rw [ofElements, ih, List.map_cons]

theorem ofEntries_eq (members : List (String × Json)) :
    ofEntries members = members.map fun member => (member.1, ofJson member.2) := by
  induction members with
  | nil => rw [ofEntries, List.map_nil]
  | cons member rest ih => rw [ofEntries, ih, List.map_cons]

theorem ofObject?_eq (value : Json) :
    ofObject? value = value.object?.map fun _ => ofJson value := by
  cases value <;> simp [ofObject?, Json.object?, ofJson]

/-- Each of the seven keywords with nodes inside is read from the first member under its name. -/
theorem readChildren_eq (members : List (String × Json)) :
    readChildren members =
      { properties := (members.lookup "properties").bind ofMembers?
        additionalProperties := (members.lookup "additionalProperties").bind ofObject?
        items := (members.lookup "items").bind ofObject?
        prefixItems := (members.lookup "prefixItems").bind ofArray?
        anyOf := (members.lookup "anyOf").bind ofArray?
        oneOf := (members.lookup "oneOf").bind ofArray?
        allOf := (members.lookup "allOf").bind ofArray? } := by
  induction members with
  | nil => rfl
  | cons member rest ih =>
      rcases member with ⟨name, value⟩
      have passed : ∀ {keyword : String}, name ≠ keyword →
          List.lookup keyword ((name, value) :: rest) = rest.lookup keyword := by
        intro keyword other
        rw [List.lookup_cons, beq_eq_false_iff_ne.mpr other.symm]
      rw [readChildren.eq_def]
      dsimp only
      split
      case h_8 properties additionalProperties items prefixItems anyOf oneOf allOf =>
        rw [ih, passed properties, passed additionalProperties, passed items, passed prefixItems,
          passed anyOf, passed oneOf, passed allOf]
      -- the member under a keyword is found first and hides no other keyword
      all_goals
        simp (disch := decide) only [ih, List.lookup_cons_self, passed, Option.bind_some]

/-- A node in a list has been read from an element. -/
theorem exists_eq_ofJson_of_mem_ofArray? {value : Json} {nodes : List SchemaNode}
    (read : ofArray? value = some nodes) {child : SchemaNode} (member : child ∈ nodes) :
    ∃ part, child = ofJson part ∧ (value.WellFormed → part.WellFormed) := by
  cases value with
  | array elements =>
      rw [ofArray?, ofElements_eq, Option.some.injEq] at read
      subst read
      rcases List.mem_map.mp member with ⟨element, inside, rfl⟩
      exact ⟨element, rfl, fun formed => Json.wellFormed_array.mp formed element inside⟩
  | _ => simp [ofArray?] at read

/-- A named node has been read from a member. -/
theorem exists_eq_ofJson_of_mem_ofMembers? {value : Json} {entries : List (String × SchemaNode)}
    (read : ofMembers? value = some entries) {entry : String × SchemaNode}
    (member : entry ∈ entries) :
    ∃ part, entry.2 = ofJson part ∧ (value.WellFormed → part.WellFormed) := by
  cases value with
  | object declarations =>
      rw [ofMembers?, ofEntries_eq, Option.some.injEq] at read
      subst read
      rcases List.mem_map.mp member with ⟨declaration, inside, rfl⟩
      exact ⟨declaration.2, rfl,
        fun formed => (Json.wellFormed_object.mp formed).2 declaration inside⟩
  | _ => simp [ofMembers?] at read

theorem distinct_of_ofMembers? {value : Json} {entries : List (String × SchemaNode)}
    (read : ofMembers? value = some entries) (formed : value.WellFormed) :
    Entries.Distinct entries := by
  cases value with
  | object declarations =>
      rw [ofMembers?, ofEntries_eq, Option.some.injEq] at read
      subst read
      rw [Entries.Distinct, Entries.names, List.map_map]
      exact (Json.wellFormed_object.mp formed).1
  | _ => simp [ofMembers?] at read

/-- The nodes inside a node that has been read have been read, too. -/
theorem exists_eq_ofJson_of_mem_children {value : Json} {child : SchemaNode}
    (member : child ∈ (ofJson value).children) :
    ∃ part, child = ofJson part ∧ (value.WellFormed → part.WellFormed) := by
  cases value with
  | object members =>
      have single : ∀ {keyword : String}, (members.lookup keyword).bind ofObject? = some child →
          ∃ part, child = ofJson part ∧ ((Json.object members).WellFormed → part.WellFormed) := by
        intro keyword given
        rcases Option.bind_eq_some_iff.mp given with ⟨part, found, read⟩
        rw [ofObject?_eq] at read
        rcases Option.map_eq_some_iff.mp read with ⟨_, _, same⟩
        exact ⟨part, same.symm, fun formed => formed.lookup found⟩
      have listed : ∀ {keyword : String} {nodes : List SchemaNode},
          (members.lookup keyword).bind ofArray? = some nodes → child ∈ nodes →
          ∃ part, child = ofJson part ∧ ((Json.object members).WellFormed → part.WellFormed) := by
        intro keyword nodes given inside
        rcases Option.bind_eq_some_iff.mp given with ⟨list, found, read⟩
        rcases exists_eq_ofJson_of_mem_ofArray? read inside with ⟨part, same, partFormed⟩
        exact ⟨part, same, fun formed => partFormed (formed.lookup found)⟩
      rw [ofJson, readChildren_eq] at member
      rcases mem_children_iff.mp member with
        ⟨entries, given, entry, inside, rfl⟩ | given | given | ⟨nodes, given, inside⟩ |
          ⟨nodes, given, inside⟩ | ⟨nodes, given, inside⟩ | ⟨nodes, given, inside⟩
      · rcases Option.bind_eq_some_iff.mp given with ⟨map, found, read⟩
        rcases exists_eq_ofJson_of_mem_ofMembers? read inside with ⟨part, same, partFormed⟩
        exact ⟨part, same, fun formed => partFormed (formed.lookup found)⟩
      · exact single given
      · exact single given
      · exact listed given inside
      · exact listed given inside
      · exact listed given inside
      · exact listed given inside
  | _ =>
      rw [ofJson] at member
      · simp [children] at member
      · simp

/-- The node of a well-formed value is well formed. -/
theorem ofJson_wellFormed {value : Json} (formed : value.WellFormed) :
    (ofJson value).WellFormed := by
  generalize origin : ofJson value = node
  induction node generalizing value with
  | step node ih =>
      subst origin
      have inside : ∀ child ∈ (ofJson value).children, child.WellFormed := by
        intro child member
        rcases exists_eq_ofJson_of_mem_children member with ⟨part, read, partFormed⟩
        exact ih child member (partFormed formed) read.symm
      cases value with
      | object members =>
          refine .intro (fun value given => formed.lookup given) ?_ ?_ inside
          · intro values given value member
            rcases Option.bind_eq_some_iff.mp given with ⟨list, found, isArray⟩
            cases list with
            | array elements =>
                cases isArray
                exact Json.wellFormed_array.mp (formed.lookup found) value member
            | _ => cases isArray
          · intro entries given
            rw [ofJson, readChildren_eq] at given
            rcases Option.bind_eq_some_iff.mp given with ⟨map, found, read⟩
            exact distinct_of_ofMembers? read (formed.lookup found)
      | _ => exact .intro nofun nofun nofun inside

end ToolGate.SchemaNode
