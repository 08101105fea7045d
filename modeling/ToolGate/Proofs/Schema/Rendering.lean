import ToolGate.Proofs.Schema.Equality
import ToolGate.Proofs.Schema.Reading
import ToolGate.Schema.Rendering

/-!
# Nodes survive being written and read again

A node is written keyword by keyword, each under its own name, so reading
finds every keyword as it was written.  What is found reads as what was there
before: types and formats are written under a name that stands for them,
counts as integers, bounds as floats, and nodes inside as objects.  This needs
no more than that the node has been read once, since only then its type and
its format are those that their names stand for.
-/

namespace ToolGate

/-- A type that was read from a name is read again from the name it is written under. -/
theorem SchemaType.ofName_name (text : String) : ofName (ofName text).name = ofName text := by
  cases same : ofName text with
  | unrecognized name =>
      have unknown : name = text := by
        unfold ofName at same
        split at same
        all_goals cases same
        rfl
      rw [SchemaType.name, unknown, same, unknown]
  | _ => rfl

/-- A format that was read from a name is read again from the first name it has. -/
theorem StringFormat.ofName_name (text : String) : ofName (ofName text).name = ofName text := by
  cases same : ofName text with
  | other name =>
      have unknown : name = text := by
        unfold ofName at same
        split at same
        all_goals cases same
        rfl
      rw [StringFormat.name, unknown, same, unknown]
  | _ => rfl

/-- A word is read again from the number it is written as. -/
theorem Json.word?_ofWord (word : UInt64) : (ofWord word).word? = some word := by
  simp [ofWord, word?, JsonNumber.ofWord, JsonNumber.word?, WordInt.ofWord, WordInt.word?]

namespace SchemaNode

theorem count?_ofWord (word : UInt64) : count? (.ofWord word) = some word := by
  rw [count?, Json.word?_ofWord]
  rfl

theorem elementsToJson_eq (nodes : List SchemaNode) : elementsToJson nodes = nodes.map toJson := by
  induction nodes with
  | nil => rw [elementsToJson, List.map_nil]
  | cons node rest ih => rw [elementsToJson, ih, List.map_cons]

theorem entriesToJson_eq (entries : List (String × SchemaNode)) :
    entriesToJson entries = entries.map fun entry => (entry.1, entry.2.toJson) := by
  induction entries with
  | nil => rw [entriesToJson, List.map_nil]
  | cons entry rest ih => rw [entriesToJson, ih, List.map_cons]

theorem toJson?_eq (node : Option SchemaNode) : toJson? node = node.map toJson := by
  cases node <;> rw [toJson?] <;> rfl

theorem listToJson?_eq (nodes : Option (List SchemaNode)) :
    listToJson? nodes = nodes.map fun nodes => .array (nodes.map toJson) := by
  cases nodes with
  | none => rw [listToJson?, Option.map_none]
  | some nodes => rw [listToJson?, elementsToJson_eq, Option.map_some]

theorem membersToJson?_eq (entries : Option (List (String × SchemaNode))) :
    membersToJson? entries =
      entries.map fun entries => .object (entries.map fun entry => (entry.1, entry.2.toJson)) := by
  cases entries with
  | none => rw [membersToJson?, Option.map_none]
  | some entries => rw [membersToJson?, entriesToJson_eq, Option.map_some]

/-- All keywords in the order in which they are written, with the values of those that are there. -/
def written (node : SchemaNode) : List (String × Option Json) :=
  [("type", node.keywords.type.map fun type => .string type.name),
    ("description", node.keywords.description.map .string),
    ("enum", node.keywords.enumeration.map .array),
    ("const", node.keywords.constant),
    ("nullable", if node.keywords.nullable then some (.bool true) else none),
    ("properties", node.properties.map fun entries =>
      .object (entries.map fun entry => (entry.1, entry.2.toJson))),
    ("additionalProperties", node.additionalProperties.map toJson),
    ("items", node.items.map toJson),
    ("prefixItems", node.prefixItems.map fun nodes => .array (nodes.map toJson)),
    ("minItems", node.keywords.minItems.map .ofWord),
    ("maxItems", node.keywords.maxItems.map .ofWord),
    ("minLength", node.keywords.minLength.map .ofWord),
    ("maxLength", node.keywords.maxLength.map .ofWord),
    ("pattern", node.keywords.pattern.map .string),
    ("format", node.keywords.format.map fun format => .string format.name),
    ("minimum", node.keywords.minimum.map .ofBinary64),
    ("maximum", node.keywords.maximum.map .ofBinary64),
    ("exclusiveMinimum", node.keywords.exclusiveMinimum.map .ofBinary64),
    ("exclusiveMaximum", node.keywords.exclusiveMaximum.map .ofBinary64),
    ("anyOf", node.anyOf.map fun nodes => .array (nodes.map toJson)),
    ("oneOf", node.oneOf.map fun nodes => .array (nodes.map toJson)),
    ("allOf", node.allOf.map fun nodes => .array (nodes.map toJson))]

/-- The members that a node is written with. -/
def members (node : SchemaNode) : List (String × Json) :=
  node.written.flatMap fun keyword => optionalMember keyword.1 keyword.2

theorem toJson_eq (node : SchemaNode) : node.toJson = .object node.members := by
  rcases node with ⟨keywords, properties, additionalProperties, items, prefixItems, anyOf, oneOf,
    allOf⟩
  simp only [toJson, membersToJson?_eq, toJson?_eq, listToJson?_eq, members, written,
    List.flatMap_cons, List.flatMap_nil, List.append_nil, List.append_assoc]

theorem distinct_written (node : SchemaNode) : Entries.Distinct node.written := by
  change ["type", "description", "enum", "const", "nullable", "properties",
    "additionalProperties", "items", "prefixItems", "minItems", "maxItems", "minLength",
    "maxLength", "pattern", "format", "minimum", "maximum", "exclusiveMinimum",
    "exclusiveMaximum", "anyOf", "oneOf", "allOf"].Nodup
  decide

theorem lookup_optionalMembers {table : List (String × Option Json)}
    (distinct : Entries.Distinct table) (name : String) :
    (table.flatMap fun keyword => optionalMember keyword.1 keyword.2).lookup name =
      (table.lookup name).join := by
  induction table with
  | nil => rfl
  | cons keyword rest ih =>
      rcases keyword with ⟨other, value⟩
      rcases Entries.distinct_cons.mp distinct with ⟨absent, distinctRest⟩
      rw [List.flatMap_cons, List.lookup_append, ih distinctRest, List.lookup_cons]
      by_cases same : name = other
      · subst same
        have later : rest.lookup name = none := Entries.lookup_eq_none_iff.mpr absent
        cases value <;> simp [optionalMember, later]
      · have passed : (name == other) = false := beq_eq_false_iff_ne.mpr same
        cases value <;> simp [optionalMember, List.lookup_cons, passed]

theorem lookup_members (node : SchemaNode) (name : String) :
    node.members.lookup name = (node.written.lookup name).join :=
  lookup_optionalMembers node.distinct_written name

/-- An optional value that is written and read comes back if every value it may have does. -/
theorem bind_map_eq_self {α : Type} {value : Option α} {write : α → Json} {read : Json → Option α}
    (back : ∀ given ∈ value, read (write given) = some given) :
    (value.map write).bind read = value := by
  cases value with
  | none => rfl
  | some given => exact back given rfl

/-- The keywords are found as they were written, and each reads as what was written. -/
theorem readKeywords_members {node : SchemaNode}
    (type : ∀ type ∈ node.keywords.type, SchemaType.ofName type.name = type)
    (format : ∀ format ∈ node.keywords.format, StringFormat.ofName format.name = format) :
    readKeywords node.members = node.keywords := by
  rcases node with ⟨⟨declared, _, _, _, nullable, _, _, _, _, _, formatted, _, _, _, _⟩, _⟩
  have typeBack : ((declared.map fun type => .string type.name).bind Json.string?).map
      SchemaType.ofName = declared := by
    cases declared with
    | none => rfl
    | some given => exact congrArg some (type given rfl)
  have formatBack : ((formatted.map fun format => .string format.name).bind Json.string?).map
      StringFormat.ofName = formatted := by
    cases formatted with
    | none => rfl
    | some given => exact congrArg some (format given rfl)
  have nullableBack :
      ((if nullable then some (.bool true) else none : Option Json).bind Json.bool?).getD false =
        nullable := by
    cases nullable <;> rfl
  simp only [readKeywords, lookup_members, written, List.lookup_cons, String.reduceBEq,
    Option.join_some, Keywords.mk.injEq]
  refine ⟨typeBack, ?_, ?_, trivial, nullableBack, ?_, ?_, ?_, ?_, ?_, formatBack, ?_, ?_, ?_, ?_⟩
  case refine_3 | refine_4 | refine_5 | refine_6 =>
    exact bind_map_eq_self fun count _ => count?_ofWord count
  all_goals exact bind_map_eq_self fun _ _ => rfl

theorem ofObject?_toJson (node : SchemaNode) :
    ofObject? node.toJson = some (ofJson node.toJson) := by
  rw [ofObject?_eq, toJson_eq]
  rfl

theorem ofArray?_toJson {nodes : List SchemaNode}
    (back : ∀ node ∈ nodes, ofJson node.toJson = node) :
    ofArray? (.array (nodes.map toJson)) = some nodes := by
  rw [ofArray?, ofElements_eq, List.map_map]
  exact congrArg some ((List.map_congr_left back).trans (List.map_id nodes))

theorem ofMembers?_toJson {entries : List (String × SchemaNode)}
    (back : ∀ entry ∈ entries, ofJson entry.2.toJson = entry.2) :
    ofMembers? (.object (entries.map fun entry => (entry.1, entry.2.toJson))) = some entries := by
  have same : ∀ entry ∈ entries, (entry.1, ofJson entry.2.toJson) = entry :=
    fun entry member => Prod.ext rfl (back entry member)
  rw [ofMembers?, ofEntries_eq, List.map_map]
  exact congrArg some ((List.map_congr_left same).trans (List.map_id entries))

/-- A node comes back if its names stand for its type and format, and its children come back. -/
theorem ofJson_toJson_of_children {node : SchemaNode}
    (type : ∀ type ∈ node.keywords.type, SchemaType.ofName type.name = type)
    (format : ∀ format ∈ node.keywords.format, StringFormat.ofName format.name = format)
    (inside : ∀ child ∈ node.children, ofJson child.toJson = child) :
    ofJson node.toJson = node := by
  rcases node with ⟨keywords, properties, additionalProperties, items, prefixItems, anyOf, oneOf,
    allOf⟩
  rcases forall_mem_children_iff.mp inside with ⟨insideProperties, insideAdditional, insideItems,
    insidePrefix, insideAnyOf, insideOneOf, insideAllOf⟩
  have single : ∀ child : SchemaNode, ofJson child.toJson = child →
      ofObject? child.toJson = some child :=
    fun child back => by rw [ofObject?_toJson, back]
  rw [toJson_eq, ofJson, readKeywords_members type format, readChildren_eq]
  simp only [lookup_members, written, List.lookup_cons, String.reduceBEq, Option.join_some]
  rw [bind_map_eq_self fun entries given => ofMembers?_toJson (insideProperties entries given),
    bind_map_eq_self fun child given => single child (insideAdditional child given),
    bind_map_eq_self fun child given => single child (insideItems child given),
    bind_map_eq_self fun nodes given => ofArray?_toJson (insidePrefix nodes given),
    bind_map_eq_self fun nodes given => ofArray?_toJson (insideAnyOf nodes given),
    bind_map_eq_self fun nodes given => ofArray?_toJson (insideOneOf nodes given),
    bind_map_eq_self fun nodes given => ofArray?_toJson (insideAllOf nodes given)]

theorem type_of_ofJson (value : Json) :
    ∀ type ∈ (ofJson value).keywords.type, SchemaType.ofName type.name = type := by
  intro type declared
  cases value with
  | object members =>
      rcases Option.map_eq_some_iff.mp declared with ⟨text, _, rfl⟩
      exact SchemaType.ofName_name text
  | _ => cases declared

theorem format_of_ofJson (value : Json) :
    ∀ format ∈ (ofJson value).keywords.format, StringFormat.ofName format.name = format := by
  intro format declared
  cases value with
  | object members =>
      rcases Option.map_eq_some_iff.mp declared with ⟨text, _, rfl⟩
      exact StringFormat.ofName_name text
  | _ => cases declared

/-- A node that has been read survives being written and read again, with all nodes inside. -/
theorem ofJson_toJson_ofJson (value : Json) : ofJson (ofJson value).toJson = ofJson value := by
  generalize origin : ofJson value = node
  induction node generalizing value with
  | step node ih =>
      subst origin
      apply ofJson_toJson_of_children (type_of_ofJson value) (format_of_ofJson value)
      intro child member
      rcases exists_eq_ofJson_of_mem_children member with ⟨part, read, _⟩
      exact ih child member part read.symm

/--
The node of any JSON value is written so that it reads as the same node, and
so writing what has been read is idempotent.  Where no object in the value has
a key twice the two nodes are also equal by the equality of nodes.
-/
theorem rendering_read_back (value : Json) :
    let node := ofJson value
    ofJson node.toJson = node ∧
      (ofJson node.toJson).toJson = node.toJson ∧
      (value.WellFormed → (ofJson node.toJson).equal node = true) := by
  intro node
  have back : ofJson node.toJson = node := ofJson_toJson_ofJson value
  refine ⟨back, congrArg toJson back, ?_⟩
  intro formed
  rw [back]
  exact equal_refl (ofJson_wellFormed formed)

/-- An alias, an oversized count, a bound that is no float and children of other types. -/
theorem rendering_read_back_lossy :
    let value : Json := .object
      [("format", .string "uri"), ("maxLength", .ofBinary64 (.largest false)),
        ("minimum", .ofNat 9007199254740993), ("items", .string "text"),
        ("prefixItems", .array [.null, .object [("type", .string "tuple")]])]
    value.WellFormed ∧ (ofJson (ofJson value).toJson).equal (ofJson value) = true := by
  intro value
  have formed : value.WellFormed := by
    simp [value, Json.ofBinary64, Json.ofNat, Entries.distinct_nil]
  exact ⟨formed, (rendering_read_back value).2.2 formed⟩

end SchemaNode

end ToolGate
