import ToolGate.Proofs.Correspondence
import ToolGate.Proofs.Entries
import ToolGate.Proofs.Schema.Reading
import ToolGate.Hub.Tool

/-!
# What a listing has to say

Reading a listing is strict: it succeeds exactly if the listing says
everything about the server, and everything about every one of its tools, in
the right types.  What it says is stated here without the readers: a record
holds a field under its name or in its place, a tool is described by a
record with four such fields, and a server by one with three, of which the
last is a list of descriptions of its tools, one for each.
-/

namespace ToolGate

theorem Json.string?_eq_some_iff {value : Json} {text : String} :
    value.string? = some text ↔ value = .string text := by
  cases value <;> simp [string?]

theorem SchemaNode.ofMembers?_eq_some_iff {value : Json} {entries : List (String × SchemaNode)} :
    ofMembers? value = some entries ↔
      ∃ members, value = .object members ∧
        entries = members.map fun member => (member.1, ofJson member.2) := by
  cases value <;> simp [ofMembers?, ofEntries_eq, eq_comm]

namespace Hub

/-- A record holds a field: as an object under its name, or as a list in its place. -/
inductive Holds (names : List String) : Json → String → Json → Prop where
  | named {members : List (String × Json)} {name : String} {field : Json}
      (found : members.lookup name = some field) : Holds names (.object members) name field
  | placed {elements : List Json} {place : Nat} {name : String} {field : Json}
      (short : elements.length ≤ names.length) (here : names[place]? = some name)
      (element : elements[place]? = some field) : Holds names (.array elements) name field

theorem lookup_zip_eq_some_iff {names : List String} (distinct : names.Nodup)
    {elements : List Json} {name : String} {field : Json} :
    (names.zip elements).lookup name = some field ↔
      ∃ place : Nat, names[place]? = some name ∧ elements[place]? = some field := by
  have distinctZip : Entries.Distinct (names.zip elements) := by
    have lengths : (names.take (min names.length elements.length)).length ≤
        (elements.take (min names.length elements.length)).length := by
      simp only [List.length_take]
      omega
    rw [Entries.Distinct, Entries.names, List.zip_eq_zip_take_min, List.map_fst_zip lengths]
    exact distinct.sublist (List.take_sublist _ _)
  rw [Entries.lookup_eq_some_iff_mem distinctZip, List.mem_iff_getElem?]
  simp only [List.getElem?_zip_eq_some]

theorem Holds.exists_fields {names : List String} {record field : Json} {name : String}
    (holds : Holds names record name field) : ∃ fields, fields? names record = some fields := by
  cases holds with
  | named found => exact ⟨_, rfl⟩
  | placed short here element => exact ⟨_, if_pos short⟩

/-- A record holds what is found among its fields, if their names are distinct. -/
theorem holds_iff {names : List String} (distinct : names.Nodup) {record field : Json}
    {fields : List (String × Json)} (given : fields? names record = some fields) {name : String} :
    Holds names record name field ↔ fields.lookup name = some field := by
  cases record with
  | object members =>
      cases given
      constructor
      · rintro ⟨found⟩
        exact found
      · exact .named
  | array elements =>
      rw [fields?] at given
      split at given
      · rename_i short
        cases given
        rw [lookup_zip_eq_some_iff distinct]
        constructor
        · rintro (_ | ⟨_, here, element⟩)
          exact ⟨_, here, element⟩
        · rintro ⟨place, here, element⟩
          exact .placed short here element
      · cases given
  | _ => cases given

theorem Holds.unique {names : List String} (distinct : names.Nodup) {record field other : Json}
    {name : String} (first : Holds names record name field)
    (second : Holds names record name other) : field = other := by
  rcases first.exists_fields with ⟨fields, given⟩
  have found := (holds_iff distinct given).mp first
  have foundToo := (holds_iff distinct given).mp second
  exact Option.some.inj (found.symm.trans foundToo)

/-- A list is read if each of its elements is. -/
theorem list?_eq_some_iff {α : Type} {read : Json → Option α} {value : Json} {results : List α} :
    list? read value = some results ↔
      ∃ elements, value = .array elements ∧
        List.Forall₂ (fun element result => read element = some result) elements results := by
  cases value with
  | array elements =>
      simp only [list?, Json.array.injEq, exists_eq_left']
      induction elements generalizing results with
      | nil => simp [eq_comm]
      | cons element rest ih =>
          rw [List.mapM_cons, List.forall₂_cons_left_iff]
          simp only [Option.bind_eq_bind, Option.bind_eq_some_iff, ih]
          constructor
          · rintro ⟨first, readFirst, others, readOthers, same⟩
            cases same
            exact ⟨first, others, readFirst, readOthers, rfl⟩
          · rintro ⟨first, others, readFirst, readOthers, rfl⟩
            exact ⟨first, readFirst, others, readOthers, rfl⟩
  | _ => simp [list?]

theorem list?_string?_eq_some_iff {value : Json} {texts : List String} :
    list? Json.string? value = some texts ↔ value = strings texts := by
  have texted : ∀ elements : List Json,
      List.Forall₂ (fun element text => element = .string text) elements texts ↔
        elements = texts.map .string := by
    intro elements
    rw [← List.forall₂_map_right_iff (R := Eq), List.forall₂_eq_eq_eq]
  simp only [list?_eq_some_iff, Json.string?_eq_some_iff, texted]
  constructor
  · rintro ⟨elements, rfl, same⟩
    rw [same, strings]
  · rintro rfl
    exact ⟨_, rfl, rfl⟩

/-- The names of the fields of a tool, in their order. -/
def Tool.fieldNames : List String :=
  ["name", "description", "input_schema", "required_inputs"]

/-- A record says everything about a tool. -/
structure Tool.DescribedBy (tool : Tool) (record : Json) : Prop where
  name : Holds fieldNames record "name" (.string tool.name)
  description : Holds fieldNames record "description" (.string tool.description)
  /-- The parameters are given by an object, the values of which are read as nodes. -/
  parameters : ∃ members, Holds fieldNames record "input_schema" (.object members) ∧
    tool.parameters = members.map fun member => (member.1, SchemaNode.ofJson member.2)
  required : Holds fieldNames record "required_inputs" (strings tool.required)

theorem Tool.ofJson?_eq_some_iff {record : Json} {tool : Tool} :
    ofJson? record = some tool ↔ tool.DescribedBy record := by
  have distinct : fieldNames.Nodup := by decide
  simp only [ofJson?, requiredField, Option.bind_eq_bind, Option.bind_eq_some_iff,
    Json.string?_eq_some_iff, SchemaNode.ofMembers?_eq_some_iff, list?_string?_eq_some_iff]
  constructor
  · rintro ⟨fields, given, name, ⟨_, isName, rfl⟩, description, ⟨_, isDescription, rfl⟩,
      parameters, ⟨_, isSchema, members, rfl, read⟩, required, ⟨_, isRequired, rfl⟩, same⟩
    cases same
    exact
      { name := (holds_iff distinct given).mpr isName
        description := (holds_iff distinct given).mpr isDescription
        parameters := ⟨members, (holds_iff distinct given).mpr isSchema, read⟩
        required := (holds_iff distinct given).mpr isRequired }
  · rintro ⟨name, description, ⟨members, schema, read⟩, required⟩
    rcases name.exists_fields with ⟨fields, given⟩
    have isName := (holds_iff distinct given).mp name
    have isDescription := (holds_iff distinct given).mp description
    have isSchema := (holds_iff distinct given).mp schema
    have isRequired := (holds_iff distinct given).mp required
    exact ⟨fields, given, _, ⟨_, isName, rfl⟩, _, ⟨_, isDescription, rfl⟩, _,
      ⟨_, isSchema, members, rfl, read⟩, _, ⟨_, isRequired, rfl⟩, rfl⟩

/-- The names of the fields of a server, in their order. -/
def Server.fieldNames : List String :=
  ["id", "server", "tools"]

/-- A record says everything about a server and about each of its tools. -/
structure Server.DescribedBy (server : Server) (record : Json) : Prop where
  id : Holds fieldNames record "id" (.string server.id)
  name : Holds fieldNames record "server" (.string server.name)
  tools : ∃ records, Holds fieldNames record "tools" (.array records) ∧
    List.Forall₂ (fun record tool => Tool.DescribedBy tool record) records server.tools

theorem Server.ofJson?_eq_some_iff {record : Json} {server : Server} :
    ofJson? record = some server ↔ server.DescribedBy record := by
  have distinct : fieldNames.Nodup := by decide
  simp only [ofJson?, requiredField, Option.bind_eq_bind, Option.bind_eq_some_iff,
    Json.string?_eq_some_iff, list?_eq_some_iff, Tool.ofJson?_eq_some_iff]
  constructor
  · rintro ⟨fields, given, id, ⟨_, isId, rfl⟩, name, ⟨_, isName, rfl⟩, tools,
      ⟨_, isTools, records, rfl, described⟩, same⟩
    cases same
    exact
      { id := (holds_iff distinct given).mpr isId
        name := (holds_iff distinct given).mpr isName
        tools := ⟨records, (holds_iff distinct given).mpr isTools, described⟩ }
  · rintro ⟨id, name, records, tools, described⟩
    rcases id.exists_fields with ⟨fields, given⟩
    have isId := (holds_iff distinct given).mp id
    have isName := (holds_iff distinct given).mp name
    have isTools := (holds_iff distinct given).mp tools
    exact ⟨fields, given, _, ⟨_, isId, rfl⟩, _, ⟨_, isName, rfl⟩, _,
      ⟨_, isTools, records, rfl, described⟩, rfl⟩

/-- One tool of which anything is missing or of another type spoils the whole listing. -/
theorem Server.not_describedBy_of_tool {content record : Json} {records : List Json}
    (tools : Holds fieldNames content "tools" (.array records)) (member : record ∈ records)
    (undescribed : ∀ tool : Tool, ¬ tool.DescribedBy record) (server : Server) :
    ¬ server.DescribedBy content := by
  rintro ⟨_, _, others, toolsToo, described⟩
  cases tools.unique (by decide) toolsToo
  rcases described.exists_of_mem_left member with ⟨tool, _, describes⟩
  exact undescribed tool describes

end Hub

end ToolGate
