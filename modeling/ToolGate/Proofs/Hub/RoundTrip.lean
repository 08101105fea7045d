import ToolGate.Hub.Resource
import ToolGate.Hub.Statistics
import ToolGate.Proofs.Hub

/-!
# Records that are written and read again

The hub may send a record in either of two forms, may leave out what can be
missing or give it as `null`, may write a whole number where a float is
meant, and may say in a schema what has no meaning there.  Reading settles all
of this.  What has been read is written in one form only, every field under
its name, and from there it is read as it was.
-/

namespace ToolGate.Hub

/-- A record is written so that it is read again as it is, and then written again as before. -/
structure ReadsBack {α : Type} (read : Json → Option α) (write : α → Json) (record : α) :
    Prop where
  /-- What is read again is the record. -/
  same : read (write record) = some record
  /-- What is read again is written as the record was. -/
  stable : ∀ again, read (write record) = some again → write again = write record

theorem ReadsBack.of_same {α : Type} {read : Json → Option α} {write : α → Json} {record : α}
    (same : read (write record) = some record) : ReadsBack read write record where
  same := same
  stable _ found := congrArg write (Option.some.inj (found.symm.trans same))

/-- A list that is written element by element is read again if every element is. -/
theorem list?_map {α : Type} {read : Json → Option α} {write : α → Json} {items : List α}
    (back : ∀ item ∈ items, read (write item) = some item) :
    list? read (.array (items.map write)) = some items := by
  rw [list?_eq_some_iff]
  refine ⟨_, rfl, ?_⟩
  rwa [List.forall₂_map_left_iff, List.forall₂_same]

section Tools

/-- A tool is read again if its parameters survive being written. -/
theorem Tool.ofJson?_toJson {tool : Tool}
    (back : ∀ parameter ∈ tool.parameters,
      SchemaNode.ofJson parameter.2.toJson = parameter.2) :
    ofJson? tool.toJson = some tool := by
  have schema := SchemaNode.ofMembers?_toJson back
  rw [← SchemaNode.entriesToJson_eq] at schema
  rcases SchemaNode.ofMembers?_eq_some_iff.mp schema with ⟨members, isObject, read⟩
  rw [ofJson?_eq_some_iff]
  exact
    { name := .named rfl
      description := .named rfl
      parameters := ⟨members, .named (congrArg some isObject), read⟩
      required := .named rfl }

/-- A server is read again if its tools are. -/
theorem Server.ofJson?_toJson {server : Server}
    (back : ∀ tool ∈ server.tools, Tool.ofJson? tool.toJson = some tool) :
    ofJson? server.toJson = some server := by
  rw [ofJson?_eq_some_iff]
  refine { id := .named rfl, name := .named rfl, tools := ⟨_, .named rfl, ?_⟩ }
  rw [List.forall₂_map_left_iff, List.forall₂_same]
  exact fun tool member => Tool.ofJson?_eq_some_iff.mp (back tool member)

/-- A tool that has been read is read again as it is. -/
theorem Tool.ofJson?_toJson_of_ofJson? {content : Json} {tool : Tool}
    (given : ofJson? content = some tool) : ofJson? tool.toJson = some tool :=
  ofJson?_toJson (ofJson_toJson_of_mem_parameters given)

/-- A server that has been read is read again as it is, with all its tools. -/
theorem Server.ofJson?_toJson_of_ofJson? {content : Json} {server : Server}
    (given : ofJson? content = some server) : ofJson? server.toJson = some server := by
  apply ofJson?_toJson
  intro tool member
  rcases exists_read_of_mem_tools given tool member with ⟨part, read⟩
  exact Tool.ofJson?_toJson_of_ofJson? read

end Tools

section Resources

theorem Resource.ofJson?_toJson (resource : Resource) :
    ofJson? resource.toJson = some resource := by
  rcases resource with ⟨uri, name, _ | description, _ | mimeType⟩ <;> rfl

theorem Resources.ofJson?_toJson (listing : Resources) :
    ofJson? listing.toJson = some listing := by
  have resources := list?_map fun resource (_ : resource ∈ listing.resources) =>
    resource.ofJson?_toJson
  simp only [ofJson?, Option.bind_eq_bind, Option.bind_eq_some_iff]
  exact ⟨_, rfl, _, rfl, _, rfl, _, resources, rfl⟩

/-- A body that holds something is read again. -/
theorem ResourceContent.ofJson?_toJson {content : ResourceContent}
    (holds : content.hasBody = true) : ofJson? content.toJson = some content := by
  have back : ofJson? content.toJson = if content.hasBody then some content else none := by
    rcases content with ⟨uri, _ | mimeType, _ | text, _ | blob⟩ <;> rfl
  rw [back, if_pos holds]

/-- A body that has been read holds something. -/
theorem ResourceContent.hasBody_of_ofJson? {given : Json} {content : ResourceContent}
    (read : ofJson? given = some content) : content.hasBody = true := by
  simp only [ofJson?, Option.bind_eq_bind, Option.bind_eq_some_iff] at read
  rcases read with ⟨_, _, _, _, _, _, _, _, _, _, kept⟩
  split at kept
  · rename_i holds
    rwa [← Option.some.inj kept]
  · cases kept

end Resources

section Statistics

theorem Latency.ofJson?_toJson (latency : Latency) : ofJson? latency.toJson = some latency := rfl

theorem CallStatistics.ofJson?_toJson (statistics : CallStatistics) :
    ofJson? statistics.toJson = some statistics := by
  have calls := Json.word?_ofWord statistics.calls
  have latency := statistics.latency.ofJson?_toJson
  have errors := Json.word?_ofWord statistics.errors
  simp only [ofJson?, Option.bind_eq_bind, Option.bind_eq_some_iff]
  exact ⟨_, rfl, _, calls, _, latency, _, rfl, _, errors, _, rfl, rfl⟩

theorem ToolStatistics.ofJson?_toJson (entry : ToolStatistics) :
    ofJson? entry.toJson = some entry := by
  have statistics := entry.statistics.ofJson?_toJson
  simp only [ofJson?, Option.bind_eq_bind, Option.bind_eq_some_iff]
  exact ⟨_, rfl, _, rfl, _, statistics, _, rfl, rfl⟩

theorem DiscoveredServer.ofJson?_toJson (server : DiscoveredServer) :
    ofJson? server.toJson = some server := by
  have categories := list?_string?_eq_some_iff.mpr (Eq.refl (strings server.categories))
  have tags := list?_string?_eq_some_iff.mpr (Eq.refl (strings server.tags))
  have toolCount := Json.word?_ofWord server.toolCount
  have entries := list?_map fun entry (_ : entry ∈ server.toolStatistics) => entry.ofJson?_toJson
  simp only [ofJson?, Option.bind_eq_bind, Option.bind_eq_some_iff]
  exact ⟨_, rfl, _, rfl, _, rfl, _, rfl, _, categories, _, tags, _, rfl, _, toolCount, _, entries,
    rfl⟩

theorem Discovery.ofJson?_toJson (discovery : Discovery) :
    ofJson? discovery.toJson = some discovery := by
  have servers := list?_map fun server (_ : server ∈ discovery.servers) => server.ofJson?_toJson
  have totalCount := Json.word?_ofWord discovery.totalCount
  simp only [ofJson?, Option.bind_eq_bind, Option.bind_eq_some_iff]
  exact ⟨_, rfl, _, servers, _, totalCount, rfl⟩

end Statistics

/--
What the hub sends survives.  A record of any kind that has been read, from
either form, with fields left out or given as `null`, is written so that it is
read again as the same record, and from there written in the same way.  A body
that has been read keeps holding a text or encoded bytes.
-/
theorem records_read_back (content : Json) :
    (∀ tool, Tool.ofJson? content = some tool → ReadsBack Tool.ofJson? Tool.toJson tool) ∧
    (∀ server, Server.ofJson? content = some server →
      ReadsBack Server.ofJson? Server.toJson server) ∧
    (∀ resource, Resource.ofJson? content = some resource →
      ReadsBack Resource.ofJson? Resource.toJson resource) ∧
    (∀ listing, Resources.ofJson? content = some listing →
      ReadsBack Resources.ofJson? Resources.toJson listing) ∧
    (∀ body, ResourceContent.ofJson? content = some body →
      ReadsBack ResourceContent.ofJson? ResourceContent.toJson body ∧ body.hasBody = true) ∧
    (∀ entry, ToolStatistics.ofJson? content = some entry →
      ReadsBack ToolStatistics.ofJson? ToolStatistics.toJson entry) ∧
    (∀ discovery, Discovery.ofJson? content = some discovery →
      ReadsBack Discovery.ofJson? Discovery.toJson discovery) := by
  refine ⟨?tool, ?server, ?resource, ?listing, ?body, ?entry, ?discovery⟩
  case tool => exact fun tool given => .of_same (Tool.ofJson?_toJson_of_ofJson? given)
  case server => exact fun server given => .of_same (Server.ofJson?_toJson_of_ofJson? given)
  case resource => exact fun resource _ => .of_same resource.ofJson?_toJson
  case listing => exact fun listing _ => .of_same listing.ofJson?_toJson
  case body =>
    intro body given
    have holds := ResourceContent.hasBody_of_ofJson? given
    exact ⟨.of_same (ResourceContent.ofJson?_toJson holds), holds⟩
  case entry => exact fun entry _ => .of_same entry.ofJson?_toJson
  case discovery => exact fun discovery _ => .of_same discovery.ofJson?_toJson

/-- Records given in place: with a lossy schema, with a missing field, with integers for floats. -/
theorem records_read_back_in_place :
    let schema : Json := .object [("format", .string "uri"), ("items", .string "text")]
    let tool : Json :=
      .array [.string "open", .string "", .object [("page", schema)], .array [.string "page"]]
    let listing : Json := .array [.string "id", .string "web", .array [tool]]
    let body : Json := .array [.string "file:///a", .null, .string "text"]
    let seven : Json := .number (.integer ⟨7, by decide, by decide⟩)
    let latency : Json := .array [seven, seven, seven, seven]
    let entry : Json := .array
      [.string "open", .array [seven, latency, seven, seven, seven], .string "now"]
    (∃ server, Server.ofJson? listing = some server ∧
      Server.ofJson? server.toJson = some server) ∧
    (∃ content, ResourceContent.ofJson? body = some content ∧
      ResourceContent.ofJson? content.toJson = some content ∧ content.hasBody = true) ∧
    ∃ statistics, ToolStatistics.ofJson? entry = some statistics ∧
      ToolStatistics.ofJson? statistics.toJson = some statistics := by
  intro schema tool listing body seven latency entry
  rcases records_read_back listing with ⟨_, servers, _⟩
  rcases records_read_back body with ⟨_, _, _, _, bodies, _⟩
  rcases records_read_back entry with ⟨_, _, _, _, _, entries, _⟩
  refine ⟨⟨_, rfl, (servers _ rfl).same⟩, ?_, ⟨_, rfl, (entries _ rfl).same⟩⟩
  rcases bodies _ rfl with ⟨back, holds⟩
  exact ⟨_, rfl, back.same, holds⟩

end ToolGate.Hub
