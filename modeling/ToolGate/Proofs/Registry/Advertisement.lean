import ToolGate.Proofs.Hub
import ToolGate.Proofs.Registry.Run

/-!
# What is advertised is what is enforced

A client sees the input schema of a tool, and calls are checked against its
shape.  Both are made from the tool when it is registered, each in its own
way.  As long as the tools come from JSON, the input schema of every entry
describes the very shape that the entry holds.
-/

namespace ToolGate.Registry

/-- The tools that the operation registers have been read from JSON. -/
def Operation.Parsed : Operation → Prop
  | .registerTool _ _ tool => ∃ content, Hub.Tool.ofJson? content = some tool
  | .registerServer server => ∃ content, Hub.Server.ofJson? content = some server
  | .registerServerNamespaced server => ∃ content, Hub.Server.ofJson? content = some server
  | .deregisterTool _ => True
  | .deregisterServer _ => True

/-- The input schema of the tool describes its shape. -/
def Advertised (policy : UnknownKeys) (tool : RegisteredTool) : Prop :=
  Shape.ofInputSchema? policy tool.inputSchema = some tool.shape

theorem advertised_entryOf (policy : UnknownKeys) (server : String) {tool : Hub.Tool}
    {content : Json} (given : Hub.Tool.ofJson? content = some tool) :
    Advertised policy (entryOf policy server tool) :=
  Hub.Tool.ofInputSchema?_inputSchema policy (Hub.Tool.ofJson_toJson_of_mem_parameters given)

theorem advertised_of_mem_registrations {policy : UnknownKeys} {expose : String → String}
    {server : Hub.Server} {content : Json} (given : Hub.Server.ofJson? content = some server)
    {name : String} {tool : RegisteredTool}
    (member : .registered name tool ∈ registrations policy expose server) :
    Advertised policy tool := by
  rcases List.mem_map.mp member with ⟨listed, inside, same⟩
  cases same
  rcases Hub.Server.exists_read_of_mem_tools given listed inside with ⟨part, read⟩
  exact advertised_entryOf policy server.name read

/-- What an operation registers is advertised as it is, if it was read from JSON. -/
theorem Operation.Parsed.advertised {policy : UnknownKeys} {operation : Operation}
    (parsed : operation.Parsed) {name : String} {tool : RegisteredTool}
    (member : .registered name tool ∈ operation.events policy) : Advertised policy tool := by
  cases operation with
  | registerTool exposed server given =>
      rcases parsed with ⟨content, read⟩
      cases List.mem_singleton.mp member
      exact advertised_entryOf policy server read
  | registerServer server =>
      rcases parsed with ⟨content, read⟩
      exact advertised_of_mem_registrations read member
  | registerServerNamespaced server =>
      rcases parsed with ⟨content, read⟩
      exact advertised_of_mem_registrations read member
  | deregisterTool name => cases List.mem_singleton.mp member
  | deregisterServer server => cases List.mem_singleton.mp member

theorem advertised_run (policy : UnknownKeys) {operations : List Operation}
    (parsed : ∀ operation ∈ operations, operation.Parsed) :
    (run { policy } operations).All fun _ tool => Advertised policy tool := by
  rw [run_eq_replay]
  have atStart : All (fun _ tool => Advertised policy tool) { policy } := by
    intro entry member
    cases member
  apply atStart.replay
  intro name tool member
  rcases List.mem_flatMap.mp member with ⟨operation, taken, event⟩
  exact (parsed operation taken).advertised event

/--
For every entry of a registry whose tools were read from JSON, the shape that
its input schema describes to the registry's own compiler has the same names
in the same order, asks for the same of them and judges all arguments alike.
-/
theorem advertised_enforced (policy : UnknownKeys) {operations : List Operation}
    (parsed : ∀ operation ∈ operations, operation.Parsed) :
    let now := run { policy } operations
    ∀ entry ∈ now.tools, ∃ described,
      Shape.ofInputSchema? now.policy entry.2.inputSchema = some described ∧
      described.fieldNames = entry.2.shape.fieldNames ∧
      described.fields.map (fun field => field.2.optional) =
        entry.2.shape.fields.map (fun field => field.2.optional) ∧
      ∀ arguments, described.validate arguments = entry.2.shape.validate arguments := by
  intro now entry member
  have samePolicy : now.policy = policy := by
    rw [show now = _ from run_eq_replay { policy } operations, policy_replay]
  have advertised : Advertised policy entry.2 := advertised_run policy parsed entry member
  exact ⟨entry.2.shape, samePolicy ▸ advertised, rfl, rfl, fun arguments => rfl⟩

/-- A replaced tool whose parameter has an alias as its format and a count beyond all words. -/
theorem advertised_enforced_lossy :
    let parameters : List (String × Json) :=
      [("link", .object [("type", .string "string"), ("format", .string "uri"),
        ("maxLength", .ofBinary64 (.largest false))])]
    let tool : Hub.Tool :=
      { name := "open", description := "", parameters := SchemaNode.ofEntries parameters,
        required := ["link"] }
    let operations : List Operation :=
      [.registerTool "open" "files" tool, .registerTool "open" "web" tool,
        .deregisterServer "files"]
    let now := run { policy := .strict } operations
    (∀ operation ∈ operations, operation.Parsed) ∧ now.names = ["open"] ∧
      ∀ entry ∈ now.tools, ∃ described,
        Shape.ofInputSchema? now.policy entry.2.inputSchema = some described ∧
        ∀ arguments, described.validate arguments = entry.2.shape.validate arguments := by
  intro parameters tool operations now
  let content : Json := .object
    [("name", .string "open"), ("description", .string ""), ("input_schema", .object parameters),
      ("required_inputs", .array [.string "link"])]
  have read : Hub.Tool.ofJson? content = some tool := rfl
  have parsed : ∀ operation ∈ operations, operation.Parsed := by
    simp only [operations, List.forall_mem_cons]
    exact ⟨⟨content, read⟩, ⟨content, read⟩, trivial, nofun⟩
  refine ⟨parsed, by decide +kernel, ?_⟩
  intro entry member
  rcases advertised_enforced .strict parsed entry member with ⟨described, same, _, _, verdicts⟩
  exact ⟨described, same, verdicts⟩

end ToolGate.Registry
