import ToolGate.Proofs.Registry

/-!
# Runs of a registry

Tools are registered one by one or by the server, and removed one by one or
by the server.  What an operation does to single names is given by its
events, which say for every tool under which name it comes in.  The history
of a run lists the events of its operations, and the run is the replay of
its history: the policy, by which new entries are made, never changes.
-/

namespace ToolGate.Registry

/-- One change of a registry. -/
inductive Operation where
  | registerTool (exposed server : String) (tool : Hub.Tool)
  | registerServer (server : Hub.Server)
  | registerServerNamespaced (server : Hub.Server)
  | deregisterTool (name : String)
  | deregisterServer (server : String)

/-- The registry after an operation. -/
def apply (registry : Registry) : Operation → Registry
  | .registerTool exposed server tool => registry.registerTool exposed server tool
  | .registerServer server => registry.registerServer server
  | .registerServerNamespaced server => registry.registerServerNamespaced server
  | .deregisterTool name => registry.deregisterTool name
  | .deregisterServer server => (registry.deregisterServer server).1

/-- The registry after operations that follow one another. -/
def run (registry : Registry) (operations : List Operation) : Registry :=
  operations.foldl apply registry

/-- What can happen to the names of a registry. -/
inductive Event where
  | registered (name : String) (tool : RegisteredTool)
  | nameRemoved (name : String)
  | serverRemoved (server : String)

/-- The registrations that make up the registration of a server. -/
def registrations (policy : UnknownKeys) (expose : String → String) (server : Hub.Server) :
    List Event :=
  server.tools.map fun tool =>
    .registered (expose tool.name) (entryOf policy server.name tool)

/-- What an operation does, name by name, under the policy of the registry. -/
def Operation.events (policy : UnknownKeys) : Operation → List Event
  | .registerTool exposed server tool => [.registered exposed (entryOf policy server tool)]
  | .registerServer server => registrations policy id server
  | .registerServerNamespaced server => registrations policy (ToolName.join server.name) server
  | .deregisterTool name => [.nameRemoved name]
  | .deregisterServer server => [.serverRemoved server]

/-- All events of operations that follow one another. -/
def history (policy : UnknownKeys) (operations : List Operation) : List Event :=
  operations.flatMap (Operation.events policy)

/-- The registry after an event. -/
def record (registry : Registry) : Event → Registry
  | .registered name tool => { registry with tools := Entries.insert name tool registry.tools }
  | .nameRemoved name => registry.deregisterTool name
  | .serverRemoved server => (registry.deregisterServer server).1

/-- The registry after events that follow one another. -/
def replay (registry : Registry) (events : List Event) : Registry :=
  events.foldl record registry

theorem policy_record (registry : Registry) (event : Event) :
    (registry.record event).policy = registry.policy := by
  cases event <;> rfl

theorem policy_replay (registry : Registry) (events : List Event) :
    (registry.replay events).policy = registry.policy := by
  induction events generalizing registry with
  | nil => rfl
  | cons event rest ih => exact (ih (registry.record event)).trans (policy_record registry event)

theorem registerAll_eq_replay (registry : Registry) (expose : String → String)
    (server : Hub.Server) :
    registry.registerAll expose server =
      registry.replay (registrations registry.policy expose server) := by
  rcases server with ⟨id, name, tools⟩
  unfold registerAll registrations replay
  -- every registration leaves the policy alone, so the later entries are made by the same
  induction tools generalizing registry with
  | nil => rfl
  | cons tool rest ih => exact ih (registry.registerTool (expose tool.name) name tool)

theorem apply_eq_replay (registry : Registry) (operation : Operation) :
    registry.apply operation = registry.replay (operation.events registry.policy) := by
  cases operation with
  | registerTool exposed server tool => rfl
  | registerServer server => exact registerAll_eq_replay registry id server
  | registerServerNamespaced server =>
      exact registerAll_eq_replay registry (ToolName.join server.name) server
  | deregisterTool name => rfl
  | deregisterServer server => rfl

/-- A run is the replay of its history. -/
theorem run_eq_replay (registry : Registry) (operations : List Operation) :
    registry.run operations = registry.replay (history registry.policy operations) := by
  induction operations generalizing registry with
  | nil => rfl
  | cons operation rest ih =>
      have samePolicy : (registry.apply operation).policy = registry.policy := by
        rw [apply_eq_replay, policy_replay]
      have later := ih (registry.apply operation)
      rw [samePolicy, apply_eq_replay] at later
      simp only [run, replay, history, List.foldl_cons, List.flatMap_cons,
        List.foldl_append] at later ⊢
      rw [apply_eq_replay]
      exact later

theorem All.record {property : String → RegisteredTool → Prop} {registry : Registry}
    (all : registry.All property) {event : Event}
    (new : ∀ name tool, event = .registered name tool → property name tool) :
    (registry.record event).All property := by
  cases event with
  | registered name tool => exact all.insert (new name tool rfl)
  | nameRemoved name => exact all.deregisterTool name
  | serverRemoved server => exact all.deregisterServer server

/-- A property of all tools that are registered is one of all tools that are there. -/
theorem All.replay {property : String → RegisteredTool → Prop} {registry : Registry}
    (all : registry.All property) {events : List Event}
    (new : ∀ name tool, .registered name tool ∈ events → property name tool) :
    (registry.replay events).All property := by
  induction events generalizing registry with
  | nil => exact all
  | cons event rest ih =>
      have first : (registry.record event).All property := by
        apply all.record
        rintro name tool rfl
        exact new name tool List.mem_cons_self
      exact ih first fun name tool member => new name tool (List.mem_cons_of_mem _ member)

end ToolGate.Registry
