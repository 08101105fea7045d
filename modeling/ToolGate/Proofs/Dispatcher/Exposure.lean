import ToolGate.Proofs.Dispatcher.Binding

/-!
# The names under which a dispatcher exposes tools

A step changes the registry in one of two ways: it registers the tools of a
server, or it removes a name.  So every entry of a dispatcher that started
without tools stands under the name that the mode makes from its server and
its tool.  A call is forwarded to the server and the tool of the entry it
finds, so a name that was called tells where the call went.
-/

namespace ToolGate.Dispatcher

/-- The step registers the tools of a server, whether this is given or listed by the hub. -/
def Step.Registers (dispatcher : Dispatcher) (hub : HubLink) : Step → Hub.Server → Prop
  | .load name, server => dispatcher.listed hub name = .ok server
  | .register given, server => given = server
  | .call _ _, _ => False
  | .deregister _, _ => False

variable {dispatcher : Dispatcher} {hub : HubLink}

theorem registry_of_registers {next : Step} {server : Hub.Server}
    (registers : next.Registers dispatcher hub server) :
    (dispatcher.step hub next).registry =
      dispatcher.registry.registerAll (dispatcher.mode.exposedName server.name) server := by
  rw [← registerServer_registry]
  cases next with
  | load name =>
      rcases loadServer_cases dispatcher hub name with ⟨listed, success, loaded⟩ |
        ⟨error, failure, _⟩
      · cases registers.symm.trans success
        exact congrArg (fun result => result.1.registry) loaded
      · cases registers.symm.trans failure
  | register given =>
      obtain rfl : given = server := registers
      rfl
  | call _ _ => cases registers
  | deregister _ => cases registers

/-- A step registers a server, removes a name or leaves the registry alone. -/
theorem registry_step (dispatcher : Dispatcher) (hub : HubLink) (next : Step) :
    (∃ server, next.Registers dispatcher hub server) ∨
    (∃ name, next = .deregister name ∧
      (dispatcher.step hub next).registry = dispatcher.registry.deregisterTool name) ∨
    (dispatcher.step hub next).registry = dispatcher.registry := by
  cases next with
  | load name =>
      rcases loadServer_cases dispatcher hub name with ⟨listed, success, _⟩ |
        ⟨error, _, failed⟩
      · exact .inl ⟨listed, success⟩
      · exact .inr (.inr (congrArg (fun result => result.1.registry) failed))
  | register server => exact .inl ⟨server, rfl⟩
  | call name arguments => exact .inr (.inr (call_registry name arguments))
  | deregister name => exact .inr (.inl ⟨name, rfl, rfl⟩)

/-- Every registered tool stands under the name that the mode makes for it. -/
def Exposed (dispatcher : Dispatcher) : Prop :=
  dispatcher.registry.All fun name tool =>
    name = dispatcher.mode.exposedName tool.server tool.tool

theorem Exposed.step (exposed : Exposed dispatcher) (next : Step) :
    Exposed (dispatcher.step hub next) := by
  unfold Exposed at exposed ⊢
  rw [mode_step]
  rcases registry_step dispatcher hub next with
    ⟨server, registers⟩ | ⟨name, _, removed⟩ | untouched
  · rw [registry_of_registers registers]
    exact exposed.registerAll fun tool _ => rfl
  · rw [removed]
    exact exposed.deregisterTool name
  · rw [untouched]
    exact exposed

theorem Exposed.run (exposed : Exposed dispatcher) (steps : List (HubLink × Step)) :
    Exposed (dispatcher.run steps) := by
  induction steps generalizing dispatcher with
  | nil => exact exposed
  | cons first rest ih => exact ih (exposed.step first.2)

theorem mode_run (steps : List (HubLink × Step)) :
    (dispatcher.run steps).mode = dispatcher.mode := by
  induction steps generalizing dispatcher with
  | nil => rfl
  | cons first rest ih => exact ih.trans (mode_step first.2)

/-- A dispatcher that started without tools exposes all of them by the rule of its mode. -/
theorem exposed_run (mode : GateMode) (policy : UnknownKeys) (steps : List (HubLink × Step)) :
    let start : Dispatcher := { mode, registry := { policy } }
    Exposed (start.run steps) := by
  intro start
  have atStart : Exposed start := by
    intro entry member
    cases member
  exact atStart.run steps

/-! ## Where calls go -/

/-- The name that a step calls. -/
def Step.called? : Step → Option String
  | .call name _ => some name
  | _ => none

/-- The name that a step calls and for which it sends a call to the hub. -/
def Step.sent? (registry : Registry) (next : Step) : Option String :=
  (next.admitted registry).bind fun _ => next.called?

theorem Exposed.called?_of_admitted (exposed : Exposed dispatcher) {next : Step}
    {call : ForwardedCall} (admitted : next.admitted dispatcher.registry = some call) :
    next.called? = some (dispatcher.mode.exposedName call.server call.tool) := by
  cases next with
  | call name arguments =>
      rcases admitted_call_eq_some_iff.mp admitted with ⟨tool, output, found, _, rfl⟩
      exact congrArg some (exposed.get? found)
  | load _ => cases admitted
  | register _ => cases admitted
  | deregister _ => cases admitted

/-- At every moment of a run the names are exposed by the rule of the one mode. -/
theorem Exposed.moments (exposed : Exposed dispatcher) {steps : List (HubLink × Step)} :
    ∀ moment ∈ dispatcher.moments steps,
      Exposed moment.1 ∧ moment.1.mode = dispatcher.mode := by
  induction steps generalizing dispatcher with
  | nil => exact List.forall_mem_nil _
  | cons first rest ih =>
      rcases first with ⟨hub, next⟩
      rw [Dispatcher.moments, List.forall_mem_cons]
      constructor
      · exact ⟨exposed, rfl⟩
      · intro moment member
        rcases ih (exposed.step next) moment member with ⟨still, sameMode⟩
        exact ⟨still, sameMode.trans (mode_step next)⟩

/-- The targets of the calls that a run adds are the names for which it sent them. -/
theorem Exposed.targets_run (exposed : Exposed dispatcher) (steps : List (HubLink × Step)) :
    ((dispatcher.moments steps).filterMap fun moment =>
        moment.2.admitted moment.1.registry).map
          (fun call => dispatcher.mode.exposedName call.server call.tool) =
      (dispatcher.moments steps).filterMap fun moment =>
        moment.2.sent? moment.1.registry := by
  rw [List.map_filterMap]
  apply List.filterMap_congr
  intro moment member
  rcases exposed.moments moment member with ⟨here, sameMode⟩
  unfold Step.sent?
  cases admitted : moment.2.admitted moment.1.registry with
  | none => rfl
  | some call =>
      rw [Option.map_some, Option.bind_some, here.called?_of_admitted admitted, sameMode]

/--
Exposed names identify the target.  After any run of a dispatcher that started
without tools, every registered tool stands under the name that the mode makes
from its server and its tool, and the calls that reached the hub were sent, in
their order, for the names that the mode makes from their targets: the joined
name for a gateway, the name of the tool otherwise.
-/
theorem names_identify_targets (mode : GateMode) (policy : UnknownKeys)
    (steps : List (HubLink × Step)) :
    let start : Dispatcher := { mode, registry := { policy } }
    let now := start.run steps
    let target : String → String → String :=
      match mode with
      | .gateway => ToolName.join
      | .single _ => fun _ tool => tool
    (∀ entry ∈ now.registry.tools, entry.1 = target entry.2.server entry.2.tool) ∧
      now.forwarded.map (fun call => target call.server call.tool) =
        (start.moments steps).filterMap fun moment => moment.2.sent? moment.1.registry := by
  intro start now target
  have sameTarget : target = mode.exposedName := by
    cases mode <;> rfl
  have exposed : Exposed now := exposed_run mode policy steps
  have sameMode : now.mode = mode := mode_run steps
  rw [sameTarget]
  constructor
  · unfold Exposed at exposed
    rwa [sameMode] at exposed
  · have atStart : Exposed start := exposed_run mode policy []
    have log : now.forwarded =
        (start.moments steps).filterMap fun moment => moment.2.admitted moment.1.registry :=
      (forwarded_run start steps).trans (List.nil_append _)
    rw [log]
    exact atStart.targets_run steps

/-- A name is called before and after another server takes it over. -/
theorem names_identify_targets_taken_over :
    let hub := HubLink.canned
      [("a", messageListing "a" "b__c"), ("a__b", messageListing "a__b" "c")] none
    let call : Step := .call "a__b__c" (.object [("message", .string "x")])
    let now := Dispatcher.run { mode := .gateway }
      [(hub, .load "a"), (hub, call), (hub, .load "a__b"), (hub, call), (hub, .call "c" .null)]
    now.forwarded.map (fun call => (call.server, call.tool)) = [("a", "b__c"), ("a__b", "c")] ∧
      now.forwarded.map (fun call => ToolName.join call.server call.tool) =
        ["a__b__c", "a__b__c"] ∧
      ∀ entry ∈ now.registry.tools, entry.1 = ToolName.join entry.2.server entry.2.tool := by
  intro hub call now
  have identified := names_identify_targets .gateway default
    [(hub, .load "a"), (hub, call), (hub, .load "a__b"), (hub, call), (hub, .call "c" .null)]
  exact ⟨rfl, identified.2, identified.1⟩

end ToolGate.Dispatcher
