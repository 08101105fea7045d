import ToolGate.Proofs.Dispatcher
import ToolGate.Proofs.Registry

/-!
# Runs of a dispatcher

A dispatcher is used in steps: servers are loaded or registered, tools are
removed, and tools are called.  The hub may change between two steps, so
every step comes with the hub as it is at that time.  The moments of a run
are its steps, each with the dispatcher just before it.

A step adds at most one call to what has been forwarded, and which one
follows from the registry of its moment.  A run therefore forwards the calls
that its moments admit, in their order.
-/

namespace ToolGate

/-- The name by which a dispatcher exposes a tool of a server. -/
def GateMode.exposedName : GateMode → (server tool : String) → String
  | .gateway, server, tool => ToolName.join server tool
  | .single _, _, tool => tool

namespace Dispatcher

/-- One use of a dispatcher. -/
inductive Step where
  | load (server : String)
  | register (server : Hub.Server)
  | call (name : String) (arguments : Json)
  | deregister (name : String)

/-- The dispatcher after a step, with the hub as it is at that time. -/
def step (dispatcher : Dispatcher) (hub : HubLink) : Step → Dispatcher
  | .load server => (dispatcher.loadServer hub server).1
  | .register server => dispatcher.registerServer server
  | .call name arguments => (dispatcher.call hub name arguments).1
  | .deregister name => (dispatcher.deregisterTool name).1

/-- The dispatcher after steps that are taken one after the other. -/
def run (dispatcher : Dispatcher) (steps : List (HubLink × Step)) : Dispatcher :=
  steps.foldl (fun dispatcher next => dispatcher.step next.1 next.2) dispatcher

/-- The steps of a run, each with the dispatcher just before it. -/
def moments : Dispatcher → List (HubLink × Step) → List (Dispatcher × Step)
  | _, [] => []
  | dispatcher, (hub, next) :: rest => (dispatcher, next) :: moments (dispatcher.step hub next) rest

/--
The call that a step sends to the hub: the tool is registered, and its shape
has an output for the arguments.
-/
def Step.admitted (registry : Registry) : Step → Option ForwardedCall
  | .call name arguments => do
      let tool ← registry.get? name
      let output ← Verdict.output? (tool.shape.validate arguments)
      some { server := tool.server, tool := tool.tool, arguments := output }
  | _ => none

variable {dispatcher : Dispatcher} {hub : HubLink}

theorem registerServer_registry (server : Hub.Server) :
    (dispatcher.registerServer server).registry =
      dispatcher.registry.registerAll (dispatcher.mode.exposedName server.name) server := by
  rcases dispatcher with ⟨mode, registry, forwarded⟩
  cases mode <;> rfl

/-- A load either fails and changes nothing, or registers what the hub lists. -/
theorem loadServer_cases (dispatcher : Dispatcher) (hub : HubLink) (server : String) :
    (∃ listed, dispatcher.listed hub server = .ok listed ∧
      dispatcher.loadServer hub server =
        (dispatcher.registerServer listed, .ok listed.tools.length)) ∨
    (∃ error, dispatcher.listed hub server = .error error ∧
      dispatcher.loadServer hub server = (dispatcher, .error error)) := by
  unfold loadServer
  cases listed : dispatcher.listed hub server with
  | ok server => exact .inl ⟨server, rfl, rfl⟩
  | error error => exact .inr ⟨error, rfl, rfl⟩

/--
What a call does: it is refused because of the name or of the arguments, and
then changes nothing, or it is forwarded and answered by the hub.
-/
theorem call_eq (name : String) (arguments : Json) :
    dispatcher.call hub name arguments =
      match dispatcher.registry.get? name with
      | none => (dispatcher, .error (.toolNotFound name))
      | some tool =>
          match tool.shape.validate arguments with
          | .error issues => (dispatcher, .error (.validation issues))
          | .ok output =>
              let call : ForwardedCall := ⟨tool.server, tool.tool, output⟩
              ({ dispatcher with forwarded := dispatcher.forwarded ++ [call] },
                hub.answer call) := by
  unfold Dispatcher.call prepare
  rw [Registry.validate_eq]
  cases dispatcher.registry.get? name with
  | none => rfl
  | some tool =>
      dsimp only
      cases tool.shape.validate arguments <;> rfl

theorem call_registry (name : String) (arguments : Json) :
    (dispatcher.call hub name arguments).1.registry = dispatcher.registry := by
  rw [call_eq]
  split
  · rfl
  · split <;> rfl

theorem forwarded_call (name : String) (arguments : Json) :
    (dispatcher.call hub name arguments).1.forwarded =
      dispatcher.forwarded ++ ((Step.call name arguments).admitted dispatcher.registry).toList := by
  rw [call_eq, Step.admitted]
  cases dispatcher.registry.get? name with
  | none => exact (List.append_nil _).symm
  | some tool =>
      cases verdict : tool.shape.validate arguments with
      | error issues => simp [verdict]
      | ok output => simp [verdict]

/-- A step adds the call that it admits, which only a call step does. -/
theorem forwarded_step (next : Step) :
    (dispatcher.step hub next).forwarded =
      dispatcher.forwarded ++ (next.admitted dispatcher.registry).toList := by
  cases next with
  | load server =>
      rcases loadServer_cases dispatcher hub server with
        ⟨listed, _, loaded⟩ | ⟨error, _, failed⟩
      · simp [step, loaded, registerServer, Step.admitted]
      · simp [step, failed, Step.admitted]
  | register server => simp [step, registerServer, Step.admitted]
  | call name arguments => exact forwarded_call name arguments
  | deregister name => simp [step, deregisterTool, Step.admitted]

/-- A run adds the calls that its moments admit, in their order. -/
theorem forwarded_run (dispatcher : Dispatcher) (steps : List (HubLink × Step)) :
    (dispatcher.run steps).forwarded =
      dispatcher.forwarded ++
        (dispatcher.moments steps).filterMap fun moment =>
          moment.2.admitted moment.1.registry := by
  induction steps generalizing dispatcher with
  | nil => exact (List.append_nil _).symm
  | cons first rest ih =>
      rcases first with ⟨hub, next⟩
      have later := ih (dispatcher.step hub next)
      rw [forwarded_step] at later
      simp only [run, List.foldl_cons, moments, List.filterMap_cons] at later ⊢
      rw [later]
      cases next.admitted dispatcher.registry with
      | none => simp
      | some call => simp

end Dispatcher

end ToolGate
