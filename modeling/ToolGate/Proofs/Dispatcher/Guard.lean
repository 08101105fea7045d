import ToolGate.Proofs.Dispatcher.Run

/-!
# The guard in front of the hub

A call reaches the hub only if its tool is registered and the shape of the
tool accepts the arguments, and then with the output of the shape.  The
answer tells the three cases apart: an unknown name, rejected arguments, and
whatever the hub answers.  A hub with fixed listings answers with a value or
with a failure of its own, so no answer of the hub can be taken for a
refusal.
-/

namespace ToolGate

/-- A hub with fixed listings answers every call with a value or with a failure of the hub. -/
theorem HubLink.canned_answer (listings : List (String × Json)) (failure : Option String)
    (call : ForwardedCall) :
    (∃ value, (canned listings failure).answer call = .ok value) ∨
      ∃ message, (canned listings failure).answer call = .error (.hub message) := by
  cases failure with
  | none => exact .inl ⟨_, rfl⟩
  | some message => exact .inr ⟨message, rfl⟩

namespace Dispatcher

theorem admitted_call_eq_some_iff {registry : Registry} {name : String} {arguments : Json}
    {call : ForwardedCall} :
    (Step.call name arguments).admitted registry = some call ↔
      ∃ tool output, registry.get? name = some tool ∧
        tool.shape.validate arguments = .ok output ∧
        call = ⟨tool.server, tool.tool, output⟩ := by
  rw [Step.admitted]
  cases found : registry.get? name with
  | none => simp
  | some tool =>
      cases verdict : tool.shape.validate arguments with
      | error issues => simp [verdict]
      | ok output => simp [verdict, eq_comm]

section Answer

variable {dispatcher : Dispatcher} {hub : HubLink} {name : String} {arguments : Json}

/-- A call that is forwarded has the answer of the hub. -/
theorem answer_of_admitted {call : ForwardedCall}
    (admitted : (Step.call name arguments).admitted dispatcher.registry = some call) :
    (dispatcher.call hub name arguments).2 = hub.answer call := by
  rcases admitted_call_eq_some_iff.mp admitted with ⟨tool, output, found, accepted, rfl⟩
  rw [call_eq]
  simp only [found, accepted]

variable {listings : List (String × Json)} {failure : Option String}

theorem answer_eq_toolNotFound_iff {missing : String} :
    (dispatcher.call (.canned listings failure) name arguments).2 =
        .error (.toolNotFound missing) ↔
      missing = name ∧ dispatcher.registry.get? name = none := by
  rw [call_eq]
  cases found : dispatcher.registry.get? name with
  | none => simp [eq_comm]
  | some tool =>
      cases verdict : tool.shape.validate arguments with
      | error issues => simp [verdict]
      | ok output =>
          have answer := HubLink.canned_answer listings failure ⟨tool.server, tool.tool, output⟩
          rcases answer with ⟨value, answer⟩ | ⟨message, answer⟩
          · simp [verdict, answer]
          · simp [verdict, answer]

theorem answer_eq_validation_iff {issues : List Issue} :
    (dispatcher.call (.canned listings failure) name arguments).2 =
        .error (.validation issues) ↔
      ∃ tool, dispatcher.registry.get? name = some tool ∧
        tool.shape.validate arguments = .error issues := by
  rw [call_eq]
  cases found : dispatcher.registry.get? name with
  | none => simp
  | some tool =>
      cases verdict : tool.shape.validate arguments with
      | error others => simp [verdict]
      | ok output =>
          have answer := HubLink.canned_answer listings failure ⟨tool.server, tool.tool, output⟩
          rcases answer with ⟨value, answer⟩ | ⟨message, answer⟩
          · simp [verdict, answer]
          · simp [verdict, answer]

end Answer

/--
The dispatch guard.  In every state of a dispatcher that started without
tools, what has been forwarded are the calls that the moments of the run
admit.  A step adds the call that it admits, a call leaves the registry as it
is, and its answer says why it was refused or is the answer of the hub.
-/
theorem calls_guarded (mode : GateMode) (policy : UnknownKeys)
    (listings : List (String × Json)) (failure : Option String) (steps : List Step) :
    let hub := HubLink.canned listings failure
    let start : Dispatcher := { mode, registry := { policy } }
    let used := steps.map fun next => (hub, next)
    let now := start.run used
    (now.forwarded =
      (start.moments used).filterMap fun moment => moment.2.admitted moment.1.registry) ∧
    (∀ next, (now.step hub next).forwarded =
      now.forwarded ++ (next.admitted now.registry).toList) ∧
    ∀ name arguments,
      let answered := now.call hub name arguments
      answered.1.registry = now.registry ∧
      (∀ missing, answered.2 = .error (.toolNotFound missing) ↔
        missing = name ∧ now.registry.get? name = none) ∧
      (∀ issues, answered.2 = .error (.validation issues) ↔
        ∃ tool, now.registry.get? name = some tool ∧
          tool.shape.validate arguments = .error issues) ∧
      ∀ call, (Step.call name arguments).admitted now.registry = some call →
        answered.2 = hub.answer call := by
  intro hub start used now
  refine ⟨?_, forwarded_step, ?_⟩
  · have log := forwarded_run start used
    rwa [show start.forwarded = [] from rfl, List.nil_append] at log
  · intro name arguments answered
    refine ⟨call_registry name arguments, ?_, ?_, ?_⟩
    · exact fun missing => answer_eq_toolNotFound_iff
    · exact fun issues => answer_eq_validation_iff
    · exact fun call => answer_of_admitted

/-- A tool is called before and after its removal; the hub fails, but sees the first call. -/
theorem calls_guarded_removed_tool :
    let tool : Hub.Tool := ⟨"t", "", [("a", { keywords := { type := some .boolean } })], ["a"]⟩
    let arguments : Json := .object [("b", .null), ("a", .bool true)]
    let hub := HubLink.canned [] (some "down")
    let start : Dispatcher := { mode := .gateway, registry := { policy := .strip } }
    let loaded := start.run [(hub, .register ⟨"", "s", [tool]⟩)]
    let removed := start.run
      [(hub, .register ⟨"", "s", [tool]⟩), (hub, .call "s__t" arguments), (hub, .deregister "s__t")]
    (loaded.call hub "s__t" arguments).2 = .error (.hub "down") ∧
      (removed.call hub "s__t" arguments).2 = .error (.toolNotFound "s__t") ∧
      removed.forwarded = [⟨"s", "t", .object [("a", .bool true)]⟩] := by
  intro tool arguments hub start loaded removed
  have beforehand := calls_guarded .gateway .strip [] (some "down") [.register ⟨"", "s", [tool]⟩]
  have afterwards := calls_guarded .gateway .strip [] (some "down")
    [.register ⟨"", "s", [tool]⟩, .call "s__t" arguments, .deregister "s__t"]
  refine ⟨?_, ?_, ?_⟩
  · exact (beforehand.2.2 "s__t" arguments).2.2.2 ⟨"s", "t", .object [("a", .bool true)]⟩ rfl
  · exact ((afterwards.2.2 "s__t" arguments).2.1 "s__t").mpr ⟨rfl, rfl⟩
  · exact afterwards.1

end Dispatcher

end ToolGate
