import ToolGate.Dispatcher

/-!
# What a dispatcher forwards

A call is forwarded when its tool is registered and the shape of the tool
has an output for the arguments; then it carries this output.  Nothing else
is ever added to what has been forwarded.
-/

namespace ToolGate

theorem Registry.validate_eq_ok_iff {registry : Registry} {name : String}
    {arguments output : Json} :
    registry.validate name arguments = .ok output ↔
      ∃ tool, registry.get? name = some tool ∧ arguments.isObject = true ∧
        tool.shape.validate arguments = .ok output := by
  unfold validate
  cases registry.get? name with
  | none => simp
  | some tool =>
      by_cases object : arguments.isObject = true
      · simp only [object, ↓reduceIte, Option.some.injEq, true_and, exists_eq_left']
        cases tool.shape.validate arguments <;> simp
      · simp [object]

namespace Dispatcher

variable {dispatcher : Dispatcher} {name : String} {arguments : Json} {call : ForwardedCall}

/-- A call is prepared for a registered tool with the output for the arguments. -/
theorem prepare_eq_ok_iff :
    dispatcher.prepare name arguments = .ok call ↔
      ∃ tool output, dispatcher.registry.get? name = some tool ∧ arguments.isObject = true ∧
        tool.shape.validate arguments = .ok output ∧
        call = ⟨tool.server, tool.tool, output⟩ := by
  unfold prepare
  cases result : dispatcher.registry.validate name arguments with
  | error error =>
      simp only [reduceCtorEq, false_iff]
      rintro ⟨tool, output, found, object, accepted, _⟩
      have passed := Registry.validate_eq_ok_iff.mpr ⟨tool, found, object, accepted⟩
      cases result.symm.trans passed
  | ok output =>
      rcases Registry.validate_eq_ok_iff.mp result with ⟨tool, found, object, accepted⟩
      simp only [found, object, Except.ok.injEq, Option.some.injEq]
      constructor
      · rintro rfl
        exact ⟨tool, output, rfl, trivial, accepted, rfl⟩
      · rintro ⟨_, _, rfl, _, same, rfl⟩
        cases accepted.symm.trans same
        rfl

/-- What a call adds to the forwarded calls is the prepared call. -/
theorem mem_forwarded_call {hub : HubLink}
    (forwarded : call ∈ (dispatcher.call hub name arguments).1.forwarded) :
    call ∈ dispatcher.forwarded ∨ dispatcher.prepare name arguments = .ok call := by
  unfold Dispatcher.call at forwarded
  cases prepared : dispatcher.prepare name arguments with
  | error error =>
      rw [prepared] at forwarded
      exact .inl forwarded
  | ok next =>
      rw [prepared] at forwarded
      rcases List.mem_append.mp forwarded with before | added
      · exact .inl before
      · rw [List.mem_singleton.mp added]
        exact .inr rfl

end Dispatcher

end ToolGate
