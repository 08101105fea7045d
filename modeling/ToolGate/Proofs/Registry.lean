import ToolGate.Proofs.Entries
import ToolGate.Proofs.Validator.Frame
import ToolGate.Registry

/-!
# What a registry holds

A registry is changed by registering tools and by removing them.  Both
change what is found under the names they are about and nothing else.  A
property of all its entries is kept by a removal, and by a registration if
the new entries have it.  Validation looks a tool up and leaves the verdict to the
shape of the tool; the early refusal of what is no object is the refusal
that the shape itself would give.
-/

namespace ToolGate

/-- A shape refuses everything but objects for one reason. -/
theorem Shape.validate_of_not_object {shape : Shape} {value : Json}
    (notObject : value.isObject = false) :
    shape.validate value = .error [⟨.root, .invalidType "object" value.typeName⟩] := by
  have asValidator : shape.validate value = shape.toValidator.validate value := rfl
  rcases shape with ⟨fields, policy⟩
  rw [asValidator, toValidator, Validator.ofKind, Validator.validate_eq_judge]
  cases value with
  | object members => cases notObject
  | _ => rfl

namespace Registry

/-- Arguments are judged by the shape of the tool that is registered under the name. -/
theorem validate_eq (registry : Registry) (name : String) (arguments : Json) :
    registry.validate name arguments =
      match registry.get? name with
      | none => .error (.toolNotFound name)
      | some tool => (tool.shape.validate arguments).mapError .validation := by
  unfold validate
  cases registry.get? name with
  | none => rfl
  | some tool =>
      by_cases isObject : arguments.isObject = true
      · simp only [isObject, ↓reduceIte]
        cases tool.shape.validate arguments <;> rfl
      · rw [Bool.not_eq_true] at isObject
        simp only [isObject, Bool.false_eq_true, ↓reduceIte, Shape.validate_of_not_object isObject]
        rfl

theorem get?_registerTool (registry : Registry) (exposed server : String) (tool : Hub.Tool)
    (name : String) :
    (registry.registerTool exposed server tool).get? name =
      if name = exposed then some (entryOf registry.policy server tool) else registry.get? name :=
  Entries.lookup_insert exposed _ registry.tools name

theorem get?_deregisterTool (registry : Registry) (removed name : String) :
    (registry.deregisterTool removed).get? name =
      if name = removed then none else registry.get? name :=
  Entries.lookup_erase registry.tools removed name

/-- The registration of a server touches no name but those under which it exposes its tools. -/
theorem get?_registerAll_of_forall_ne (registry : Registry) {expose : String → String}
    {server : Hub.Server} {name : String}
    (spared : ∀ tool ∈ server.tools, expose tool.name ≠ name) :
    (registry.registerAll expose server).get? name = registry.get? name := by
  rcases server with ⟨id, owner, tools⟩
  unfold registerAll
  induction tools generalizing registry with
  | nil => rfl
  | cons tool rest ih =>
      rw [List.forall_mem_cons] at spared
      have first : (registry.registerTool (expose tool.name) owner tool).get? name =
          registry.get? name := by
        rw [get?_registerTool, if_neg spared.1.symm]
      exact (ih _ spared.2).trans first

/-- Every registered tool has a property, together with the name it is exposed by. -/
def All (property : String → RegisteredTool → Prop) (registry : Registry) : Prop :=
  ∀ entry ∈ registry.tools, property entry.1 entry.2

section All

variable {property : String → RegisteredTool → Prop} {registry : Registry}

theorem All.get? (all : registry.All property) {name : String} {tool : RegisteredTool}
    (found : registry.get? name = some tool) : property name tool :=
  all (name, tool) (Entries.mem_of_lookup found)

theorem All.insert (all : registry.All property) {name : String} {tool : RegisteredTool}
    (new : property name tool) :
    All property { registry with tools := Entries.insert name tool registry.tools } := by
  intro entry member
  rcases Entries.mem_of_mem_insert member with same | old
  · rw [same]
    exact new
  · exact all entry old

theorem All.registerTool (all : registry.All property) {exposed server : String}
    {tool : Hub.Tool} (new : property exposed (entryOf registry.policy server tool)) :
    (registry.registerTool exposed server tool).All property :=
  all.insert new

/-- The registration of a server adds the entries of its tools and nothing else. -/
theorem All.registerAll (all : registry.All property) {expose : String → String}
    {server : Hub.Server}
    (new : ∀ tool ∈ server.tools,
      property (expose tool.name) (entryOf registry.policy server.name tool)) :
    (registry.registerAll expose server).All property := by
  rcases server with ⟨id, name, tools⟩
  unfold Registry.registerAll
  -- the loop over the tools leaves the policy alone, by which new entries are made
  induction tools generalizing registry with
  | nil => exact all
  | cons tool rest ih =>
      rw [List.forall_mem_cons] at new
      have next : (registry.registerTool (expose tool.name) name tool).All property :=
        all.registerTool new.1
      exact ih next new.2

theorem All.deregisterTool (all : registry.All property) (name : String) :
    (registry.deregisterTool name).All property := by
  intro entry member
  exact all entry (List.mem_of_mem_filter member)

theorem All.deregisterServer (all : registry.All property) (server : String) :
    (registry.deregisterServer server).1.All property := by
  intro entry member
  exact all entry (List.mem_of_mem_filter member)

end All

end Registry

end ToolGate
