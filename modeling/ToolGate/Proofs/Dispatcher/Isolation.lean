import ToolGate.Proofs.Dispatcher.Exposure
import ToolGate.Proofs.ToolName

/-!
# Servers behind one gateway

A gateway exposes the tools of all servers in one space of names.  An entry
stays as it is, whatever other servers are registered, as long as none of
their tools has the same joined name; and this cannot happen while the names
of the servers are apart.  Where one server's name continues another's, both
may offer tools that share a joined name, and the later registration takes
this name over.
-/

namespace ToolGate.Dispatcher

/--
The step does not remove a name of an owner, and a server that it registers
is another one, whose name is apart from the owner's or whose tools have
other joined names.
-/
structure Step.Spares (dispatcher : Dispatcher) (hub : HubLink) (name owner : String)
    (next : Step) : Prop where
  stays : next ≠ .deregister name
  others : ∀ server, next.Registers dispatcher hub server →
    owner ≠ server.name ∧
      (ToolName.Apart owner server.name ∨
        ∀ tool ∈ server.tools, ToolName.join server.name tool.name ≠ name)

variable {dispatcher : Dispatcher} {hub : HubLink} {name : String} {tool : RegisteredTool}

/-- The names of a gateway are joined names. -/
theorem Exposed.eq_join (exposed : Exposed dispatcher) (gateway : dispatcher.mode = .gateway)
    (found : dispatcher.registry.get? name = some tool) :
    name = ToolName.join tool.server tool.tool := by
  have named : name = dispatcher.mode.exposedName tool.server tool.tool := exposed.get? found
  rwa [gateway] at named

theorem Step.Spares.get?_step {next : Step}
    (spares : next.Spares dispatcher hub name tool.server) (exposed : Exposed dispatcher)
    (gateway : dispatcher.mode = .gateway)
    (found : dispatcher.registry.get? name = some tool) :
    (dispatcher.step hub next).registry.get? name = some tool := by
  rcases registry_step dispatcher hub next with
    ⟨server, registers⟩ | ⟨removed, rfl, step⟩ | untouched
  · rcases spares.others server registers with ⟨different, spared⟩
    have otherNames : ∀ offered ∈ server.tools,
        dispatcher.mode.exposedName server.name offered.name ≠ name := by
      rw [gateway]
      rcases spared with apart | otherNames
      · intro offered _
        rw [exposed.eq_join gateway found]
        exact ((ToolName.apart_iff different).mp apart tool.tool offered.name).symm
      · exact otherNames
    rw [registry_of_registers registers, Registry.get?_registerAll_of_forall_ne _ otherNames]
    exact found
  · have elsewhere : name ≠ removed := by
      rintro rfl
      exact spares.stays rfl
    rw [step, Registry.get?_deregisterTool, if_neg elsewhere]
    exact found
  · rw [untouched]
    exact found

/-- What a step registers depends on the mode of the dispatcher alone. -/
theorem Step.Registers.congr_mode {other : Dispatcher} (same : dispatcher.mode = other.mode)
    {next : Step} {server : Hub.Server} (registers : next.Registers dispatcher hub server) :
    next.Registers other hub server := by
  cases next with
  | load asked =>
      have listed : dispatcher.listed hub asked = other.listed hub asked := by
        rw [Dispatcher.listed, Dispatcher.listed, same]
      exact listed.symm.trans registers
  | register given => exact registers
  | call _ _ => cases registers
  | deregister _ => cases registers

theorem Step.Spares.congr_mode {other : Dispatcher} (same : dispatcher.mode = other.mode)
    {owner : String} {next : Step} (spares : next.Spares dispatcher hub name owner) :
    next.Spares other hub name owner :=
  ⟨spares.stays, fun server registers => spares.others server (registers.congr_mode same.symm)⟩

/-- An entry outlives all steps that spare it. -/
theorem get?_run_of_spares {steps : List (HubLink × Step)} (exposed : Exposed dispatcher)
    (gateway : dispatcher.mode = .gateway)
    (found : dispatcher.registry.get? name = some tool)
    (spare : ∀ taken ∈ steps, taken.2.Spares dispatcher taken.1 name tool.server) :
    (dispatcher.run steps).registry.get? name = some tool := by
  induction steps generalizing dispatcher with
  | nil => exact found
  | cons first rest ih =>
      rcases first with ⟨hub, next⟩
      rw [List.forall_mem_cons] at spare
      have sameMode : (dispatcher.step hub next).mode = dispatcher.mode := mode_step next
      apply ih (exposed.step next) (sameMode.trans gateway)
      · exact spare.1.get?_step exposed gateway found
      · exact fun taken member => (spare.2 taken member).congr_mode sameMode.symm

/--
Isolation behind a gateway that started without tools.  An entry is still
there, unchanged, after any steps that spare it; in particular after servers
other than its owner are registered or loaded, if their names are apart from
the owner's or their tools have other joined names.  A call under its name is
judged by the same shape and forwarded to the same tool of the same server.
-/
theorem servers_isolated (policy : UnknownKeys) (steps later : List (HubLink × Step)) :
    let start : Dispatcher := { mode := .gateway, registry := { policy } }
    let now := start.run steps
    let after := now.run later
    ∀ name tool, now.registry.get? name = some tool →
      (∀ taken ∈ later, taken.2.Spares now taken.1 name tool.server) →
      after.registry.get? name = some tool ∧
      ∀ hub arguments,
        after.call hub name arguments =
          match tool.shape.validate arguments with
          | .error issues => (after, .error (.validation issues))
          | .ok output =>
              let call : ForwardedCall := ⟨tool.server, tool.tool, output⟩
              ({ after with forwarded := after.forwarded ++ [call] }, hub.answer call) := by
  intro start now after name tool found spare
  have exposed : Exposed now := exposed_run .gateway policy steps
  have kept : after.registry.get? name = some tool :=
    get?_run_of_spares exposed (mode_run steps) found spare
  refine ⟨kept, ?_⟩
  intro hub arguments
  have answered := @call_eq after hub name arguments
  rw [kept] at answered
  exact answered

/-- One server is apart and the name of the other continues the owner's; neither is in the way. -/
theorem servers_isolated_continued_name :
    let hub := HubLink.canned
      [("a", messageListing "a" "b__c"), ("b", messageListing "b" "c"),
        ("a__b", messageListing "a__b" "d")] none
    let start : Dispatcher := { mode := .gateway }
    let after := (start.run [(hub, .load "a")]).run [(hub, .load "b"), (hub, .load "a__b")]
    let arguments : Json := .object [("message", .string "x")]
    after.registry.names = ["a__b__c", "b__c", "a__b__d"] ∧
      (after.call hub "a__b__c" arguments).1.forwarded = [⟨"a", "b__c", arguments⟩] := by
  intro hub start after arguments
  refine ⟨rfl, ?_⟩
  obtain ⟨tool, found, owned⟩ : ∃ tool,
      (start.run [(hub, .load "a")]).registry.get? "a__b__c" = some tool ∧
        (tool.server, tool.tool, tool.shape.validate arguments) = ("a", "b__c", .ok arguments) :=
    ⟨_, rfl, rfl⟩
  simp only [Prod.mk.injEq] at owned
  obtain ⟨server, name, accepted⟩ := owned
  have kept := servers_isolated default [(hub, .load "a")] [(hub, .load "b"), (hub, .load "a__b")]
    "a__b__c" tool found ?_
  · rw [kept.2, accepted, server, name]
    rfl
  · intro taken member
    rw [server]
    rcases List.mem_pair.mp member with rfl | rfl
    · refine ⟨nofun, ?_⟩
      rintro _ ⟨⟩
      exact ⟨by decide, .inl (by decide)⟩
    · refine ⟨nofun, ?_⟩
      rintro _ ⟨⟩
      exact ⟨by decide, .inr (by decide)⟩

/-- A gateway loses the tool of one server to another one whose name continues the first. -/
theorem joined_name_taken_over :
    let hub := HubLink.canned
      [("a", messageListing "a" "b__c"), ("a__b", messageListing "a__b" "c")] none
    let start : Dispatcher := { mode := .gateway }
    let now := start.run [(hub, .load "a")]
    let after := now.step hub (.load "a__b")
    ¬ ∀ name tool, now.registry.get? name = some tool → tool.server = "a" →
      after.registry.get? name = some tool := by
  intro hub start now after isolated
  obtain ⟨tool, found, owned⟩ : ∃ tool,
      now.registry.get? "a__b__c" = some tool ∧ tool.server = "a" := ⟨_, rfl, rfl⟩
  have takenOver : (after.registry.get? "a__b__c").map RegisteredTool.server = some "a__b" := rfl
  rw [isolated "a__b__c" tool found owned, Option.map_some, owned] at takenOver
  exact absurd takenOver (by decide)

/-- The one tool of a server stands under its name after the registration. -/
theorem get?_registerServer_singleton (dispatcher : Dispatcher) (id server : String)
    (tool : Hub.Tool) :
    (dispatcher.registerServer ⟨id, server, [tool]⟩).registry.get?
        (dispatcher.mode.exposedName server tool.name) =
      some (Registry.entryOf dispatcher.registry.policy server tool) := by
  rw [registerServer_registry, Registry.registerAll, List.foldl_cons, List.foldl_nil,
    Registry.get?_registerTool, if_pos rfl]

/--
Names that are apart are needed, not only enough.  Of two servers with
different names, whatever tools they offer and whatever has happened before, a
registration of the other one leaves all entries of the owner alone exactly if
the names are apart.
-/
theorem entries_kept_iff_apart (policy : UnknownKeys) {owner other : String}
    (different : owner ≠ other) :
    let start : Dispatcher := { mode := .gateway, registry := { policy } }
    (∀ (steps : List (HubLink × Step)) (server : Hub.Server), server.name = other →
      let now := start.run steps
      ∀ name tool, now.registry.get? name = some tool → tool.server = owner →
        (now.registerServer server).registry.get? name = some tool) ↔
      ToolName.Apart owner other := by
  intro start
  constructor
  · intro kept
    apply (ToolName.apart_iff different).mpr
    intro shared taking same
    -- each of the two servers offers one tool, and both have the same joined name
    let tool : Hub.Tool := ⟨shared, "", [], []⟩
    let taken : Hub.Tool := ⟨taking, "", [], []⟩
    let steps : List (HubLink × Step) := [(.canned [] none, .register ⟨"", owner, [tool]⟩)]
    have found := get?_registerServer_singleton start "" owner tool
    have still := kept steps ⟨"", other, [taken]⟩ rfl _ _ found rfl
    have takenOver := get?_registerServer_singleton (start.run steps) "" other taken
    have sameName : (start.run steps).mode.exposedName other taking =
        start.mode.exposedName owner shared := same.symm
    rw [sameName, still, Option.some.injEq] at takenOver
    exact different (congrArg RegisteredTool.server takenOver)
  · intro apart steps server named now name tool found owned
    have exposed : Exposed now := exposed_run .gateway policy steps
    have spares : (Step.register server).Spares now (.canned [] none) name tool.server := by
      refine ⟨nofun, ?_⟩
      rintro _ ⟨⟩
      rw [owned, named]
      exact ⟨different, .inl apart⟩
    exact spares.get?_step exposed (mode_run steps) found

end ToolGate.Dispatcher
