import ToolGate.Proofs.Dispatcher.Binding
import ToolGate.Proofs.Entries.Rewriting
import ToolGate.Proofs.Hub.Reading

/-!
# Loading a server

A load reads the whole listing of a server before it registers the first
tool.  So it either fails, for one of three reasons, and leaves the
dispatcher as it was, or it registers all tools of the server that the
listing describes.  A second load right after the first one writes the same
entries to the names where they stand already.
-/

namespace ToolGate

namespace Registry

theorem tools_registerAll (registry : Registry) (expose : String → String) (server : Hub.Server) :
    registry.registerAll expose server =
      { registry with
        tools := Entries.insertAll registry.tools <| server.tools.map fun tool =>
          (expose tool.name, entryOf registry.policy server.name tool) } := by
  rcases server with ⟨id, name, tools⟩
  unfold registerAll
  -- the loop leaves the policy alone, so all entries are made by the one of the start
  induction tools generalizing registry with
  | nil => rfl
  | cons tool rest ih => exact ih (registry.registerTool (expose tool.name) name tool)

/-- To register a server again changes neither the names, nor their order, nor any entry. -/
theorem registerAll_registerAll (registry : Registry) (expose : String → String)
    (server : Hub.Server) :
    (registry.registerAll expose server).registerAll expose server =
      registry.registerAll expose server := by
  rw [tools_registerAll, tools_registerAll, Entries.insertAll_insertAll]

end Registry

namespace Dispatcher

variable {dispatcher : Dispatcher} {hub : HubLink} {server : String}

/-- The dispatcher serves a server: a gateway serves all of them. -/
def Serves (dispatcher : Dispatcher) (server : String) : Prop :=
  ∀ bound, dispatcher.mode = .single bound → server = bound

/-- Why a server is not loaded, with the error that says so. -/
inductive LoadFails (dispatcher : Dispatcher) (hub : HubLink) (server : String) :
    GateError → Prop where
  /-- The dispatcher is bound to another server. -/
  | bound {other : String} (mode : dispatcher.mode = .single other) (different : other ≠ server) :
      LoadFails dispatcher hub server <| .invalidInput <|
        "Proxy is bound to server '" ++ other ++ "', cannot load '" ++ server ++ "'"
  /-- The hub gives no listing. -/
  | unlisted {error : GateError} (serves : dispatcher.Serves server)
      (refused : hub.listTools server = .error error) : LoadFails dispatcher hub server error
  /-- The listing does not describe a server with all its tools. -/
  | malformed {content : Json} (serves : dispatcher.Serves server)
      (given : hub.listTools server = .ok content)
      (undescribed : ∀ listed : Hub.Server, ¬ listed.DescribedBy content) :
      LoadFails dispatcher hub server (.malformedDescriptor malformedHubResponse)

theorem fromHub_eq_error_iff {content : Json} {error : GateError} :
    GateError.fromHub Hub.Server.ofJson? content = .error error ↔
      (∀ listed : Hub.Server, ¬ listed.DescribedBy content) ∧
        error = .malformedDescriptor malformedHubResponse := by
  simp only [← Hub.Server.ofJson?_eq_some_iff]
  unfold GateError.fromHub
  cases Hub.Server.ofJson? content with
  | none => simp [eq_comm]
  | some listed => simp

theorem serves_iff_of_single {bound : String} (mode : dispatcher.mode = .single bound) :
    dispatcher.Serves server ↔ bound = server := by
  simp [Serves, mode, eq_comm]

theorem listed_of_serves (serves : dispatcher.Serves server) :
    dispatcher.listed hub server =
      (hub.listTools server).bind (GateError.fromHub Hub.Server.ofJson?) := by
  unfold Dispatcher.listed
  cases mode : dispatcher.mode with
  | gateway => rfl
  | single bound => exact if_pos ((serves_iff_of_single mode).mp serves)

/-- A load fails for the stated reasons only, and always if there is one. -/
theorem listed_eq_error_iff {error : GateError} :
    dispatcher.listed hub server = .error error ↔ LoadFails dispatcher hub server error := by
  by_cases serves : dispatcher.Serves server
  · rw [listed_of_serves serves]
    constructor
    · intro failed
      cases given : hub.listTools server with
      | error refusal =>
          rw [given] at failed
          cases failed
          exact .unlisted serves given
      | ok content =>
          rw [given] at failed
          rcases fromHub_eq_error_iff.mp failed with ⟨undescribed, rfl⟩
          exact .malformed serves given undescribed
    · rintro (⟨mode, different⟩ | ⟨_, refused⟩ | ⟨_, given, undescribed⟩)
      · exact absurd ((serves_iff_of_single mode).mp serves) different
      · rw [refused]
        rfl
      · rw [given]
        exact fromHub_eq_error_iff.mpr ⟨undescribed, rfl⟩
  · have bound : ∃ other, dispatcher.mode = .single other ∧ other ≠ server := by
      simpa [Serves, eq_comm] using serves
    rcases bound with ⟨other, mode, different⟩
    have refused : dispatcher.listed hub server = .error (.invalidInput
        ("Proxy is bound to server '" ++ other ++ "', cannot load '" ++ server ++ "'")) := by
      simp only [Dispatcher.listed, mode, GateMode.server?, different, ↓reduceIte]
    rw [refused]
    constructor
    · rintro ⟨⟩
      exact .bound mode different
    · rintro (⟨modeToo, _⟩ | ⟨serving, _⟩ | ⟨serving, _⟩)
      · cases mode.symm.trans modeToo
        rfl
      · exact absurd serving serves
      · exact absurd serving serves

/-- What is loaded is what the listing describes. -/
theorem listed_eq_ok_iff_described {listed : Hub.Server} :
    dispatcher.listed hub server = .ok listed ↔
      dispatcher.Serves server ∧
        ∃ content, hub.listTools server = .ok content ∧ listed.DescribedBy content := by
  simp only [listed_eq_ok_iff, HubLink.Lists, Hub.Server.ofJson?_eq_some_iff, Serves]

theorem registerServer_registerServer (listed : Hub.Server) :
    (dispatcher.registerServer listed).registerServer listed =
      dispatcher.registerServer listed := by
  have again : ∀ first second : Dispatcher, first.mode = second.mode →
      first.forwarded = second.forwarded → first.registry = second.registry → first = second := by
    rintro ⟨_, _, _⟩ ⟨_, _, _⟩ rfl rfl rfl
    rfl
  apply again
  · rfl
  · rfl
  · rw [registerServer_registry, registerServer_registry]
    exact Registry.registerAll_registerAll _ _ _

/-- To load a server again right away gives the same result and changes nothing. -/
theorem loadServer_loadServer (dispatcher : Dispatcher) (hub : HubLink) (server : String) :
    (dispatcher.loadServer hub server).1.loadServer hub server =
      dispatcher.loadServer hub server := by
  rcases loadServer_cases dispatcher hub server with
    ⟨listed, success, loaded⟩ | ⟨error, _, failed⟩
  · have again : (dispatcher.registerServer listed).listed hub server = .ok listed := success
    rw [loaded]
    dsimp only
    rw [loadServer, again]
    dsimp only
    rw [registerServer_registerServer]
  · rw [failed]
    exact failed

/--
Loading is all or nothing.  A load fails exactly for the stated reasons, and
then nothing has changed; one tool of the listing that is not described in
full is reason enough.  If a load succeeds, the result is the registration of
the server that the listing describes, with the number of its tools, and the
same load right after it changes nothing.
-/
theorem loading_all_or_nothing (dispatcher : Dispatcher) (hub : HubLink) (server : String) :
    let result := dispatcher.loadServer hub server
    (∀ error, result.2 = .error error ↔ LoadFails dispatcher hub server error) ∧
    (∀ error, result.2 = .error error → result.1 = dispatcher) ∧
    (∀ content records record, hub.listTools server = .ok content →
      Hub.Holds Hub.Server.fieldNames content "tools" (.array records) → record ∈ records →
        (∀ tool : Hub.Tool, ¬ tool.DescribedBy record) →
          (∃ error, result.2 = .error error) ∧ result.1 = dispatcher) ∧
    ∀ count, result.2 = .ok count →
      (∃ content listed, hub.listTools server = .ok content ∧ listed.DescribedBy content ∧
        result.1 = dispatcher.registerServer listed ∧ count = listed.tools.length) ∧
      result.1.loadServer hub server = result := by
  intro result
  have repeated : result.1.loadServer hub server = result :=
    loadServer_loadServer dispatcher hub server
  rcases loadServer_cases dispatcher hub server with
    ⟨listed, success, loaded⟩ | ⟨error, failure, failed⟩
  · rcases listed_eq_ok_iff_described.mp success with ⟨serves, content, given, described⟩
    have verdict : result.2 = .ok listed.tools.length := congrArg Prod.snd loaded
    have noFailure : ∀ error, ¬ LoadFails dispatcher hub server error := by
      intro error fails
      cases success.symm.trans (listed_eq_error_iff.mpr fails)
    refine ⟨?_, ?_, ?_, ?_⟩
    · intro error
      simp [verdict, noFailure error]
    · intro error refused
      cases verdict.symm.trans refused
    · intro other records record givenToo tools member undescribed
      cases given.symm.trans givenToo
      exact absurd described (Hub.Server.not_describedBy_of_tool tools member undescribed listed)
    · intro count counted
      cases verdict.symm.trans counted
      exact ⟨⟨content, listed, given, described, congrArg Prod.fst loaded, rfl⟩, repeated⟩
  · have verdict : result.2 = .error error := congrArg Prod.snd failed
    have unchanged : result.1 = dispatcher := congrArg Prod.fst failed
    refine ⟨?_, ?_, ?_, ?_⟩
    · intro other
      rw [← listed_eq_error_iff, verdict, failure, Except.error.injEq, Except.error.injEq]
    · exact fun _ _ => unchanged
    · exact fun _ _ _ _ _ _ _ => ⟨⟨error, verdict⟩, unchanged⟩
    · intro count counted
      cases verdict.symm.trans counted

/-- A listing with one tool twice, and one of which the last tool asks for a name that is none. -/
theorem loading_all_or_nothing_repeated_and_broken :
    let tool := fun required : Json => Json.object
      [("name", .string "say"), ("description", .string "d"),
        ("input_schema", .object [("message", .object [("type", .string "string")])]),
        ("required_inputs", .array [required])]
    let listing := fun required : Json => Json.object
      [("id", .string "srv"), ("server", .string "echo"),
        ("tools", .array [tool (.string "message"), tool required])]
    let hub := HubLink.canned
      [("echo", listing (.string "other")), ("broken", listing .null)] none
    let start : Dispatcher := { mode := .gateway }
    let loaded := start.loadServer hub "echo"
    loaded.2 = .ok 2 ∧ loaded.1.registry.names = ["echo__say"] ∧
      loaded.1.loadServer hub "echo" = loaded ∧
      (loaded.1.loadServer hub "broken").2 =
        .error (.malformedDescriptor malformedHubResponse) ∧
      (loaded.1.loadServer hub "broken").1 = loaded.1 := by
  intro tool listing hub start loaded
  refine ⟨rfl, rfl, ?_, rfl, ?_⟩
  · exact ((loading_all_or_nothing start hub "echo").2.2.2 2 rfl).2
  · exact (loading_all_or_nothing loaded.1 hub "broken").2.1 _ rfl

end Dispatcher

end ToolGate
