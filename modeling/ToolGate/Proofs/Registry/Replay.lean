import ToolGate.Proofs.Registry.History

/-!
# What a registry holds after a run

A registry that replays a history holds what the history leaves: it finds
the latest tool of every name that is present, lists these names once each
in the order in which they came in, and its other answers are read off this
list.  The proofs go by the last event, with the lemma of the history on one
side and the lemma of the registry on the other.
-/

namespace ToolGate.Registry

variable {name : String} {tool : RegisteredTool} {registry : Registry}

theorem mem_names_iff_exists_get? :
    name ∈ registry.names ↔ ∃ tool, registry.get? name = some tool := by
  constructor
  · exact Entries.exists_lookup_of_mem_names
  · rintro ⟨tool, found⟩
    exact Entries.mem_names_of_lookup found

theorem get?_deregisterServer (distinct : Entries.Distinct registry.tools) (server : String) :
    (registry.deregisterServer server).1.get? name = some tool ↔
      registry.get? name = some tool ∧ tool.server ≠ server := by
  rw [get?, get?, deregisterServer, Entries.lookup_filter_eq_some_iff distinct, bne_iff_ne]

theorem replay_concat (events : List Event) (event : Event) :
    registry.replay (events ++ [event]) = (registry.replay events).record event := by
  rw [replay, replay, List.foldl_append]
  rfl

theorem distinct_record (distinct : Entries.Distinct registry.tools) (event : Event) :
    Entries.Distinct (registry.record event).tools := by
  cases event with
  | registered name tool => exact distinct.insert name tool
  | nameRemoved name => exact distinct.filter _
  | serverRemoved server => exact distinct.filter _

theorem distinct_replay (policy : UnknownKeys) (events : List Event) :
    Entries.Distinct (replay { policy } events).tools := by
  induction events using List.reverseRecOn with
  | nil => exact Entries.distinct_nil
  | append_singleton events event ih =>
      rw [replay_concat]
      exact distinct_record ih event

/-- An event writes one name, removes one name, or removes what one server owns. -/
theorem get?_record_iff (distinct : Entries.Distinct registry.tools) (event : Event) :
    (registry.record event).get? name = some tool ↔
      event = .registered name tool ∨
      (∀ other, event ≠ .registered name other) ∧ event ≠ .nameRemoved name ∧
        event ≠ .serverRemoved tool.server ∧ registry.get? name = some tool := by
  cases event with
  | registered exposed new =>
      have written : (registry.record (.registered exposed new)).get? name =
          if name = exposed then some new else registry.get? name :=
        Entries.lookup_insert exposed new registry.tools name
      rw [written]
      by_cases same : name = exposed
      · simp [same]
      · simp [same, Ne.symm same]
  | nameRemoved removed =>
      have erased : (registry.record (.nameRemoved removed)).get? name =
          if name = removed then none else registry.get? name :=
        get?_deregisterTool registry removed name
      rw [erased]
      by_cases same : name = removed
      · simp [same]
      · simp [same, Ne.symm same]
  | serverRemoved server =>
      have kept : (registry.record (.serverRemoved server)).get? name = some tool ↔
          registry.get? name = some tool ∧ tool.server ≠ server :=
        get?_deregisterServer distinct server
      rw [kept]
      simp [and_comm, eq_comm]

/-- A registry finds what the history left under the name. -/
theorem get?_replay_iff (policy : UnknownKeys) (events : List Event) :
    (replay { policy } events).get? name = some tool ↔
      Present events name ∧ Latest events name tool := by
  induction events using List.reverseRecOn with
  | nil =>
      constructor
      · intro found
        cases found
      · rintro ⟨present, _⟩
        exact absurd present not_present_nil
  | append_singleton events event ih =>
      rw [replay_concat, get?_record_iff (distinct_replay policy events), ih, present_concat_iff,
        latest_concat_iff]
      constructor
      · rintro (same | ⟨elsewhere, notName, notServer, present, latest⟩)
        · exact ⟨.inl ⟨tool, same⟩, .inl same⟩
        · have spared : ¬ event.Removes events name := by
            rw [latest.removes_iff]
            exact not_or.mpr ⟨notName, notServer⟩
          exact ⟨.inr ⟨present, spared⟩, .inr ⟨elsewhere, latest⟩⟩
      · rintro ⟨⟨other, registered⟩ | ⟨present, spared⟩, same | ⟨elsewhere, latest⟩⟩
        · exact .inl same
        · exact absurd registered (elsewhere other)
        · exact .inl same
        · rw [latest.removes_iff, not_or] at spared
          exact .inr ⟨elsewhere, spared.1, spared.2, present, latest⟩

theorem mem_names_replay_iff (policy : UnknownKeys) (events : List Event) :
    name ∈ (replay { policy } events).names ↔ Present events name := by
  rw [mem_names_iff_exists_get?]
  constructor
  · rintro ⟨tool, found⟩
    exact ((get?_replay_iff policy events).mp found).1
  · intro present
    rcases present.exists_latest with ⟨tool, latest⟩
    exact ⟨tool, (get?_replay_iff policy events).mpr ⟨present, latest⟩⟩

/-- Only the registration of an absent name adds one, and it does so at the end. -/
theorem names_record (registry : Registry) (event : Event) :
    (registry.record event).names.Sublist registry.names ∨
    ∃ name tool, event = .registered name tool ∧ name ∉ registry.names ∧
      (registry.record event).names = registry.names ++ [name] := by
  cases event with
  | registered name tool =>
      have written : (registry.record (.registered name tool)).names =
          if name ∈ registry.names then registry.names else registry.names ++ [name] :=
        Entries.names_insert name tool registry.tools
      by_cases listed : name ∈ registry.names
      · rw [if_pos listed] at written
        exact .inl (written ▸ List.Sublist.refl _)
      · rw [if_neg listed] at written
        exact .inr ⟨name, tool, rfl, listed, written⟩
  | nameRemoved name => exact .inl (Entries.names_filter_sublist _ registry.tools)
  | serverRemoved server => exact .inl (Entries.names_filter_sublist _ registry.tools)

/-- A registry lists its names in the order in which they came in. -/
theorem ordered_replay (policy : UnknownKeys) (events : List Event) :
    (replay { policy } events).names.Pairwise (EnteredBefore events) := by
  induction events using List.reverseRecOn with
  | nil => exact List.Pairwise.nil
  | append_singleton events event ih =>
      have presentAfter {name : String} :
          name ∈ (replay { policy } (events ++ [event])).names →
            Present (events ++ [event]) name :=
        (mem_names_replay_iff policy (events ++ [event])).mp
      have presentBefore {name : String} :
          name ∈ (replay { policy } events).names ↔ Present events name :=
        mem_names_replay_iff policy events
      rw [replay_concat] at presentAfter ⊢
      rcases names_record (replay { policy } events) event with
        sublist | ⟨new, tool, rfl, absent, appended⟩
      · apply (ih.sublist sublist).imp_of_mem
        intro first second listedFirst listedSecond order
        exact order.concat (presentAfter listedFirst) (presentAfter listedSecond)
      · rw [appended] at presentAfter ⊢
        refine List.pairwise_append.mpr ⟨?_, List.pairwise_singleton _ new, ?_⟩
        · apply ih.imp_of_mem
          intro first second listedFirst listedSecond order
          exact order.concat (presentAfter (List.mem_append_left _ listedFirst))
            (presentAfter (List.mem_append_left _ listedSecond))
        · intro first listedFirst second isNew
          obtain rfl := List.mem_singleton.mp isNew
          rcases (presentBefore.mp listedFirst).exists_enteredAt with ⟨earlier, entered⟩
          have still := presentAfter (List.mem_append_left _ listedFirst)
          have enteredLast : EnteredAt (events ++ [.registered second tool]) second
              events.length :=
            enteredAt_concat_iff.mpr
              (.inl ⟨rfl, fun present => absent (presentBefore.mpr present), tool, rfl⟩)
          exact ⟨earlier, events.length, enteredAt_concat_iff.mpr (.inr ⟨entered, still⟩),
            enteredLast, entered.lt_length⟩

/-- A registry holds exactly what a history leaves. -/
structure Reflects (history : List Event) (registry : Registry) : Prop where
  /-- A name is listed iff some registration of it is not followed by its removal. -/
  present : ∀ name, name ∈ registry.names ↔ Present history name
  /-- What is found under a name that is present is the tool of its latest registration. -/
  found : ∀ name tool, registry.get? name = some tool ↔
    Present history name ∧ Latest history name tool
  /-- No name is listed twice. -/
  once : registry.names.Nodup
  /-- Every listed name came in at one time. -/
  entered : ∀ name ∈ registry.names, ∃! time, EnteredAt history name time
  /-- Names are listed in the order in which they came in. -/
  ordered : registry.names.Pairwise (EnteredBefore history)
  /-- The other answers agree with the list of names. -/
  contains : ∀ name, registry.contains name = true ↔ name ∈ registry.names
  size : registry.size = registry.names.length
  isEmpty : registry.isEmpty = registry.names.isEmpty

theorem reflects_replay (policy : UnknownKeys) (events : List Event) :
    Reflects events (replay { policy } events) where
  present name := mem_names_replay_iff policy events
  found name tool := get?_replay_iff policy events
  once := distinct_replay policy events
  entered name listed := by
    have present : Present events name := (mem_names_replay_iff policy events).mp listed
    rcases present.exists_enteredAt with ⟨time, entered⟩
    exact ⟨time, entered, fun other enteredOther => enteredOther.unique entered⟩
  ordered := ordered_replay policy events
  contains name := Entries.contains_iff
  size := (List.length_map Prod.fst).symm
  isEmpty := (List.isEmpty_map ..).symm

/-- What single changes do to the list of names. -/
structure KeepsOrder (registry : Registry) : Prop where
  /-- Replacement keeps all places. -/
  replaced : ∀ exposed server tool, exposed ∈ registry.names →
    (registry.registerTool exposed server tool).names = registry.names
  /-- Removal keeps the order of the others. -/
  removed : ∀ name, (registry.deregisterTool name).names = registry.names.filter (· != name)
  serverRemoved : ∀ server, (registry.deregisterServer server).1.names.Sublist registry.names

theorem keepsOrder (registry : Registry) : KeepsOrder registry where
  replaced _ _ _ listed :=
    (Entries.names_insert _ _ registry.tools).trans (if_pos listed)
  removed name := (List.filter_map (f := Prod.fst) (p := (· != name)) (l := registry.tools)).symm
  serverRemoved _ := Entries.names_filter_sublist _ registry.tools

/-- The number of elements that a sublist leaves out of distinct ones. -/
theorem length_sub_length_of_sublist {kept all : List String} (sublist : kept.Sublist all)
    (distinct : all.Nodup) :
    all.length - kept.length = (all.filter (· ∉ kept)).length := by
  have same : (all.filter (· ∈ kept)).Perm kept := by
    apply (List.perm_ext_iff_of_nodup (distinct.filter _) (sublist.nodup distinct)).mpr
    intro name
    rw [List.mem_filter, decide_eq_true_iff, and_iff_right_iff_imp]
    exact fun listed => sublist.subset listed
  have parts := List.length_eq_length_filter_add (l := all) (· ∈ kept)
  rw [same.length_eq] at parts
  simp only [decide_not]
  omega

/-- The removal of a server counts the names that it takes away. -/
theorem count_deregisterServer (distinct : Entries.Distinct registry.tools) (server : String) :
    (registry.deregisterServer server).2 =
      (registry.names.filter (· ∉ (registry.deregisterServer server).1.names)).length := by
  have sublist : (registry.deregisterServer server).1.names.Sublist registry.names :=
    (keepsOrder registry).serverRemoved server
  have count := length_sub_length_of_sublist sublist distinct
  rw [← count]
  simp only [names, Entries.names, List.length_map]
  rfl

/-- Nothing of a server is left after its removal. -/
theorem all_deregisterServer (registry : Registry) (server : String) :
    (registry.deregisterServer server).1.All fun _ tool => tool.server ≠ server := by
  intro entry member
  exact bne_iff_ne.mp (List.mem_filter.mp member).2

/--
After any operations on a registry that started without tools, the registry
holds what their history leaves, in the order of the history, and removing a
server takes away all that it owns and counts it.
-/
theorem history_reflected (policy : UnknownKeys) (operations : List Operation) :
    let now := run { policy } operations
    Reflects (history policy operations) now ∧ KeepsOrder now ∧
      ∀ server,
        (now.deregisterServer server).2 =
          (now.names.filter (· ∉ (now.deregisterServer server).1.names)).length ∧
        (now.deregisterServer server).1.All fun _ tool => tool.server ≠ server := by
  intro now
  have replayed : now = replay { policy } (history policy operations) :=
    run_eq_replay { policy } operations
  have reflects : Reflects (history policy operations) now := by
    rw [replayed]
    exact reflects_replay policy (history policy operations)
  refine ⟨reflects, keepsOrder now, ?_⟩
  intro server
  exact ⟨count_deregisterServer reflects.once server, all_deregisterServer now server⟩

/-- A name that another server has taken over survives the removal of its first owner. -/
theorem history_reflected_taken_over :
    let tool (name : String) : Hub.Tool :=
      { name, description := "", parameters := [], required := [] }
    let operations : List Operation :=
      [.registerServer ⟨"", "weather", [tool "forecast", tool "alerts"]⟩,
        .registerTool "forecast" "news" (tool "outlook"),
        .deregisterServer "weather"]
    Reflects (history default operations) (run {} operations) ∧
      (run {} operations).names = ["forecast"] ∧
      ((run {} operations).get? "forecast").map RegisteredTool.server = some "news" := by
  intro tool operations
  exact ⟨(history_reflected default operations).1, by decide +kernel, by decide +kernel⟩

end ToolGate.Registry
