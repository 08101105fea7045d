import ToolGate.Proofs.Dispatcher.Guard

/-!
# The servers that calls are addressed to

A dispatcher that is bound to a server refuses to load any other one.  The
entries it registers and the calls it forwards carry the name that stands in
the listing, though, and the hub may give a listing of another server for the
name that was asked for.  So a bound dispatcher addresses its calls to the
servers that the hub named when the bound one was loaded, which is the bound
one itself if the hub keeps to the names.
-/

namespace ToolGate

/-- The hub lists a server under a name. -/
def HubLink.Lists (hub : HubLink) (name : String) (listed : Hub.Server) : Prop :=
  ∃ content, hub.listTools name = .ok content ∧ Hub.Server.ofJson? content = some listed

theorem GateError.fromHub_eq_ok_iff {α : Type} {read : Json → Option α} {content : Json}
    {result : α} :
    GateError.fromHub read content = .ok result ↔ read content = some result := by
  unfold GateError.fromHub
  cases read content with
  | none => simp
  | some other => simp

theorem HubLink.lists_iff {hub : HubLink} {name : String} {listed : Hub.Server} :
    (hub.listTools name).bind (GateError.fromHub Hub.Server.ofJson?) = .ok listed ↔
      hub.Lists name listed := by
  unfold HubLink.Lists
  cases hub.listTools name with
  | error error => simp [Except.bind]
  | ok content => simp [Except.bind, GateError.fromHub_eq_ok_iff]

namespace Dispatcher

variable {dispatcher : Dispatcher} {hub : HubLink} {allowed : String → Prop}

/-- What may be loaded: any server by a gateway, the bound one otherwise. -/
theorem listed_eq_ok_iff {server : String} {listed : Hub.Server} :
    dispatcher.listed hub server = .ok listed ↔
      (∀ bound, dispatcher.mode = .single bound → server = bound) ∧ hub.Lists server listed := by
  unfold Dispatcher.listed
  cases dispatcher.mode with
  | gateway => simpa [GateMode.server?] using HubLink.lists_iff
  | single bound =>
      by_cases same : bound = server
      · subst same
        simpa [GateMode.server?] using HubLink.lists_iff
      · simp only [GateMode.server?, same, ↓reduceIte, reduceCtorEq, GateMode.single.injEq,
          forall_eq', false_iff, not_and]
        exact fun back => absurd back.symm same

/-- Every registered tool belongs to an allowed server, and every call went to one. -/
structure Addressed (allowed : String → Prop) (dispatcher : Dispatcher) : Prop where
  entries : dispatcher.registry.All fun _ tool => allowed tool.server
  calls : ∀ call ∈ dispatcher.forwarded, allowed call.server

theorem Addressed.registerServer (addressed : Addressed allowed dispatcher) {server : Hub.Server}
    (named : allowed server.name) : Addressed allowed (dispatcher.registerServer server) := by
  constructor
  · rw [registerServer_registry]
    exact addressed.entries.registerAll fun _ _ => named
  · exact addressed.calls

/-- A call is addressed to the server of a registered tool. -/
theorem Addressed.admitted (addressed : Addressed allowed dispatcher) {next : Step}
    {call : ForwardedCall} (admitted : next.admitted dispatcher.registry = some call) :
    allowed call.server := by
  cases next with
  | call name arguments =>
      rcases admitted_call_eq_some_iff.mp admitted with ⟨tool, output, found, _, rfl⟩
      exact addressed.entries.get? found
  | load _ => cases admitted
  | register _ => cases admitted
  | deregister _ => cases admitted

theorem mode_step (next : Step) : (dispatcher.step hub next).mode = dispatcher.mode := by
  cases next with
  | load server =>
      rcases loadServer_cases dispatcher hub server with
        ⟨listed, _, loaded⟩ | ⟨error, _, failed⟩
      · exact congrArg (fun result => result.1.mode) loaded
      · exact congrArg (fun result => result.1.mode) failed
  | register server => rfl
  | call name arguments =>
      change (dispatcher.call hub name arguments).1.mode = dispatcher.mode
      rw [call_eq]
      split
      · rfl
      · split <;> rfl
  | deregister name => rfl

/-- A step keeps to the allowed servers if what it loads or registers is one of them. -/
theorem Addressed.step (addressed : Addressed allowed dispatcher) {next : Step}
    (loads : ∀ server listed, next = .load server →
      dispatcher.listed hub server = .ok listed → allowed listed.name)
    (registers : ∀ server, next = .register server → allowed server.name) :
    Addressed allowed (dispatcher.step hub next) := by
  have entries : (dispatcher.step hub next).registry.All fun _ tool => allowed tool.server := by
    cases next with
    | load server =>
        change (dispatcher.loadServer hub server).1.registry.All _
        rcases loadServer_cases dispatcher hub server with
          ⟨listed, success, loaded⟩ | ⟨error, _, failed⟩
        · rw [loaded]
          exact (addressed.registerServer (loads server listed rfl success)).entries
        · rw [failed]
          exact addressed.entries
    | register server => exact (addressed.registerServer (registers server rfl)).entries
    | call name arguments =>
        change (dispatcher.call hub name arguments).1.registry.All _
        rw [call_registry]
        exact addressed.entries
    | deregister name => exact addressed.entries.deregisterTool name
  refine ⟨entries, ?_⟩
  intro call member
  rw [forwarded_step, List.mem_append, Option.mem_toList] at member
  rcases member with before | admitted
  · exact addressed.calls call before
  · exact addressed.admitted admitted

/-- A bound dispatcher keeps to the servers that listings of the bound one name. -/
theorem Addressed.run {bound : String} {steps : List (HubLink × Step)}
    (addressed : Addressed allowed dispatcher) (single : dispatcher.mode = .single bound)
    (loads : ∀ hub listed, (hub, .load bound) ∈ steps → hub.Lists bound listed →
      allowed listed.name)
    (registers : ∀ hub server, (hub, .register server) ∈ steps → allowed server.name) :
    Addressed allowed (dispatcher.run steps) := by
  induction steps generalizing dispatcher with
  | nil => exact addressed
  | cons first rest ih =>
      rcases first with ⟨hub, next⟩
      have afterFirst : Addressed allowed (dispatcher.step hub next) := by
        apply addressed.step
        · rintro server listed rfl success
          rcases listed_eq_ok_iff.mp success with ⟨onlyBound, listing⟩
          obtain rfl : server = bound := onlyBound bound single
          exact loads hub listed List.mem_cons_self listing
        · rintro server rfl
          exact registers hub server List.mem_cons_self
      have stillSingle : (dispatcher.step hub next).mode = .single bound :=
        (mode_step next).trans single
      apply ih afterFirst stillSingle
      · exact fun hub listed member => loads hub listed (List.mem_cons_of_mem _ member)
      · exact fun hub server member => registers hub server (List.mem_cons_of_mem _ member)

/--
A dispatcher that is bound to a server, starts without tools and registers
only what it loads addresses every call to a server that the hub named when
the bound one was loaded, and so to the bound one if the hub named no other.
-/
theorem bound_calls_addressed (bound : String) (policy : UnknownKeys)
    (steps : List (HubLink × Step))
    (loadedOnly : ∀ taken ∈ steps, ∀ server, taken.2 ≠ .register server) :
    let start : Dispatcher := { mode := .single bound, registry := { policy } }
    let now := start.run steps
    (∀ call ∈ now.forwarded, ∃ hub listed, (hub, .load bound) ∈ steps ∧
      hub.Lists bound listed ∧ call.server = listed.name) ∧
    ((∀ hub listed, (hub, .load bound) ∈ steps → hub.Lists bound listed →
      listed.name = bound) → ∀ call ∈ now.forwarded, call.server = bound) := by
  intro start now
  -- the names that may occur are those that listings of the bound server give
  let named : String → Prop := fun name =>
    ∃ hub listed, (hub, .load bound) ∈ steps ∧ hub.Lists bound listed ∧ name = listed.name
  have atStart : Addressed named start := by
    constructor
    · intro entry member
      cases member
    · intro call member
      cases member
  have addressed : Addressed named now := by
    apply atStart.run rfl
    · exact fun hub listed member listing => ⟨hub, listed, member, listing, rfl⟩
    · exact fun hub server member => absurd rfl (loadedOnly _ member server)
  constructor
  · exact addressed.calls
  · intro keepsNames call member
    rcases addressed.calls call member with ⟨hub, listed, loaded, listing, same⟩
    exact same.trans (keepsNames hub listed loaded listing)

/-- The listing of a server with one tool, which must be given a message. -/
def messageListing (server tool : String) : Json :=
  .object
    [("id", .string "srv"), ("server", .string server),
      ("tools", .array [.object
        [("name", .string tool), ("description", .string "d"),
          ("input_schema", .object [("message", .object [("type", .string "string")])]),
          ("required_inputs", .array [.string "message"])]])]

/-- A dispatcher that is bound to a server calls it. -/
theorem bound_calls_addressed_echo :
    let hub := HubLink.canned [("echo", messageListing "echo" "say")] none
    let start : Dispatcher := { mode := .single "echo" }
    let now := start.run
      [(hub, .load "echo"), (hub, .call "say" (.object [("message", .string "x")]))]
    now.forwarded.length = 1 ∧ ∀ call ∈ now.forwarded, call.server = "echo" := by
  intro hub start now
  refine ⟨rfl, ?_⟩
  refine (bound_calls_addressed "echo" default
    [(hub, .load "echo"), (hub, .call "say" (.object [("message", .string "x")]))] ?_).2 ?_
  · intro taken member server
    rcases List.mem_pair.mp member with rfl | rfl
    · rintro ⟨⟩
    · rintro ⟨⟩
  · rintro other listed member ⟨content, listing, read⟩
    rcases List.mem_pair.mp member with same | same
    · cases same
      cases listing
      cases read
      rfl
    · cases same

/-- A bound dispatcher calls another server if the hub answers with that one's listing. -/
theorem bound_call_elsewhere :
    let hub := HubLink.canned [("alias", messageListing "echo" "say")] none
    let start : Dispatcher := { mode := .single "alias" }
    let now := start.run
      [(hub, .load "alias"), (hub, .call "say" (.object [("message", .string "x")]))]
    ¬ ∀ call ∈ now.forwarded, call.server = "alias" := by
  intro hub start now allBound
  let call : ForwardedCall := ⟨"echo", "say", .object [("message", .string "x")]⟩
  have forwarded : now.forwarded = [call] := rfl
  have atAlias : call.server = "alias" := by
    apply allBound
    rw [forwarded]
    exact List.mem_singleton_self call
  exact absurd atAlias (by decide)

end Dispatcher

end ToolGate
