import ToolGate.Proofs.Pattern.Search
import ToolGate.Proofs.Pattern.Ways

/-!
# Parts of a program

A program is written part by part.  Places that are not known yet are filled
in when the parts behind them have been written; apart from that nothing
changes that has been written.

Whoever goes through a part to the end of a match comes to the place behind
it, and has gone from one point of the text to another as the part allows.
The slots of the groups tell at which point a configuration stands.  All
other slots belong to one part each, which no other part writes.
-/

namespace ToolGate.Pattern

namespace Machine

/-! ## Drafts -/

namespace Draft

variable {draft before between after : Draft} {instruction : Instruction} {place : Nat}

@[simp] theorem size_add : (draft.add instruction).size = draft.size + 1 :=
  Array.size_push _

@[simp] theorem slots_add : (draft.add instruction).slots = draft.slots := rfl

@[simp] theorem size_set : (draft.set place instruction).size = draft.size := by
  simp [set, size, Array.set!_eq_setIfInBounds]

/-- What has been written before stays. -/
structure Extends (before after : Draft) : Prop where
  /-- Instructions are added. -/
  size : before.size ≤ after.size
  /-- Slots are taken into use. -/
  slots : before.slots ≤ after.slots
  /-- No instruction changes. -/
  keeps : ∀ place < before.size, after.instructions[place]? = before.instructions[place]?

namespace Extends

theorem refl (draft : Draft) : draft.Extends draft :=
  ⟨Nat.le_refl _, Nat.le_refl _, fun _ _ => rfl⟩

theorem trans (first : before.Extends between) (last : between.Extends after) :
    before.Extends after where
  size := first.size.trans last.size
  slots := first.slots.trans last.slots
  keeps place old := (last.keeps place (old.trans_le first.size)).trans (first.keeps place old)

theorem add (extended : before.Extends after) (instruction : Instruction) :
    before.Extends (after.add instruction) where
  size := by
    rw [size_add]
    exact Nat.le_succ_of_le extended.size
  slots := extended.slots
  keeps place old :=
    (getElem?_push_of_lt (old.trans_le extended.size)).trans (extended.keeps place old)

/-- A place behind what was there before is filled in. -/
theorem set (extended : before.Extends after) (behind : before.size ≤ place)
    (instruction : Instruction) : before.Extends (after.set place instruction) where
  size := by
    rw [size_set]
    exact extended.size
  slots := extended.slots
  keeps other old := by
    refine Eq.trans ?_ (extended.keeps other old)
    simp [Draft.set, Array.set!_eq_setIfInBounds,
      Array.getElem?_setIfInBounds_ne (Nat.ne_of_gt (old.trans_le behind))]

end Extends

end Draft

end Machine

namespace Agree

open Machine

variable {draft before after : Draft} {instruction : Instruction} {final : Array Instruction}
  {first last place : Nat}

/-- What has been written is in the final program where nothing has changed since. -/
theorem of_extends (extended : before.Extends after)
    (agree : Agree after.instructions final first last) (old : last ≤ before.size) :
    Agree before.instructions final first last := fun place behind ahead =>
  (agree place behind ahead).trans (extended.keeps place (ahead.trans_le old))

theorem narrow {α : Type} {built final : Array α} {first last inner outer : Nat}
    (agree : Agree built final first last) (above : first ≤ inner) (below : outer ≤ last) :
    Agree built final inner outer := fun place behind ahead =>
  agree place (above.trans behind) (ahead.trans_le below)

/-- An instruction has been added behind what has been written. -/
theorem of_add (agree : Agree (draft.add instruction).instructions final first (draft.size + 1))
    (behind : first ≤ draft.size) :
    Agree draft.instructions final first draft.size ∧ final[draft.size]? = some instruction := by
  refine ⟨?_, (agree draft.size behind (Nat.lt_succ_self _)).trans Array.getElem?_push_size⟩
  exact (agree.narrow (Nat.le_refl _) (Nat.le_succ _)).of_extends
    ((Draft.Extends.refl draft).add instruction) (Nat.le_refl _)

/-- An instruction that has been filled in last. -/
theorem filled (agree : Agree (draft.set place instruction).instructions final first last)
    (behind : first ≤ place) (ahead : place < last) (there : place < draft.size) :
    final[place]? = some instruction := by
  rw [agree place behind ahead]
  simp [Draft.set, Array.set!_eq_setIfInBounds, Array.getElem?_setIfInBounds_self_of_lt there]

/-- Behind an instruction that has been filled in nothing has changed. -/
theorem of_set (agree : Agree (draft.set place instruction).instructions final first last)
    (outside : last ≤ place ∨ place < first) : Agree draft.instructions final first last := by
  intro other behind ahead
  rw [agree other behind ahead]
  have : place ≠ other := by omega
  simp [Draft.set, Array.set!_eq_setIfInBounds, Array.getElem?_setIfInBounds_ne this]

/-- A part has been written behind a place that is filled in afterwards. -/
theorem of_placeholder {placeholder : Instruction}
    (extended : (draft.add placeholder).Extends after)
    (agree : Agree (after.set draft.size instruction).instructions final draft.size after.size) :
    final[draft.size]? = some instruction ∧
      Agree after.instructions final (draft.size + 1) after.size := by
  have there : draft.size < after.size := by
    have := extended.size
    rwa [Draft.size_add] at this
  refine ⟨agree.filled (Nat.le_refl _) there there, ?_⟩
  exact (agree.narrow (Nat.le_succ _) (Nat.le_refl _)).of_set (.inr (Nat.lt_succ_self _))

end Agree

namespace Machine

/-! ## Configurations and points -/

namespace Configuration

variable (c : Configuration) (slot value other : Nat)

@[simp] theorem slots_step : c.step.slots = c.slots := rfl

@[simp] theorem size_slots_write : (c.write slot value).slots.size = c.slots.size := by
  simp [write]

theorem slot?_write :
    (c.write slot value).slot? other =
      if slot = other ∧ slot < c.slots.size then some value else c.slot? other := by
  simp only [slot?, write, Array.getElem?_setIfInBounds]
  by_cases same : slot = other
  · subst same
    by_cases there : slot < c.slots.size <;> simp [there]
  · simp [same]

theorem slot?_write_of_ne {c : Configuration} {slot value other : Nat} (apart : slot ≠ other) :
    (c.write slot value).slot? other = c.slot? other := by
  rw [slot?_write, if_neg fun both => apart both.1]

theorem slot?_write_self {c : Configuration} {slot value : Nat} (there : slot < c.slots.size) :
    (c.write slot value).slot? slot = some value := by
  rw [slot?_write, if_pos ⟨rfl, there⟩]

end Configuration

/-- A text, and the slots of the groups that are referred to, which stand before all others. -/
structure Scene where
  /-- The text. -/
  text : Array Char
  /-- The groups that are referred to. -/
  groups : List Nat
  /-- The first slot that belongs to no group. -/
  base : Nat
  /-- The slots of the groups stand before it. -/
  within : ∀ group ∈ groups, 2 * group + 1 < base

namespace Scene

/-- A configuration stands at a point. -/
structure Stands (scene : Scene) (c : Configuration) (p : Point) : Prop where
  /-- The places in the text agree. -/
  index : c.index = p.index
  /-- The first slots of the groups tell where they have been opened. -/
  opened : ∀ group ∈ scene.groups, c.slot? (2 * group) = p.opened group
  /-- The second slots of the groups tell where they have been closed. -/
  closed : ∀ group ∈ scene.groups, c.slot? (2 * group + 1) = p.closed group

/-- Slots that belong to no group, up to a limit, do not change. -/
structure Spares (scene : Scene) (limit : Nat) (c d : Configuration) : Prop where
  /-- There are as many slots as before. -/
  size : d.slots.size = c.slots.size
  /-- The slots are as before. -/
  slots : ∀ slot, scene.base ≤ slot → slot < limit → d.slot? slot = c.slot? slot

variable {scene : Scene} {c d e : Configuration} {p q : Point} {limit : Nat}

namespace Spares

/-- The slots are the same. -/
theorem of_slots (same : d.slots = c.slots) : scene.Spares limit c d where
  size := congrArg Array.size same
  slots slot _ _ := by rw [Configuration.slot?, Configuration.slot?, same]

theorem refl (scene : Scene) (limit : Nat) (c : Configuration) : scene.Spares limit c c :=
  of_slots rfl

theorem trans (first : scene.Spares limit c d) (last : scene.Spares limit d e) :
    scene.Spares limit c e where
  size := last.size.trans first.size
  slots slot own below := (last.slots slot own below).trans (first.slots slot own below)

theorem mono {less : Nat} (spares : scene.Spares limit c d) (fewer : less ≤ limit) :
    scene.Spares less c d where
  size := spares.size
  slots slot own below := spares.slots slot own (below.trans_le fewer)

theorem goTo (scene : Scene) (limit : Nat) (c : Configuration) (place : Nat) :
    scene.Spares limit c (c.goTo place) :=
  of_slots rfl

theorem step (scene : Scene) (limit : Nat) (c : Configuration) : scene.Spares limit c c.step :=
  of_slots rfl

/-- A slot of a group is written. -/
theorem write (scene : Scene) (limit value : Nat) (c : Configuration) {slot : Nat}
    (group : slot < scene.base) : scene.Spares limit c (c.write slot value) where
  size := c.size_slots_write slot value
  slots _ own _ := Configuration.slot?_write_of_ne (Nat.ne_of_lt (group.trans_le own))

/-- A slot behind the limit is written. -/
theorem write_of_le (scene : Scene) (value : Nat) (c : Configuration) {slot : Nat}
    (behind : limit ≤ slot) : scene.Spares limit c (c.write slot value) where
  size := c.size_slots_write slot value
  slots _ _ below := Configuration.slot?_write_of_ne (Nat.ne_of_gt (below.trans_le behind))

end Spares

namespace Stands

/-- A configuration that differs in its instruction only stands at the same point. -/
theorem of_slots (stands : scene.Stands c p) (index : d.index = c.index)
    (same : d.slots = c.slots) : scene.Stands d p where
  index := index.trans stands.index
  opened group member := by
    rw [← stands.opened group member, Configuration.slot?, same, Configuration.slot?]
  closed group member := by
    rw [← stands.closed group member, Configuration.slot?, same, Configuration.slot?]

theorem goTo (stands : scene.Stands c p) (place : Nat) : scene.Stands (c.goTo place) p :=
  stands.of_slots rfl rfl

theorem step (stands : scene.Stands c p) : scene.Stands c.step p :=
  stands.of_slots rfl rfl

theorem moveTo (stands : scene.Stands c p) (index : Nat) :
    scene.Stands (c.moveTo index) (p.moveTo index) :=
  ⟨rfl, stands.opened, stands.closed⟩

/-- A slot that belongs to no group is written. -/
theorem write (stands : scene.Stands c p) {slot : Nat} (value : Nat) (own : scene.base ≤ slot) :
    scene.Stands (c.write slot value) p where
  index := stands.index
  opened group member := by
    have := scene.within group member
    rw [Configuration.slot?_write_of_ne (by omega), stands.opened group member]
  closed group member := by
    have := scene.within group member
    rw [Configuration.slot?_write_of_ne (by omega), stands.closed group member]

/-- A group is opened. -/
theorem openGroup (stands : scene.Stands c p) {group : Nat} (there : 2 * group < c.slots.size) :
    scene.Stands (c.write (2 * group) c.index) (p.openGroup group) where
  index := stands.index
  opened other member := by
    show _ = Function.update p.opened group (some p.index) other
    by_cases same : other = group
    · subst same
      rw [Configuration.slot?_write_self there, Function.update_self, stands.index]
    · rw [Configuration.slot?_write_of_ne (by omega), Function.update_of_ne same,
        stands.opened other member]
  closed other member := by
    rw [Configuration.slot?_write_of_ne (by omega), stands.closed other member]
    rfl

/-- A group is closed. -/
theorem closeGroup (stands : scene.Stands c p) {group : Nat}
    (there : 2 * group + 1 < c.slots.size) :
    scene.Stands (c.write (2 * group + 1) c.index) (p.closeGroup group) where
  index := stands.index
  opened other member := by
    rw [Configuration.slot?_write_of_ne (by omega), stands.opened other member]
    rfl
  closed other member := by
    show _ = Function.update p.closed group (some p.index) other
    by_cases same : other = group
    · subst same
      rw [Configuration.slot?_write_self there, Function.update_self, stands.index]
    · rw [Configuration.slot?_write_of_ne (by omega), Function.update_of_ne same,
        stands.closed other member]

end Stands

end Scene

/-! ## Sound parts -/

/-- An instruction that is not the end of a match leads to another one. -/
theorem Leads.next {program : Array Instruction} {text : Array Char} {length place : Nat}
    {c : Configuration} {instruction : Instruction} (here : c.place = place)
    (there : program[place]? = some instruction) (onward : instruction ≠ .succeed)
    (way : Leads program text length c) :
    ∃ d left, left < length ∧ Moves text instruction c d ∧ Leads program text left d := by
  subst here
  cases way with
  | succeed ended => exact (onward (Option.some.inj (there.symm.trans ended))).elim
  | move same moves way =>
    cases there.symm.trans same
    exact ⟨_, _, Nat.lt_succ_self _, moves, way⟩

/--
A way comes through the place behind a part, after going from one point of the text to another
as a relation allows.
-/
def Scene.Arrives (scene : Scene) (relation : Point → Point → Prop) (final : Array Instruction)
    (place limit length : Nat) (c : Configuration) (p : Point) : Prop :=
  ∃ d q left, left ≤ length ∧ relation p q ∧ d.place = place ∧ scene.Stands d q ∧
    scene.Spares limit c d ∧ Leads final scene.text left d

/--
What is written for a part leaves what there is as it is, and leads onward only as a relation
allows.
-/
structure Scene.Sound (scene : Scene) (part : Emit) (relation : Point → Point → Prop) : Prop where
  /-- What has been written stays. -/
  grows : ∀ {draft after : Draft}, part draft = some after → draft.Extends after
  /-- A way through the part goes on behind it. -/
  leads : ∀ {draft after : Draft} {final : Array Instruction} {length : Nat} {c : Configuration}
    {p : Point}, part draft = some after → scene.base ≤ draft.slots →
    after.slots ≤ c.slots.size → Agree after.instructions final draft.size after.size →
    c.place = draft.size → scene.Stands c p → Leads final scene.text length c →
      scene.Arrives relation final after.size draft.slots length c p

namespace Scene

variable {scene : Scene} {relation other : Point → Point → Prop} {part rest : Emit}

theorem Arrives.imp {final : Array Instruction} {place limit length : Nat} {c : Configuration}
    {p : Point} (arrives : scene.Arrives relation final place limit length c p)
    (wider : ∀ q, relation p q → other p q) :
    scene.Arrives other final place limit length c p := by
  obtain ⟨d, q, left, shorter, related, rest⟩ := arrives
  exact ⟨d, q, left, shorter, wider q related, rest⟩

theorem Arrives.mono {final : Array Instruction} {place limit less length : Nat}
    {c : Configuration} {p : Point} (fewer : less ≤ limit)
    (arrives : scene.Arrives relation final place limit length c p) :
    scene.Arrives relation final place less length c p := by
  obtain ⟨d, q, left, shorter, related, there, stands, spares, way⟩ := arrives
  exact ⟨d, q, left, shorter, related, there, stands, spares.mono fewer, way⟩

/-- A way that arrives has done so after each step that spares the slots. -/
theorem Arrives.of_step {final : Array Instruction} {place limit length left : Nat}
    {c d : Configuration} {p : Point} (spares : scene.Spares limit c d) (shorter : left ≤ length)
    (arrives : scene.Arrives relation final place limit left d p) :
    scene.Arrives relation final place limit length c p := by
  obtain ⟨e, q, rest, shorterStill, related, there, stands, sparesToo, way⟩ := arrives
  exact ⟨e, q, rest, shorterStill.trans shorter, related, there, stands, spares.trans sparesToo,
    way⟩

namespace Sound

theorem imp (sound : scene.Sound part relation) (wider : ∀ p q, relation p q → other p q) :
    scene.Sound part other where
  grows := sound.grows
  leads written own slots agree place stands way :=
    (sound.leads written own slots agree place stands way).imp (wider _)

/-- Nothing is written for what matches the empty text. -/
theorem skip : scene.Sound some (fun p q => q = p) where
  grows written := by
    cases written
    exact .refl _
  leads written _ _ _ place stands way := by
    cases written
    exact ⟨_, _, _, Nat.le_refl _, rfl, place, stands, .refl _ _ _, way⟩

/-- A part that cannot be written. -/
theorem never : scene.Sound (fun _ => none) relation where
  grows written := by cases written
  leads written := by cases written

theorem seq (first : scene.Sound part relation) (last : scene.Sound rest other) :
    scene.Sound (fun draft => (part draft).bind rest)
      (fun p q => ∃ k, relation p k ∧ other k q) where
  grows written := by
    obtain ⟨between, one, two⟩ := Option.bind_eq_some_iff.mp written
    exact (first.grows one).trans (last.grows two)
  leads {draft after final length c p} written own slots agree place stands way := by
    obtain ⟨between, one, two⟩ := Option.bind_eq_some_iff.mp written
    have earlier := first.grows one
    have later := last.grows two
    obtain ⟨d, k, left, shorter, related, behind, standsThere, spares, onward⟩ :=
      first.leads one own (later.slots.trans slots)
        ((agree.narrow (Nat.le_refl _) later.size).of_extends later (Nat.le_refl _))
        place stands way
    obtain ⟨e, q, rest, shorterStill, relatedToo, behindToo, standsToo, sparesToo, onwardToo⟩ :=
      last.leads two (own.trans earlier.slots) (slots.trans_eq spares.size.symm)
        (agree.narrow earlier.size (Nat.le_refl _)) behind standsThere onward
    exact ⟨e, q, rest, shorterStill.trans shorter, ⟨k, related, relatedToo⟩, behindToo, standsToo,
      spares.trans (sparesToo.mono earlier.slots), onwardToo⟩

/-- A part has been written behind one more instruction. -/
theorem behind (sound : scene.Sound part relation) {draft after : Draft}
    {instruction : Instruction} {final : Array Instruction} {length : Nat} {c : Configuration}
    {p : Point} (written : part (draft.add instruction) = some after)
    (own : scene.base ≤ draft.slots) (slots : after.slots ≤ c.slots.size)
    (agree : Agree after.instructions final (draft.size + 1) after.size)
    (place : c.place = draft.size + 1) (stands : scene.Stands c p)
    (way : Leads final scene.text length c) :
    scene.Arrives relation final after.size draft.slots length c p := by
  have size : (draft.add instruction).size = draft.size + 1 := Draft.size_add
  rw [← size] at agree place
  have arrives := sound.leads written own slots agree place stands way
  exact arrives

theorem ite {p : Prop} [Decidable p] (yes : p → scene.Sound part relation)
    (no : ¬ p → scene.Sound rest relation) :
    scene.Sound (fun draft => if p then part draft else rest draft) relation := by
  by_cases holds : p
  · simpa only [if_pos holds] using yes holds
  · simpa only [if_neg holds] using no holds

/-- One instruction is written, which changes no slots but those of groups. -/
theorem single {instruction : Instruction} (onward : instruction ≠ .succeed)
    (moves : ∀ {c d p}, scene.base ≤ c.slots.size → scene.Stands c p →
      Moves scene.text instruction c d →
        ∃ q, relation p q ∧ d.place = c.place + 1 ∧ scene.Stands d q ∧
          ∀ limit, scene.Spares limit c d) :
    scene.Sound (emit instruction) relation where
  grows written := by
    cases written
    exact (Draft.Extends.refl _).add _
  leads {draft after final length c p} written own slots agree place stands way := by
    cases written
    rw [Draft.size_add] at agree ⊢
    obtain ⟨_, here⟩ := agree.of_add (Nat.le_refl _)
    obtain ⟨d, left, shorter, moved, rest⟩ := way.next place here onward
    obtain ⟨q, related, behind, standsThere, spares⟩ := moves (own.trans slots) stands moved
    have there : d.place = draft.size + 1 := by rw [behind, place]
    exact ⟨d, q, left, shorter.le, related, there, standsThere, spares _, rest⟩

end Sound

end Scene

end Machine

end ToolGate.Pattern
