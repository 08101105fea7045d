import ToolGate.Proofs.Pattern.Drafts

/-!
# Ways to write a program

A part is one instruction, or it is written around other parts: as a loop,
as one of two branches, or as a look at what stands before or behind a
place.  What is written in any of these ways is sound if the parts inside
are.
-/

namespace ToolGate.Pattern.Machine

namespace Draft

/-- Take a slot into use, and further ones behind it, and add an instruction. -/
def withSlots (draft : Draft) (further : Nat) (instruction : Instruction) : Draft :=
  add { draft with slots := draft.slots + 1 + further } instruction

variable (draft : Draft) (further : Nat) (instruction : Instruction)

theorem size_withSlots : (draft.withSlots further instruction).size = draft.size + 1 :=
  size_add

theorem slots_withSlots :
    (draft.withSlots further instruction).slots = draft.slots + 1 + further := rfl

theorem extends_withSlots : draft.Extends (draft.withSlots further instruction) := by
  have wider : draft.Extends { draft with slots := draft.slots + 1 + further } := by
    refine ⟨Nat.le_refl _, ?_, fun _ _ => rfl⟩
    show draft.slots ≤ draft.slots + 1 + further
    omega
  exact wider.add _

end Draft

/-- The instruction that has been added with new slots. -/
theorem getElem?_of_withSlots {draft after : Draft} {further last : Nat}
    {instruction : Instruction} {final : Array Instruction}
    (grows : (draft.withSlots further instruction).Extends after)
    (agree : Agree after.instructions final draft.size last) (behind : draft.size < last) :
    final[draft.size]? = some instruction := by
  have size := draft.size_withSlots further instruction
  rw [agree draft.size (Nat.le_refl _) behind, grows.keeps draft.size (by omega)]
  exact Array.getElem?_push_size

namespace Scene

variable {scene : Scene} {relation other third : Point → Point → Prop} {part rest last : Emit}

/-! ## Single instructions -/

namespace Sound

theorem take (set : CharSet) :
    scene.Sound (emit (.take set)) ((Node.char set).Traverses scene.text) := by
  refine single (by simp) ?_
  rintro c _ p own stands ⟨rfl, seen⟩
  rw [stands.index] at seen ⊢
  exact ⟨_, ⟨rfl, seen⟩, rfl, stands.moveTo _, fun _ => .of_slots rfl⟩

theorem require (anchor : Anchor) :
    scene.Sound (emit (.require anchor)) ((Node.anchor anchor).Traverses scene.text) := by
  refine single (by simp) ?_
  rintro c _ p own stands ⟨rfl, holds⟩
  rw [stands.index] at holds
  exact ⟨p, ⟨rfl, holds⟩, rfl, stands.of_slots rfl rfl, fun _ => .of_slots rfl⟩

/-- A part of the text that no group notices is taken. -/
theorem pass {automaton : Automaton}
    (crosses : ∀ i j, automaton.matchAt scene.text i = some j →
      Crosses scene.groups relation i j) :
    scene.Sound (emit (.pass automaton)) relation := by
  refine single (by simp) ?_
  rintro c _ p own stands ⟨j, found, rfl⟩
  obtain ⟨q, there, related, agree⟩ := crosses _ _ found p stands.index.symm
  refine ⟨q, related, rfl, ⟨there.symm, ?_, ?_⟩, fun _ => .of_slots rfl⟩
  · intro group member
    exact (stands.opened group member).trans (agree.opened group member).symm
  · intro group member
    exact (stands.closed group member).trans (agree.closed group member).symm

theorem goBack (count : Nat) :
    scene.Sound (emit (.goBack count))
      (fun p q => count ≤ p.index ∧ q = p.moveTo (p.index - count)) := by
  refine single (by simp) ?_
  rintro c _ p own stands ⟨far, rfl⟩
  rw [stands.index] at far ⊢
  exact ⟨_, ⟨far, rfl⟩, rfl, stands.moveTo _, fun _ => .of_slots rfl⟩

theorem openGroup {group : Nat} (there : 2 * group < scene.base) :
    scene.Sound (emit (.mark (2 * group))) (fun p q => q = p.openGroup group) := by
  refine single (by simp) ?_
  rintro c _ p own stands rfl
  exact ⟨_, rfl, rfl, (stands.openGroup (there.trans_le own)).of_slots rfl rfl,
    fun limit => (Spares.write scene limit c.index c there).trans (.of_slots rfl)⟩

theorem closeGroup {group : Nat} (there : 2 * group + 1 < scene.base) :
    scene.Sound (emit (.mark (2 * group + 1))) (fun p q => q = p.closeGroup group) := by
  refine single (by simp) ?_
  rintro c _ p own stands rfl
  exact ⟨_, rfl, rfl, (stands.closeGroup (there.trans_le own)).of_slots rfl rfl,
    fun limit => (Spares.write scene limit c.index c there).trans (.of_slots rfl)⟩

theorem repeatGroup {group : Nat} (member : group ∈ scene.groups) :
    scene.Sound (emit (.repeatGroup group))
      ((Node.backreference group).Traverses scene.text) := by
  refine single (by simp) ?_
  rintro c _ p own stands ⟨first, last, opened, closed, again, rfl⟩
  rw [stands.index] at again ⊢
  rw [stands.opened group member] at opened
  rw [stands.closed group member] at closed
  exact ⟨_, ⟨first, last, opened, closed, again, rfl⟩, rfl, stands.moveTo _,
    fun _ => .of_slots rfl⟩

theorem requireGroup {group : Nat} (member : group ∈ scene.groups) :
    scene.Sound (emit (.requireGroup group))
      ((Node.groupMatched group).Traverses scene.text) := by
  refine single (by simp) ?_
  rintro c _ p own stands ⟨rfl, matched⟩
  rw [stands.opened group member] at matched
  exact ⟨p, ⟨rfl, matched⟩, rfl, stands.of_slots rfl rfl, fun _ => .of_slots rfl⟩

theorem requireSearchStart :
    scene.Sound (emit .requireSearchStart) (Node.searchStart.Traverses scene.text) := by
  refine single (by simp) ?_
  rintro c _ p own stands ⟨rfl, atStart⟩
  rw [stands.index] at atStart
  exact ⟨p, ⟨rfl, atStart⟩, rfl, stands.of_slots rfl rfl, fun _ => .of_slots rfl⟩

theorem beginAtomic : scene.Sound (emit .beginAtomic) (fun p q => q = p) := by
  refine single (by simp) ?_
  rintro c _ p own stands ⟨atomics, rfl⟩
  exact ⟨p, rfl, rfl, stands.of_slots rfl rfl, fun _ => .of_slots rfl⟩

theorem endAtomic : scene.Sound (emit .endAtomic) (fun p q => q = p) := by
  refine single (by simp) ?_
  rintro c _ p own stands ⟨atomics, rfl⟩
  exact ⟨p, rfl, rfl, stands.of_slots rfl rfl, fun _ => .of_slots rfl⟩

/-- Regular nodes are matched in one pass. -/
theorem regular {nodes : List Node} (regular : Node.allRegular scene.groups nodes = true) :
    scene.Sound (emitRegular nodes) (PartsTraverse scene.text nodes) := by
  unfold emitRegular
  split
  · exact skip
  · rename_i set
    refine (take set).imp fun p q matched => ⟨q, matched, rfl⟩
  · cases made : Automaton.ofNode? (.concat nodes) with
    | none => exact never
    | some automaton =>
      exact pass fun i j found => Automaton.crosses_of_matchAt
        (show (Node.concat nodes).isRegular scene.groups = true from regular) made found

end Sound

/-! ## Choices and loops -/

theorem moves_choice {text : Array Char} {greedy : Bool} {inner outer : Nat}
    {c d : Configuration} (moves : Moves text (choice greedy inner outer) c d) :
    d = c.goTo inner ∨ d = c.goTo outer := by
  cases greedy with
  | true => exact moves
  | false => exact moves.symm

theorem choice_ne_succeed {greedy : Bool} {inner outer : Nat} :
    choice greedy inner outer ≠ .succeed := by
  cases greedy <;> simp [choice]

namespace Sound

theorem optional (sound : scene.Sound part relation) (greedy : Bool) :
    scene.Sound (emitOptional greedy part) (fun p q => relation p q ∨ q = p) where
  grows {draft after} written := by
    obtain ⟨later, one, rest⟩ := Option.bind_eq_some_iff.mp written
    cases rest
    exact (((Draft.Extends.refl draft).add .succeed).trans (sound.grows one)).set (Nat.le_refl _) _
  leads {draft after final length c p} written own slots agree place stands way := by
    obtain ⟨later, one, rest⟩ := Option.bind_eq_some_iff.mp written
    cases rest
    rw [Draft.size_set] at agree ⊢
    obtain ⟨here, inside⟩ := agree.of_placeholder (sound.grows one)
    obtain ⟨d, left, shorter, moved, onward⟩ := way.next place here choice_ne_succeed
    rcases moves_choice moved with rfl | rfl
    · have stands := stands.goTo (draft.size + 1)
      have arrives := sound.behind one own (by exact slots) inside rfl stands onward
      exact (arrives.of_step (.goTo ..) shorter.le).imp fun _ => .inl
    · exact ⟨_, p, left, shorter.le, .inr rfl, rfl, stands.goTo _, .goTo .., onward⟩

end Sound

/-- Write a loop, the first instruction of which enters the part or leaves the loop. -/
def emitLoop (part : Emit) (turn : (place leave : Nat) → Instruction) : Emit := fun draft =>
  (part (draft.add .succeed)).bind fun later =>
    let closed := later.add (.jump draft.size)
    some (closed.set draft.size (turn draft.size closed.size))

/--
An instruction enters a part once more, after it has been entered a number of times, or goes on
behind the loop.
-/
def Turns (scene : Scene) (instruction : Instruction) (place leave limit least : Nat)
    (most : Option Nat) (counted : Nat → Configuration → Prop) : Prop :=
  ∀ {c d : Configuration} {p : Point} {count : Nat}, c.place = place → scene.Stands c p →
    counted count c → Moves scene.text instruction c d →
      scene.Stands d p ∧ scene.Spares limit c d ∧
        (d.place = leave ∧ (least ≤ count ∨ most = some count) ∨
          d.place = place + 1 ∧ most ≠ some count ∧ counted (count + 1) d)

/-- A relation holds as often as a loop allows, after a number of times. -/
def Repeats (relation : Point → Point → Prop) (least : Nat) (most : Option Nat) (before : Nat)
    (p q : Point) : Prop :=
  ∃ count, (least ≤ before + count ∨ most = some (before + count)) ∧
    (∀ bound ∈ most, before + count ≤ bound) ∧ Times relation count p q

section Loop

variable {turn : (place leave : Nat) → Instruction} {draft after later : Draft}
  {final : Array Instruction} {counted : Nat → Configuration → Prop} {limit least : Nat}
  {most : Option Nat} {instruction : Instruction}

theorem emitLoop_grows (sound : scene.Sound part relation)
    (written : emitLoop part turn draft = some after) : draft.Extends after := by
  obtain ⟨later, one, rest⟩ := Option.bind_eq_some_iff.mp written
  cases rest
  exact ((((Draft.Extends.refl draft).add .succeed).trans (sound.grows one)).add _).set
    (Nat.le_refl _) _

/-- The instructions of a loop around what has been written for a part. -/
theorem Agree.of_loop (grows : (draft.add .succeed).Extends later)
    (agree : Agree ((later.add (.jump draft.size)).set draft.size instruction).instructions final
      draft.size (later.size + 1)) :
    final[draft.size]? = some instruction ∧
      Agree later.instructions final (draft.size + 1) later.size ∧
      final[later.size]? = some (.jump draft.size) := by
  have size : (later.add (.jump draft.size)).size = later.size + 1 := Draft.size_add
  rw [← size] at agree
  obtain ⟨here, inside⟩ := agree.of_placeholder (grows.add _)
  rw [size] at inside
  have there : draft.size + 1 ≤ later.size := by
    rw [← Draft.size_add]
    exact grows.size
  exact ⟨here, inside.of_add there⟩

/-- The way goes round and round until the loop is left; the induction is on its length. -/
theorem rounds (sound : scene.Sound part relation) (one : part (draft.add .succeed) = some later)
    (own : scene.base ≤ draft.slots) (few : limit ≤ draft.slots)
    (here : final[draft.size]? = some instruction) (goesOn : instruction ≠ .succeed)
    (body : Agree later.instructions final (draft.size + 1) later.size)
    (back : final[later.size]? = some (.jump draft.size))
    (turns : scene.Turns instruction draft.size (later.size + 1) limit least most counted)
    (kept : ∀ count c d, scene.Spares draft.slots c d → counted count c → counted count d)
    {length : Nat} {c : Configuration} {p : Point} {count : Nat} (place : c.place = draft.size)
    (stands : scene.Stands c p) (slots : later.slots ≤ c.slots.size) (before : counted count c)
    (within : ∀ bound ∈ most, count ≤ bound) (way : Leads final scene.text length c) :
    scene.Arrives (Repeats relation least most count) final (later.size + 1) limit length c p := by
  induction length using Nat.strong_induction_on generalizing c p count with
  | _ length ih =>
    obtain ⟨d, left, shorter, moved, onward⟩ := way.next place here goesOn
    obtain ⟨standsNow, spares, ⟨there, enough⟩ | ⟨there, more, entered⟩⟩ :=
      turns place stands before moved
    · refine ⟨d, p, left, shorter.le, ⟨0, ?_, ?_, rfl⟩, there, standsNow, spares, onward⟩
      · exact enough
      · exact within
    · obtain ⟨e, k, rest, shorterStill, related, behind, standsThen, sparesThen, onward⟩ :=
        sound.behind one own (by rwa [spares.size]) body there standsNow onward
      obtain ⟨f, last, shortest, moved, onward⟩ := onward.next behind back (by simp)
      obtain rfl : f = e.goTo draft.size := moved
      have counted : counted (count + 1) (e.goTo draft.size) :=
        kept _ _ _ (sparesThen.trans (.goTo ..)) entered
      have within : ∀ bound ∈ most, count + 1 ≤ bound := by
        intro bound member
        have : count ≠ bound := fun same => more (same ▸ member)
        have := within bound member
        omega
      have slots : later.slots ≤ (e.goTo draft.size).slots.size :=
        slots.trans_eq (sparesThen.size.trans spares.size).symm
      obtain ⟨g, q, remaining, less, ⟨times, enough, bounded, others⟩, there, standsLast,
        sparesLast, onward⟩ :=
          ih last (by omega) rfl (standsThen.goTo _) slots counted within onward
      have sum : count + 1 + times = count + (times + 1) := by omega
      rw [sum] at enough bounded
      exact ⟨g, q, remaining, by omega, ⟨times + 1, enough, bounded, k, related, others⟩, there,
        standsLast, (spares.trans (sparesThen.mono few)).trans ((Spares.goTo ..).trans sparesLast),
        onward⟩

/-- A way through a loop enters the part as often as the loop allows. -/
theorem arrives_of_loop (sound : scene.Sound part relation)
    (written : emitLoop part turn draft = some after) (own : scene.base ≤ draft.slots)
    (few : limit ≤ draft.slots) (goesOn : ∀ place leave, turn place leave ≠ .succeed)
    (turns : ∀ leave, scene.Turns (turn draft.size leave) draft.size leave limit least most counted)
    (kept : ∀ count c d, scene.Spares draft.slots c d → counted count c → counted count d)
    {length : Nat} {c : Configuration} {p : Point} (slots : after.slots ≤ c.slots.size)
    (agree : Agree after.instructions final draft.size after.size) (place : c.place = draft.size)
    (stands : scene.Stands c p) (before : counted 0 c) (way : Leads final scene.text length c) :
    scene.Arrives (Repeats relation least most 0) final after.size limit length c p := by
  obtain ⟨later, one, rest⟩ := Option.bind_eq_some_iff.mp written
  cases rest
  rw [Draft.size_set, Draft.size_add] at agree ⊢
  obtain ⟨here, body, back⟩ := Agree.of_loop (sound.grows one) agree
  exact rounds sound one own few here (goesOn _ _) body back (turns _) kept place stands slots
    before (fun _ _ => Nat.zero_le _) way

end Loop

namespace Sound

/-- A loop that does not count. -/
theorem star (sound : scene.Sound part relation) (greedy : Bool) :
    scene.Sound (emitStar greedy part) (Repeats relation 0 none 0) where
  grows {draft after} written :=
    emitLoop_grows sound
      (show emitLoop part (fun place leave => choice greedy (place + 1) leave) draft = some after
        from written)
  leads {draft after final length c p} written own slots agree place stands way := by
    have turns : ∀ leave, scene.Turns (choice greedy (draft.size + 1) leave) draft.size leave
        draft.slots 0 none (fun _ _ => True) := by
      intro leave c d p count place stands _ moved
      rcases moves_choice moved with rfl | rfl
      · exact ⟨stands.goTo _, .goTo .., .inr ⟨rfl, by simp, trivial⟩⟩
      · exact ⟨stands.goTo _, .goTo .., .inl ⟨rfl, .inl (Nat.zero_le _)⟩⟩
    exact arrives_of_loop sound
      (show emitLoop part (fun place leave => choice greedy (place + 1) leave) draft = some after
        from written) own (Nat.le_refl _) (fun _ _ => choice_ne_succeed) turns
      (fun _ _ _ _ _ => trivial) slots agree place stands trivial way

theorem plus (sound : scene.Sound part relation) (greedy : Bool) :
    scene.Sound (emitPlus greedy part) (Repeats relation 1 none 0) where
  grows {draft after} written := by
    obtain ⟨later, one, rest⟩ := Option.bind_eq_some_iff.mp written
    cases rest
    exact (sound.grows one).add _
  leads {draft after final length c p} written own slots agree place stands way := by
    obtain ⟨later, one, rest⟩ := Option.bind_eq_some_iff.mp written
    cases rest
    have grows := sound.grows one
    rw [Draft.size_add] at agree ⊢
    obtain ⟨body, here⟩ := agree.of_add grows.size
    induction length using Nat.strong_induction_on generalizing c p with
    | _ length ih =>
      obtain ⟨d, k, left, shorter, related, there, standsThere, spares, onward⟩ :=
        sound.leads one own slots body place stands way
      obtain ⟨e, rest, shorterStill, moved, onward⟩ := onward.next there here choice_ne_succeed
      rcases moves_choice moved with rfl | rfl
      · obtain ⟨f, q, last, shortest, ⟨count, enough, bounded, others⟩, behind, standsLast,
          sparesLast, onward⟩ := ih rest (by omega) rfl
            (standsThere.goTo draft.size) onward (slots.trans_eq spares.size.symm)
        refine ⟨f, q, last, by omega, ⟨count + 1, ?_, by simp, k, related, others⟩, behind,
          standsLast, (spares.trans (.goTo ..)).trans sparesLast, onward⟩
        exact .inl (by omega)
      · exact ⟨_, k, rest, by omega, ⟨1, .inl (Nat.le_refl _), by simp, k, related, rfl⟩, rfl,
          standsThere.goTo _, spares.trans (.goTo ..), onward⟩

end Sound

/-- A slot holds a number. -/
structure Holds (slot count : Nat) (c : Configuration) : Prop where
  /-- The slot is there. -/
  there : slot < c.slots.size
  /-- The number is in it. -/
  holds : c.slot? slot = some count

section Counter

variable {c d : Configuration} {p : Point} {place leave slot least count : Nat}
  {most : Option Nat}

theorem Holds.of_spares {limit : Nat} (held : Holds slot count c) (spares : scene.Spares limit c d)
    (own : scene.base ≤ slot) (below : slot < limit) : Holds slot count d where
  there := held.there.trans_eq spares.size.symm
  holds := (spares.slots slot own below).trans held.holds

/-- A part is entered or left after its counter has been raised. -/
theorem turn_of_entersLoop {counted : Configuration}
    (enters : EntersLoop least count leave counted d) (there : counted.place = place)
    (stands : scene.Stands counted p) (spares : scene.Spares slot c counted)
    (held : Holds slot (count + 1) counted) (more : most ≠ some count) :
    scene.Stands d p ∧ scene.Spares slot c d ∧
      (d.place = leave ∧ (least ≤ count ∨ most = some count) ∨
        d.place = place + 1 ∧ most ≠ some count ∧ Holds slot (count + 1) d) := by
  rcases enters with rfl | ⟨enough, rfl⟩
  · exact ⟨stands.step, spares.trans (.step ..),
      .inr ⟨congrArg (· + 1) there, more, held.there, held.holds⟩⟩
  · exact ⟨stands.goTo _, spares.trans (.goTo ..), .inl ⟨rfl, .inl enough⟩⟩

theorem turns_count (own : scene.base ≤ slot) (greedy : Bool) :
    scene.Turns (.count greedy least most leave slot) place leave slot least most (Holds slot) := by
  intro c d p count there stands held moved
  rw [Moves, held.holds] at moved
  rcases moved with ⟨full, rfl⟩ | ⟨more, enters⟩
  · exact ⟨stands.goTo _, .goTo .., .inl ⟨rfl, .inr full⟩⟩
  · refine turn_of_entersLoop enters there (stands.write _ own) (.write_of_le _ _ _ (Nat.le_refl _))
      ⟨?_, Configuration.slot?_write_self held.there⟩ more
    rw [Configuration.size_slots_write]
    exact held.there

theorem turns_countAdvancing (own : scene.base ≤ slot) (greedy : Bool) :
    scene.Turns (.countAdvancing greedy least leave slot (slot + 1)) place leave slot least none
      (Holds slot) := by
  intro c d p count there stands held moved
  rw [Moves, held.holds] at moved
  have counted : Holds slot (count + 1) (c.write slot (count + 1)) :=
    ⟨by rw [Configuration.size_slots_write]; exact held.there,
      Configuration.slot?_write_self held.there⟩
  have spares : scene.Spares slot c (c.write slot (count + 1)) :=
    .write_of_le _ _ _ (Nat.le_refl _)
  simp only [Option.getD_some] at moved
  split at moved
  · refine turn_of_entersLoop moved there ((stands.write _ own).write _ (Nat.le_succ_of_le own))
      (spares.trans (.write_of_le _ _ _ (Nat.le_succ _))) ⟨?_, ?_⟩ (by simp)
    · rw [Configuration.size_slots_write]
      exact counted.there
    · rw [Configuration.slot?_write_of_ne (Nat.succ_ne_self _)]
      exact counted.holds
  · exact turn_of_entersLoop moved there (stands.write _ own) spares counted (by simp)

end Counter

namespace Sound

/-- A loop that counts in a slot of its own. -/
theorem counted {least : Nat} {most : Option Nat} (sound : scene.Sound part relation)
    (further : Nat) (enter : (leave slot : Nat) → Instruction)
    (goesOn : ∀ leave slot, enter leave slot ≠ .succeed)
    (turns : ∀ {place leave slot}, scene.base ≤ slot →
      scene.Turns (enter leave slot) place leave slot least most (Holds slot)) :
    scene.Sound
      (fun draft => emitLoop part (fun _ leave => enter leave draft.slots)
        (draft.withSlots further (.clear draft.slots)))
      (Repeats relation least most 0) where
  grows {draft after} written := (draft.extends_withSlots further _).trans
    (emitLoop_grows sound written)
  leads {draft after final length c p} written own slots agree place stands way := by
    have grows := emitLoop_grows sound written
    have size := draft.size_withSlots further (.clear draft.slots)
    have used := draft.slots_withSlots further (.clear draft.slots)
    have here := getElem?_of_withSlots grows agree (by have := grows.size; omega)
    obtain ⟨d, left, shorter, rfl, onward⟩ := way.next place here (by simp)
    have there : draft.slots < c.slots.size := by
      have := grows.slots
      omega
    have cleared : Holds draft.slots 0 (c.write draft.slots 0).step :=
      ⟨by simpa using there, Configuration.slot?_write_self there⟩
    have arrives := arrives_of_loop sound written (by omega) (by omega) (fun _ _ => goesOn _ _)
      (fun leave => turns own) (fun count _ _ spares held => held.of_spares spares own (by omega))
      (by simpa using slots) (agree.narrow (by omega) (Nat.le_refl _))
      (c := (c.write draft.slots 0).step) (by rw [size, ← place]; rfl)
      (stands.write 0 own).step cleared onward
    exact arrives.of_step ((Spares.write_of_le _ _ _ (Nat.le_refl _)).trans (.step ..)) shorter.le

theorem repetition {least : Nat} {most : Option Nat} (sound : scene.Sound part relation)
    (greedy mayBeEmpty : Bool) :
    scene.Sound (emitRepetition least most greedy mayBeEmpty part)
      (Repeats relation least most 0) := by
  have count : ∀ most, scene.Sound
      (fun draft => emitLoop part (fun _ leave => .count greedy least most leave draft.slots)
        (draft.withSlots 0 (.clear draft.slots))) (Repeats relation least most 0) := fun most =>
    sound.counted 0 (fun leave slot => .count greedy least most leave slot) (by simp)
      fun own => turns_count own greedy
  cases most with
  | some most => exact count (some most)
  | none =>
    refine ite (fun _ => ?_) fun _ => ite ?_ fun _ => ite ?_ fun _ => count none
    · exact sound.counted 1 (fun leave slot => .countAdvancing greedy least leave slot (slot + 1))
        (by simp) fun own => turns_countAdvancing own greedy
    · rintro rfl
      exact sound.star greedy
    · rintro rfl
      exact sound.plus greedy

end Sound

/-! ## Looking around -/

/-- Where looking around begins: the place itself, or one before it by the length of a node. -/
def LooksFrom (behind : Bool) (node : Node) (p k : Point) : Prop :=
  if behind then node.hasFixedLength = true ∧ node.leastLength ≤ p.index ∧
    k = p.moveTo (p.index - node.leastLength)
  else k = p

namespace Sound

theorem looksFrom (behind : Bool) (node : Node) :
    scene.Sound (emitGoBack behind node) (LooksFrom behind node) := by
  cases behind with
  | false => exact skip
  | true =>
    cases fixed : node.hasFixedLength with
    | false =>
      have nothing : emitGoBack true node = fun _ => none := by
        funext draft
        simp [emitGoBack, fixed]
      rw [nothing]
      exact never
    | true =>
      have written : emitGoBack true node = emit (.goBack node.leastLength) := by
        funext draft
        simp [emitGoBack, fixed, emit]
      rw [written]
      exact (goBack node.leastLength).imp fun p k back => ⟨fixed, back⟩

/-- A part is matched, and the way goes on where it was before. -/
theorem comeBack (sound : scene.Sound part relation) :
    scene.Sound
      (fun draft => (part (draft.withSlots 0 (.mark draft.slots))).bind fun later =>
        some (later.add (.restore draft.slots)))
      (fun p q => ∃ k, relation p k ∧ q = k.moveTo p.index) where
  grows {draft after} written := by
    obtain ⟨later, one, rest⟩ := Option.bind_eq_some_iff.mp written
    cases rest
    exact ((draft.extends_withSlots 0 _).trans (sound.grows one)).add _
  leads {draft after final length c p} written own slots agree place stands way := by
    obtain ⟨later, one, rest⟩ := Option.bind_eq_some_iff.mp written
    cases rest
    have grows := sound.grows one
    have size := draft.size_withSlots 0 (.mark draft.slots)
    have used := draft.slots_withSlots 0 (.mark draft.slots)
    rw [Draft.size_add] at agree ⊢
    have more : draft.size < later.size := by
      have := grows.size
      omega
    obtain ⟨inside, back⟩ := agree.of_add more.le
    have here := getElem?_of_withSlots grows inside more
    obtain ⟨d, left, shorter, rfl, onward⟩ := way.next place here (by simp)
    have there : draft.slots < c.slots.size := by
      have := grows.slots
      simp only [Draft.slots_add] at slots
      omega
    obtain ⟨e, k, rest, shorterStill, related, behind, standsThere, spares, onward⟩ :=
      sound.leads (c := (c.write draft.slots c.index).step) one (by omega) (by simpa using slots)
        (inside.narrow (by omega) (Nat.le_refl _)) (by rw [size, ← place]; rfl)
        (stands.write _ own).step onward
    obtain ⟨f, last, shortest, moved, onward⟩ := onward.next behind back (by simp)
    have marked : e.slot? draft.slots = some c.index := by
      rw [spares.slots draft.slots own (by omega)]
      exact Configuration.slot?_write_self there
    rw [Moves, marked, Option.getD_some, stands.index] at moved
    cases moved
    refine ⟨_, _, last, by omega, ⟨k, related, rfl⟩, congrArg (· + 1) behind,
      standsThere.moveTo _, ?_, onward⟩
    exact (((Spares.write_of_le _ _ _ (Nat.le_refl _)).trans (.step ..)).trans
      (spares.mono (by omega))).trans (.of_slots rfl)

/-- What is seen when looking around is left behind. -/
theorem look (behind : Bool) (node : Node) (sound : scene.Sound part relation) :
    scene.Sound (emitLook behind node part)
      (fun p q => ∃ l, (∃ k, LooksFrom behind node p k ∧ relation k l) ∧ q = l.moveTo p.index) := by
  have written : emitLook behind node part = fun draft =>
      ((emitGoBack behind node (draft.withSlots 0 (.mark draft.slots))).bind part).bind
        fun later => some (later.add (.restore draft.slots)) := by
    funext draft
    rw [Option.bind_assoc]
    rfl
  rw [written]
  exact ((looksFrom behind node).seq sound).comeBack

/-- A part that leads nowhere, or the way goes on behind it. -/
theorem goPast (sound : scene.Sound part relation) :
    scene.Sound
      (fun draft => (part (draft.add .succeed)).bind fun later =>
        let closed := later.add .failLook
        some (closed.set draft.size (.split (draft.size + 1) closed.size)))
      (fun p q => q = p) where
  grows {draft after} written := by
    obtain ⟨later, one, rest⟩ := Option.bind_eq_some_iff.mp written
    cases rest
    exact ((((Draft.Extends.refl draft).add .succeed).trans (sound.grows one)).add _).set
      (Nat.le_refl _) _
  leads {draft after final length c p} written own slots agree place stands way := by
    obtain ⟨later, one, rest⟩ := Option.bind_eq_some_iff.mp written
    cases rest
    have grows := sound.grows one
    have size : (later.add .failLook).size = later.size + 1 := Draft.size_add
    simp only [Draft.size_set] at agree ⊢
    obtain ⟨here, inside⟩ := agree.of_placeholder (grows.add _)
    rw [size] at inside here
    have there : draft.size + 1 ≤ later.size := by
      rw [← Draft.size_add]
      exact grows.size
    obtain ⟨body, dead⟩ := inside.of_add there
    obtain ⟨d, left, shorter, rfl | rfl, onward⟩ := way.next place here (by simp)
    · obtain ⟨e, k, rest, _, _, behind, _, _, onward⟩ :=
        sound.behind (c := c.goTo (draft.size + 1)) one own slots body rfl (stands.goTo _) onward
      obtain ⟨_, _, _, nowhere, _⟩ := onward.next behind dead (by simp)
      exact nowhere.elim
    · rw [size]
      exact ⟨_, p, left, shorter.le, rfl, rfl, stands.goTo _, .goTo .., onward⟩

/-- A look that must not see anything leads on where it was. -/
theorem negatedLook (behind : Bool) (node : Node) (sound : scene.Sound part relation) :
    scene.Sound (emitNegatedLook behind node part) (fun p q => q = p) := by
  have written : emitNegatedLook behind node part = fun draft =>
      ((emitGoBack behind node (draft.add .succeed)).bind part).bind fun later =>
        let closed := later.add .failLook
        some (closed.set draft.size (.split (draft.size + 1) closed.size)) := by
    funext draft
    rw [Option.bind_assoc]
    rfl
  rw [written]
  exact ((looksFrom behind node).seq sound).goPast

end Sound

/-! ## Branches -/

namespace Sound

/-- One of two parts is matched. -/
theorem branch (first : scene.Sound part relation) (second : scene.Sound rest other) :
    scene.Sound (emitBranch part rest) (fun p q => relation p q ∨ other p q) where
  grows {draft after} written := by
    obtain ⟨later, one, more⟩ := Option.bind_eq_some_iff.mp written
    obtain ⟨last, two, more⟩ := Option.bind_eq_some_iff.mp more
    cases more
    have grows := ((Draft.Extends.refl draft).add .succeed).trans (first.grows one)
    have filled := (grows.add .succeed).set (Nat.le_refl _)
      (.split (draft.size + 1) (later.add .succeed).size)
    exact (filled.trans (second.grows two)).set grows.size _
  leads {draft after final length c p} written own slots agree place stands way := by
    obtain ⟨later, one, more⟩ := Option.bind_eq_some_iff.mp written
    obtain ⟨last, two, more⟩ := Option.bind_eq_some_iff.mp more
    cases more
    have grows := first.grows one
    have growsToo := second.grows two
    have size : (later.add .succeed).size = later.size + 1 := Draft.size_add
    have more : draft.size < later.size := by
      have := grows.size
      rwa [Draft.size_add] at this
    have most : later.size < last.size := by
      have := growsToo.size
      rw [Draft.size_set, size] at this
      omega
    simp only [Draft.size_set] at agree ⊢
    have jump : final[later.size]? = some (.jump last.size) :=
      agree.filled more.le most most
    have body : Agree last.instructions final (later.size + 1) last.size :=
      (agree.narrow (by omega) (Nat.le_refl _)).of_set (.inr (Nat.lt_succ_self _))
    have before : Agree ((later.add .succeed).set draft.size
        (.split (draft.size + 1) (later.add .succeed).size)).instructions final draft.size
        later.size := by
      refine ((agree.narrow (Nat.le_refl _) most.le).of_set (.inl (Nat.le_refl _))).of_extends
        growsToo ?_
      rw [Draft.size_set, size]
      exact Nat.le_succ _
    have here : final[draft.size]? =
        some (.split (draft.size + 1) (later.add .succeed).size) :=
      before.filled (Nat.le_refl _) more (by omega)
    have inside : Agree later.instructions final (draft.size + 1) later.size := by
      refine Agree.of_extends ((Draft.Extends.refl later).add .succeed) ?_ (Nat.le_refl _)
      exact (before.narrow (Nat.le_succ _) (Nat.le_refl _)).of_set (.inr (Nat.lt_succ_self _))
    obtain ⟨d, left, shorter, rfl | rfl, onward⟩ := way.next place here (by simp)
    · obtain ⟨e, q, rest, shorterStill, related, behind, standsThere, spares, onward⟩ :=
        first.behind (c := c.goTo (draft.size + 1)) one own (growsToo.slots.trans slots) inside rfl
          (stands.goTo _) onward
      obtain ⟨f, remaining, shortest, rfl, onward⟩ := onward.next behind jump (by simp)
      exact ⟨_, q, remaining, by omega, .inl related, rfl, standsThere.goTo _,
        ((Spares.goTo ..).trans spares).trans (.goTo ..), onward⟩
    · have arrives := second.leads (c := c.goTo (later.add .succeed).size) two
        (own.trans grows.slots) slots (by rwa [Draft.size_set, size]) (by rw [Draft.size_set]; rfl)
        (stands.goTo _) onward
      exact ((arrives.mono grows.slots).of_step (.goTo ..) shorter.le).imp fun _ => .inr

theorem conditional {condition yes no : Emit} (first : scene.Sound condition relation)
    (second : scene.Sound yes other) (otherwise : scene.Sound no third) :
    scene.Sound (emitConditional condition yes no)
      (fun p q => (∃ k, relation p k ∧ other k q) ∨ third p q) := by
  have written : emitConditional condition yes no = fun draft =>
      (emit .beginAtomic draft).bind
        (emitBranch (fun draft => (condition draft).bind fun draft =>
          (emit .endAtomic draft).bind yes) no) := by
    funext draft
    simp only [emitConditional, emitBranch, emit, Option.bind_eq_bind, Option.bind_some,
      Option.bind_assoc, Draft.size_add]
  rw [written]
  refine (beginAtomic.seq ((first.seq (endAtomic.seq second)).branch otherwise)).imp ?_
  rintro p q ⟨_, rfl, ⟨k, matched, _, rfl, matchedToo⟩ | matched⟩
  · exact .inl ⟨_, matched, matchedToo⟩
  · exact .inr matched

end Sound

end Scene

end ToolGate.Pattern.Machine
