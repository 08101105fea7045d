import Mathlib.Order.Nat
import ToolGate.Proofs.Pattern.Meaning

/-!
# What a regular node matches

A regular node matches parts of a text, each from one place to another.  The
automaton that is built for a node leads to the end of a match only along
such parts: whoever goes from the entry of what was built to the accepting
place comes through the place behind it, and has matched the node on the
way.
-/

namespace ToolGate.Pattern

/-- The places from one on and before another are as they were when they were built. -/
def Agree {α : Type} (built final : Array α) (first last : Nat) : Prop :=
  ∀ place, first ≤ place → place < last → final[place]? = built[place]?

theorem getElem?_push_of_lt {α : Type} {built : Array α} {next : α} {place : Nat}
    (old : place < built.size) : (built.push next)[place]? = built[place]? := by
  rw [Array.getElem?_push, if_neg (Nat.ne_of_lt old)]

/-! ## Parts of a text -/

/-- Two points of a match agree in what some groups have matched. -/
structure Point.Agree (groups : List Nat) (p q : Point) : Prop where
  /-- The groups have been opened at the same places. -/
  opened : ∀ group ∈ groups, q.opened group = p.opened group
  /-- The groups have been closed at the same places. -/
  closed : ∀ group ∈ groups, q.closed group = p.closed group

theorem Point.Agree.refl (groups : List Nat) (p : Point) : p.Agree groups p :=
  ⟨fun _ _ => rfl, fun _ _ => rfl⟩

theorem Point.Agree.trans {groups : List Nat} {p k q : Point} (first : p.Agree groups k)
    (last : k.Agree groups q) : p.Agree groups q where
  opened group member := (last.opened group member).trans (first.opened group member)
  closed group member := (last.closed group member).trans (first.closed group member)

/--
Whatever has been matched before, a relation leads from one place to another, and some groups
do not notice.
-/
def Crosses (groups : List Nat) (relation : Point → Point → Prop) (i j : Nat) : Prop :=
  ∀ p : Point, p.index = i → ∃ q : Point, q.index = j ∧ relation p q ∧ p.Agree groups q

namespace Crosses

variable {groups : List Nat} {relation other : Point → Point → Prop} {i k j : Nat}

theorem imp (crosses : Crosses groups relation i j) (wider : ∀ p q, relation p q → other p q) :
    Crosses groups other i j := by
  intro p here
  obtain ⟨q, there, related, agree⟩ := crosses p here
  exact ⟨q, there, wider p q related, agree⟩

theorem refl (i : Nat) : Crosses groups (fun p q => q = p) i i :=
  fun p here => ⟨p, here, rfl, .refl groups p⟩

theorem trans (first : Crosses groups relation i k) (last : Crosses groups other k j) :
    Crosses groups (fun p q => ∃ k, relation p k ∧ other k q) i j := by
  intro p here
  obtain ⟨l, between, one, agree⟩ := first p here
  obtain ⟨q, there, two, agreeToo⟩ := last l between
  exact ⟨q, there, ⟨l, one, two⟩, agree.trans agreeToo⟩

/-- A group that does not count is opened and closed. -/
theorem group {group : Nat} (crosses : Crosses groups relation i j) (other : group ∉ groups) :
    Crosses groups (fun p q => ∃ k, relation (p.openGroup group) k ∧ q = k.closeGroup group)
      i j := by
  intro p here
  obtain ⟨q, there, related, agree⟩ := crosses (p.openGroup group) here
  have apart : ∀ member ∈ groups, member ≠ group := fun member within same =>
    other (same ▸ within)
  refine ⟨q.closeGroup group, there, ⟨q, related, rfl⟩, fun member within => ?_,
    fun member within => ?_⟩
  · exact (agree.opened member within).trans (Function.update_of_ne (apart member within) _ _)
  · exact (Function.update_of_ne (apart member within) _ _).trans (agree.closed member within)

theorem times {count : Nat} (crossed : Times (Crosses groups relation) count i j) :
    Crosses groups (Times relation count) i j := by
  induction count generalizing i with
  | zero =>
    cases crossed
    exact refl _
  | succ count ih =>
    obtain ⟨k, one, more⟩ := crossed
    exact one.trans (ih more)

end Crosses

namespace Automaton

/-! ## Ways through an automaton -/

/-- The accepting place is reached in some steps, from a place of the automaton and of the text. -/
inductive Leads (steps : Array Step) (text : Array Char) : (length place i j : Nat) → Prop where
  | accept {place i} (here : steps[place]? = some .accept) : Leads steps text 0 place i i
  | consume {length place set next i j c} (here : steps[place]? = some (.consume set next))
      (seen : text[i]? = some c) (member : set.contains c = true)
      (onward : Leads steps text length next (i + 1) j) : Leads steps text (length + 1) place i j
  | first {length place first second i j} (here : steps[place]? = some (.choose first second))
      (onward : Leads steps text length first i j) : Leads steps text (length + 1) place i j
  | second {length place first second i j} (here : steps[place]? = some (.choose first second))
      (onward : Leads steps text length second i j) : Leads steps text (length + 1) place i j
  | require {length place anchor next i j} (here : steps[place]? = some (.require anchor next))
      (holds : anchor.holdsAt text i = true)
      (onward : Leads steps text length next i j) : Leads steps text (length + 1) place i j

/-- From the accepting place nothing more is matched. -/
theorem Leads.of_accept {steps : Array Step} {text : Array Char} {length place i j : Nat}
    (here : steps[place]? = some .accept) (way : Leads steps text length place i j) : j = i := by
  cases way with
  | accept _ => rfl
  | consume there _ _ _ => cases here.symm.trans there
  | first there _ => cases here.symm.trans there
  | second there _ => cases here.symm.trans there
  | require there _ _ => cases here.symm.trans there

/-- A choice leads on from one of two places. -/
theorem Leads.of_choice {final : Array Step} {text : Array Char} {greedy : Bool}
    {length place one two i j : Nat}
    (here : final[place]? = some (if greedy then .choose one two else .choose two one))
    (way : Leads final text length place i j) :
    ∃ left, left < length ∧ (Leads final text left one i j ∨ Leads final text left two i j) := by
  cases way with
  | first there onward =>
    refine ⟨_, Nat.lt_succ_self _, ?_⟩
    cases greedy <;> cases here.symm.trans there
    · exact .inr onward
    · exact .inl onward
  | second there onward =>
    refine ⟨_, Nat.lt_succ_self _, ?_⟩
    cases greedy <;> cases here.symm.trans there
    · exact .inl onward
    · exact .inr onward
  | accept there => cases greedy <;> cases here.symm.trans there
  | require there _ _ => cases greedy <;> cases here.symm.trans there
  | consume there _ _ _ => cases greedy <;> cases here.symm.trans there

/--
What is built for a part leaves the places that exist as they are, and leads
onward only along what the part matches.
-/
structure Sound (text : Array Char) (part : Nat → Build) (spans : Nat → Nat → Prop) : Prop where
  /-- Places are added. -/
  grows : ∀ next steps, steps.size ≤ (part next steps).1.size
  /-- No other place changes. -/
  keeps : ∀ next steps place, place < steps.size → (part next steps).1[place]? = steps[place]?
  /-- A way from the entry matches the part and goes on from the next place. -/
  leads : ∀ {next steps final length i j},
    Agree (part next steps).1 final steps.size (part next steps).1.size →
    Leads final text length (part next steps).2 i j →
      ∃ k left, left ≤ length ∧ spans i k ∧ Leads final text left next k j

namespace Sound

variable {text : Array Char} {part other : Nat → Build} {spans spansOther : Nat → Nat → Prop}

/-- Nothing is built for what matches the empty text. -/
theorem skip : Sound text (fun next steps => (steps, next)) (fun i j => j = i) where
  grows _ _ := Nat.le_refl _
  keeps _ _ _ _ := rfl
  leads {_ _ _ length i _} _ way := ⟨i, length, Nat.le_refl _, rfl, way⟩

theorem imp (sound : Sound text part spans) (wider : ∀ i j, spans i j → spansOther i j) :
    Sound text part spansOther where
  grows := sound.grows
  keeps := sound.keeps
  leads agree way := by
    obtain ⟨k, left, shorter, matched, onward⟩ := sound.leads agree way
    exact ⟨k, left, shorter, wider _ _ matched, onward⟩

/-- One place is built, from which the next one is reached along what the part matches. -/
theorem single {step : Nat → Step}
    (leads : ∀ {final length place next i j}, final[place]? = some (step next) →
      Leads final text length place i j →
        ∃ k left, left ≤ length ∧ spans i k ∧ Leads final text left next k j) :
    Sound text (fun next => add (step next)) spans where
  grows _ steps := by simp [add]
  keeps _ _ _ old := getElem?_push_of_lt old
  leads {next steps final length i j} agree way := by
    refine leads ((agree steps.size (Nat.le_refl _) ?_).trans Array.getElem?_push_size) way
    simp [add]

theorem consume (set : CharSet) :
    Sound text (fun next => add (.consume set next))
      (fun i j => j = i + 1 ∧ ∃ c, text[i]? = some c ∧ set.contains c = true) := by
  refine single fun here way => ?_
  cases way with
  | consume there seen member onward =>
    cases here.symm.trans there
    exact ⟨_, _, Nat.le_succ _, ⟨rfl, _, seen, member⟩, onward⟩
  | accept there => cases here.symm.trans there
  | first there _ => cases here.symm.trans there
  | second there _ => cases here.symm.trans there
  | require there _ _ => cases here.symm.trans there

theorem require (anchor : Anchor) :
    Sound text (fun next => add (.require anchor next))
      (fun i j => j = i ∧ anchor.holdsAt text i = true) := by
  refine single fun here way => ?_
  cases way with
  | require there holds onward =>
    cases here.symm.trans there
    exact ⟨_, _, Nat.le_succ _, ⟨rfl, holds⟩, onward⟩
  | accept there => cases here.symm.trans there
  | first there _ => cases here.symm.trans there
  | second there _ => cases here.symm.trans there
  | consume there _ _ _ => cases here.symm.trans there

theorem seq (first : Sound text part spans) (second : Sound text other spansOther) :
    Sound text (fun next steps => part (other next steps).2 (other next steps).1)
      (fun i j => ∃ k, spans i k ∧ spansOther k j) where
  grows next steps := (second.grows next steps).trans (first.grows _ _)
  keeps next steps place old := by
    rw [first.keeps _ _ place (old.trans_le (second.grows next steps)),
      second.keeps next steps place old]
  leads {next steps final length i j} agree way := by
    have agreeFirst : Agree (part (other next steps).2 (other next steps).1).1 final
        (other next steps).1.size (part (other next steps).2 (other next steps).1).1.size :=
      fun place after before => agree place ((second.grows next steps).trans after) before
    have agreeSecond : Agree (other next steps).1 final steps.size (other next steps).1.size := by
      intro place after before
      rw [agree place after (before.trans_le (first.grows _ _)), first.keeps _ _ place before]
    obtain ⟨k, left, shorter, matched, onward⟩ := first.leads agreeFirst way
    obtain ⟨l, rest, shorterStill, matchedToo, onwardToo⟩ := second.leads agreeSecond onward
    exact ⟨l, rest, shorterStill.trans shorter, ⟨k, matched, matchedToo⟩, onwardToo⟩

theorem copies (sound : Sound text part spans) (count : Nat) :
    Sound text (fun next => Automaton.copies part count next) (Times spans count) := by
  induction count with
  | zero => exact skip
  | succ count ih => exact (ih.seq sound).imp fun _ _ ⟨_, more, last⟩ => more.concat last

end Sound

/-- What is built for a part with two entries leads onward along what each of them matches. -/
structure SoundBoth (text : Array Char) (body : Nat → Array Step → Array Step × Nat × Nat)
    (spansFirst spansSecond : Nat → Nat → Prop) : Prop where
  /-- The way from the first entry. -/
  first : Sound text (fun next steps => ((body next steps).1, (body next steps).2.1)) spansFirst
  /-- The way from the second entry. -/
  second : Sound text (fun next steps => ((body next steps).1, (body next steps).2.2)) spansSecond

namespace SoundBoth

variable {text : Array Char} {part other : Nat → Build} {spans spansOther : Nat → Nat → Prop}
  {body : Nat → Array Step → Array Step × Nat × Nat}

/-- Two parts in front of the same place. -/
theorem pair (one : Sound text part spans) (two : Sound text other spansOther) :
    SoundBoth text
      (fun next steps =>
        ((part next (other next steps).1).1, (part next (other next steps).1).2,
          (other next steps).2)) spans spansOther := by
  have grows : ∀ next steps, steps.size ≤ (part next (other next steps).1).1.size :=
    fun next steps => (two.grows next steps).trans (one.grows _ _)
  have keeps : ∀ next steps place, place < steps.size →
      (part next (other next steps).1).1[place]? = steps[place]? := by
    intro next steps place old
    rw [one.keeps _ _ place (old.trans_le (two.grows next steps)), two.keeps next steps place old]
  refine ⟨⟨grows, keeps, ?_⟩, ⟨grows, keeps, ?_⟩⟩
  · intro next steps final length i j agree way
    exact one.leads
      (fun place after before => agree place ((two.grows next steps).trans after) before) way
  · intro next steps final length i j agree way
    refine two.leads (fun place after before => ?_) way
    rw [agree place after (before.trans_le (one.grows _ _)), one.keeps _ _ place before]

/-- A choice is built behind the two entries. -/
theorem choose (both : SoundBoth text body spans spansOther) (greedy : Bool) :
    Sound text
      (fun next steps =>
        addChoice greedy (body next steps).2.1 (body next steps).2.2 (body next steps).1)
      (fun i j => spans i j ∨ spansOther i j) where
  grows next steps := (both.first.grows next steps).trans (by simp [addChoice, add])
  keeps next steps place old := by
    refine Eq.trans (getElem?_push_of_lt ?_) (both.first.keeps next steps place old)
    exact old.trans_le (both.first.grows next steps)
  leads {next steps final length i j} agree way := by
    have size : (addChoice greedy (body next steps).2.1 (body next steps).2.2
        (body next steps).1).1.size = (body next steps).1.size + 1 := Array.size_push _
    have here := (agree (body next steps).1.size (both.first.grows next steps)
      (by rw [size]; exact Nat.lt_succ_self _)).trans Array.getElem?_push_size
    have within : Agree (body next steps).1 final steps.size (body next steps).1.size := by
      intro place after before
      rw [agree place after (by rw [size]; exact Nat.lt_succ_of_lt before)]
      exact getElem?_push_of_lt before
    obtain ⟨left, shorter, inner | outer⟩ := way.of_choice here
    · obtain ⟨k, rest, shorterStill, matched, onward⟩ := both.first.leads within inner
      exact ⟨k, rest, shorterStill.trans shorter.le, .inl matched, onward⟩
    · obtain ⟨k, rest, shorterStill, matched, onward⟩ := both.second.leads within outer
      exact ⟨k, rest, shorterStill.trans shorter.le, .inr matched, onward⟩

end SoundBoth

namespace Sound

variable {text : Array Char} {part other : Nat → Build} {spans spansOther : Nat → Nat → Prop}

/-- Parts that may be left out match up to so many times. -/
theorem optionals (sound : Sound text part spans) (greedy : Bool) (count : Nat) :
    Sound text (fun outer => Automaton.optionals part greedy outer count)
      (fun i j => ∃ times, times ≤ count ∧ Times spans times i j) := by
  induction count with
  | zero => exact skip.imp fun i j same => ⟨0, Nat.le_refl _, same⟩
  | succ count ih =>
    refine ((SoundBoth.pair (sound.seq ih) skip).choose greedy).imp ?_
    rintro i j (⟨k, one, times, few, more⟩ | same)
    · exact ⟨times + 1, Nat.succ_le_succ few, k, one, more⟩
    · exact ⟨0, Nat.zero_le _, same⟩

end Sound

section Loop

variable {text : Array Char} {part : Nat → Build} {spans : Nat → Nat → Prop} {greedy : Bool}
  {outer : Nat} {steps : Array Step}

theorem size_loop : (loop part greedy outer steps).1.size =
    (part steps.size (steps.push .accept)).1.size := by
  show ((part steps.size (steps.push .accept)).1.set! _ _).size = _
  rw [Array.set!_eq_setIfInBounds, Array.size_setIfInBounds]

theorem loop_grows (sound : Sound text part spans) :
    steps.size < (loop part greedy outer steps).1.size := by
  have := sound.grows steps.size (steps.push .accept)
  rw [Array.size_push] at this
  rw [size_loop]
  exact this

/-- Only the place that is kept for the choice changes when the loop is closed. -/
theorem getElem?_loop {place : Nat} (elsewhere : steps.size ≠ place) :
    (loop part greedy outer steps).1[place]? =
      (part steps.size (steps.push .accept)).1[place]? := by
  show ((part steps.size (steps.push .accept)).1.set! steps.size _)[place]? = _
  rw [Array.set!_eq_setIfInBounds, Array.getElem?_setIfInBounds_ne elsewhere]

theorem loop_keeps (sound : Sound text part spans) {place : Nat} (old : place < steps.size) :
    (loop part greedy outer steps).1[place]? = steps[place]? := by
  rw [getElem?_loop (Nat.ne_of_gt old),
    sound.keeps _ _ place (by rw [Array.size_push]; exact Nat.lt_succ_of_lt old),
    getElem?_push_of_lt old]

/--
From the choice of a loop the way goes through the part, back to the choice and so on, until it
leaves the loop.  The induction is on the length of the way.
-/
theorem loop_leads (sound : Sound text part spans) {final : Array Step}
    (agree : Agree (loop part greedy outer steps).1 final steps.size
      (loop part greedy outer steps).1.size) :
    (∀ {length i j}, Leads final text length (loop part greedy outer steps).2.1 i j →
      ∃ k left, left ≤ length ∧ (∃ times, Times spans (times + 1) i k) ∧
        Leads final text left outer k j) ∧
    ∀ {length i j}, Leads final text length (loop part greedy outer steps).2.2 i j →
      ∃ k left, left ≤ length ∧ (∃ times, Times spans times i k) ∧
        Leads final text left outer k j := by
  have through : ∀ {length i j}, Leads final text length (loop part greedy outer steps).2.1 i j →
      ∃ k left, left ≤ length ∧ spans i k ∧ Leads final text left steps.size k j := by
    intro length i j way
    refine sound.leads (fun place after before => ?_) way
    have behind : steps.size < place := by
      rwa [Array.size_push] at after
    rw [agree place behind.le (by rwa [size_loop]), getElem?_loop (Nat.ne_of_lt behind)]
  have here : final[steps.size]? =
      some (if greedy then .choose (loop part greedy outer steps).2.1 outer
        else .choose outer (loop part greedy outer steps).2.1) := by
    have grows : steps.size < (loop part greedy outer steps).1.size := loop_grows sound
    rw [agree steps.size (Nat.le_refl _) grows]
    show ((part steps.size (steps.push .accept)).1.set! steps.size _)[steps.size]? = _
    rw [Array.set!_eq_setIfInBounds, Array.getElem?_setIfInBounds_self,
      if_pos (size_loop ▸ grows)]
    rfl
  have fromChoice : ∀ {length i j}, Leads final text length steps.size i j →
      ∃ k left, left ≤ length ∧ (∃ times, Times spans times i k) ∧
        Leads final text left outer k j := by
    intro length
    induction length using Nat.strong_induction_on with
    | _ length ih =>
      intro i j way
      obtain ⟨left, shorter, inner | leave⟩ := way.of_choice here
      · obtain ⟨k, rest, shorterStill, matched, back⟩ := through inner
        obtain ⟨l, last, lastShorter, ⟨times, more⟩, onward⟩ :=
          ih rest (shorterStill.trans_lt shorter) back
        exact ⟨l, last, (lastShorter.trans shorterStill).trans shorter.le,
          ⟨times + 1, k, matched, more⟩, onward⟩
      · exact ⟨i, left, shorter.le, ⟨0, rfl⟩, leave⟩
  refine ⟨fun way => ?_, fromChoice⟩
  obtain ⟨k, rest, shorter, matched, back⟩ := through way
  obtain ⟨l, last, lastShorter, ⟨times, more⟩, onward⟩ := fromChoice back
  exact ⟨l, last, lastShorter.trans shorter, ⟨times, k, matched, more⟩, onward⟩

/-- A loop leads onward along any number of the parts. -/
theorem SoundBoth.loop (sound : Sound text part spans) (greedy : Bool) :
    SoundBoth text (fun next => Automaton.loop part greedy next)
      (fun i j => ∃ times, Times spans (times + 1) i j)
      (fun i j => ∃ times, Times spans times i j) where
  first :=
    { grows := fun _ _ => (loop_grows sound).le
      keeps := fun _ _ _ => loop_keeps sound
      leads := fun agree => (loop_leads sound agree).1 }
  second :=
    { grows := fun _ _ => (loop_grows sound).le
      keeps := fun _ _ _ => loop_keeps sound
      leads := fun agree => (loop_leads sound agree).2 }

end Loop

theorem Sound.repetition {text : Array Char} {part : Nat → Build} {spans : Nat → Nat → Prop}
    (sound : Sound text part spans) (mayBeEmpty : Bool) {least : Nat} {most : Option Nat}
    (greedy : Bool) (ordered : ∀ bound ∈ most, least ≤ bound) :
    Sound text (fun next => Automaton.repetition part mayBeEmpty least most greedy next)
      (fun i j => ∃ count, least ≤ count ∧ (∀ bound ∈ most, count ≤ bound) ∧
        Times spans count i j) := by
  cases most with
  | some most =>
    refine ((sound.copies least).seq (sound.optionals greedy (most - least))).imp ?_
    rintro i j ⟨k, required, times, few, more⟩
    have : least ≤ most := ordered most rfl
    refine ⟨least + times, Nat.le_add_right _ _, ?_, required.append more⟩
    rintro _ ⟨⟩
    omega
  | none =>
    have both := SoundBoth.loop sound greedy
    cases least with
    | zero =>
      cases mayBeEmpty with
      | false =>
        refine both.second.imp ?_
        rintro i j ⟨times, matched⟩
        exact ⟨times, Nat.zero_le _, nofun, matched⟩
      | true =>
        refine ((SoundBoth.pair both.first skip).choose greedy).imp ?_
        rintro i j (⟨times, matched⟩ | same)
        · exact ⟨times + 1, Nat.zero_le _, nofun, matched⟩
        · exact ⟨0, Nat.zero_le _, nofun, same⟩
    | succ least =>
      refine ((sound.copies least).seq both.first).imp ?_
      rintro i j ⟨k, required, times, matched⟩
      exact ⟨least + (times + 1), by omega, nofun, required.append matched⟩

section Build

variable {text : Array Char} {referenced : List Nat}

mutual

/-- What is built for a regular node leads onward along what the node matches. -/
theorem sound_build (node : Node) (regular : node.isRegular referenced = true)
    (ordered : hasOrderedBounds node = true) :
    Sound text (build node) (Crosses referenced (node.Traverses text)) := by
  match node with
  | .empty =>
    refine Sound.skip.imp ?_
    rintro i j rfl
    exact .refl _
  | .char set =>
    refine (Sound.consume set).imp ?_
    rintro i _ ⟨rfl, seen⟩ p rfl
    exact ⟨p.moveTo (p.index + 1), rfl, ⟨rfl, seen⟩, fun _ _ => rfl, fun _ _ => rfl⟩
  | .anchor anchor =>
    refine (Sound.require anchor).imp ?_
    rintro i _ ⟨rfl, holds⟩ p rfl
    exact ⟨p, rfl, ⟨rfl, holds⟩, .refl referenced p⟩
  | .concat parts => exact sound_buildParts parts regular ordered
  | .alternatives branches => exact sound_buildBranches branches regular ordered
  | .group group inner =>
    rw [Node.isRegular, Bool.and_eq_true] at regular
    refine (sound_build inner regular.2 ordered).imp fun i j crosses => crosses.group ?_
    simpa using regular.1
  | .repeated least most greedy inner =>
    rw [hasOrderedBounds, Bool.and_eq_true, Bool.and_eq_true] at ordered
    obtain ⟨⟨_, bounds⟩, ordered⟩ := ordered
    have inOrder : ∀ bound ∈ most, least ≤ bound := by
      rintro bound rfl
      exact (of_decide_eq_true bounds).1
    refine ((sound_build inner regular ordered).repetition _ greedy inOrder).imp ?_
    rintro i j ⟨count, enough, few, times⟩
    exact (Crosses.times times).imp fun _ _ times => ⟨count, .inl enough, few, times⟩

/-- What is built for parts leads onward along all of them. -/
theorem sound_buildParts (parts : List Node) (regular : Node.allRegular referenced parts = true)
    (ordered : haveOrderedBounds parts = true) :
    Sound text (buildParts parts) (Crosses referenced (PartsTraverse text parts)) := by
  match parts with
  | [] =>
    refine Sound.skip.imp ?_
    rintro i j rfl
    exact .refl _
  | part :: parts =>
    rw [Node.allRegular, Bool.and_eq_true] at regular
    rw [haveOrderedBounds, Bool.and_eq_true] at ordered
    refine ((sound_build part regular.1 ordered.1).seq
      (sound_buildParts parts regular.2 ordered.2)).imp ?_
    rintro i j ⟨k, one, more⟩
    exact one.trans more

/-- What is built for branches leads onward along one of them. -/
theorem sound_buildBranches (branches : List Node)
    (regular : Node.allRegular referenced branches = true)
    (ordered : haveOrderedBounds branches = true) :
    Sound text (buildBranches branches) (Crosses referenced (BranchesTraverse text branches)) := by
  match branches with
  | [] =>
    refine Sound.skip.imp ?_
    rintro i j rfl
    exact .refl _
  | [branch] =>
    rw [Node.allRegular, Bool.and_eq_true] at regular
    rw [haveOrderedBounds, Bool.and_eq_true] at ordered
    exact sound_build branch regular.1 ordered.1
  | branch :: second :: branches =>
    rw [Node.allRegular, Bool.and_eq_true] at regular
    rw [haveOrderedBounds, Bool.and_eq_true] at ordered
    refine ((SoundBoth.pair (sound_build branch regular.1 ordered.1)
      (sound_buildBranches (second :: branches) regular.2 ordered.2)).choose true).imp ?_
    rintro i j (one | others)
    · exact one.imp fun _ _ => .inl
    · exact others.imp fun _ _ => .inr

end

end Build

end Automaton

end ToolGate.Pattern
