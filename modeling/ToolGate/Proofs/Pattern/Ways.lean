import ToolGate.Pattern.Machine

/-!
# Ways through a program

The machine goes on with one configuration and remembers others.  Each of
them comes from an earlier one by an instruction.  So if the machine
succeeds, there is a way from where it started to the end of a match, on
which nothing has been taken back.
-/

namespace ToolGate.Pattern.Machine

/-! ## One instruction -/

/-- Enter a loop once more, counting from a number, or leave it. -/
def EntersLoop (least count leave : Nat) (counted d : Configuration) : Prop :=
  d = counted.step ∨ least ≤ count ∧ d = counted.goTo leave

/--
An instruction takes one configuration to another, be it the one with which the machine goes
on or one that it remembers.
-/
def Moves (text : Array Char) (instruction : Instruction) (c d : Configuration) : Prop :=
  match instruction with
  | .take set =>
      d = c.moveTo (c.index + 1) ∧ ∃ x, text[c.index]? = some x ∧ set.contains x = true
  | .pass automaton => ∃ index, automaton.matchAt text c.index = some index ∧ d = c.moveTo index
  | .require anchor => d = c.step ∧ anchor.holdsAt text c.index = true
  | .split first second => d = c.goTo first ∨ d = c.goTo second
  | .jump target => d = c.goTo target
  | .mark slot => d = (c.write slot c.index).step
  | .clear slot => d = (c.write slot 0).step
  | .restore slot => d = c.moveTo ((c.slot? slot).getD c.index)
  | .count _ least most leave slot =>
      let count := (c.slot? slot).getD 0
      most = some count ∧ d = c.goTo leave ∨
        most ≠ some count ∧ EntersLoop least count leave (c.write slot (count + 1)) d
  | .countAdvancing _ least leave slot placeSlot =>
      let count := (c.slot? slot).getD 0
      let counted := c.write slot (count + 1)
      let counted := if least ≤ count then counted.write placeSlot c.index else counted
      EntersLoop least count leave counted d
  | .goBack count => count ≤ c.index ∧ d = c.moveTo (c.index - count)
  | .repeatGroup group =>
      ∃ first last, c.slot? (2 * group) = some first ∧ c.slot? (2 * group + 1) = some last ∧
        comesAgain text first last c.index = true ∧ d = c.moveTo (c.index + (last - first))
  | .requireGroup group => d = c.step ∧ (c.slot? (2 * group)).isSome = true
  | .beginAtomic => ∃ atomics, d = { c.step with atomics }
  | .endAtomic => ∃ atomics, d = { c.step with atomics }
  | .requireSearchStart => d = c.step ∧ c.index = 0
  | .failLook => False
  | .succeed => False

/--
How an instruction may end.  Whatever the machine goes on with comes from where it stands, and
what it remembers comes from there or has been remembered before.
-/
def Accounted (text : Array Char) (state : State) (instruction : Instruction) : Progress → Prop
  | .next after =>
      Moves text instruction state.current after.current ∧
        ∀ way ∈ after.ways, way ∈ state.ways ∨ Moves text instruction state.current way
  | .fail after => ∀ way ∈ after.ways, way ∈ state.ways
  | .matched => instruction = .succeed
  | .abandoned => True

section Step

variable {text : Array Char} {instruction : Instruction} {state : State} {c d : Configuration}

theorem accounted_goOn (moves : Moves text instruction state.current c) :
    Accounted text state instruction (state.goOn c) :=
  ⟨moves, fun _ => .inl⟩

theorem accounted_fail : Accounted text state instruction (.fail state) :=
  fun _ => id

theorem accounted_remember (moves : Moves text instruction state.current c)
    (other : Moves text instruction state.current d) :
    Accounted text state instruction (state.remember c d) := by
  rw [State.remember]
  split
  · trivial
  · refine ⟨moves, fun way member => ?_⟩
    rcases List.mem_cons.mp member with rfl | member
    · exact .inr other
    · exact .inl member

theorem accounted_enterLoop {greedy : Bool} {least count leave : Nat}
    (moves : ∀ d, EntersLoop least count leave c d → Moves text instruction state.current d) :
    Accounted text state instruction (enterLoop state greedy least count leave c) := by
  have again := moves _ (.inl rfl)
  rw [enterLoop]
  split
  · have left := moves _ (.inr ⟨‹_›, rfl⟩)
    cases greedy with
    | true => exact accounted_remember again left
    | false => exact accounted_remember left again
  · exact accounted_goOn again

theorem mem_of_mem_forgetTo {place count : Nat} {ways : List Configuration} {way : Configuration}
    (member : way ∈ (forgetTo place ways count).1) : way ∈ ways := by
  induction ways generalizing count with
  | nil => exact member
  | cons first ways ih =>
    rw [forgetTo] at member
    split at member
    · exact List.mem_cons_of_mem _ member
    · exact List.mem_cons_of_mem _ (ih member)

/-- The machine accounts for whatever an instruction does. -/
theorem accounted (text : Array Char) (state : State) (instruction : Instruction) :
    Accounted text state instruction (carryOut text state instruction) := by
  cases instruction with
  | take set =>
    simp only [carryOut]
    split
    · rename_i member
      refine accounted_goOn ⟨rfl, ?_⟩
      cases seen : text[state.current.index]? with
      | none => rw [seen] at member; cases member
      | some x => rw [seen] at member; exact ⟨x, rfl, member⟩
    · exact accounted_fail
  | pass automaton =>
    simp only [carryOut]
    split
    · exact accounted_goOn ⟨_, ‹_›, rfl⟩
    · exact accounted_fail
  | require anchor =>
    simp only [carryOut]
    split
    · exact accounted_goOn ⟨rfl, ‹_›⟩
    · exact accounted_fail
  | split first second => exact accounted_remember (.inl rfl) (.inr rfl)
  | jump target => exact accounted_goOn rfl
  | mark slot => exact accounted_goOn rfl
  | clear slot => exact accounted_goOn rfl
  | restore slot => exact accounted_goOn rfl
  | count greedy least most leave slot =>
    simp only [carryOut]
    split
    · exact accounted_goOn (.inl ⟨‹_›, rfl⟩)
    · exact accounted_enterLoop fun d enters => .inr ⟨‹_›, enters⟩
  | countAdvancing greedy least leave slot placeSlot =>
    simp only [carryOut]
    split
    · exact accounted_fail
    · exact accounted_enterLoop fun d enters => enters
  | failLook => exact fun way => mem_of_mem_forgetTo
  | goBack count =>
    simp only [carryOut]
    split
    · exact accounted_goOn ⟨‹_›, rfl⟩
    · exact accounted_fail
  | repeatGroup group =>
    simp only [carryOut]
    split
    · split
      · exact accounted_goOn ⟨_, _, ‹_›, ‹_›, ‹_›, rfl⟩
      · exact accounted_fail
    · exact accounted_fail
  | requireGroup group =>
    simp only [carryOut]
    split
    · exact accounted_goOn ⟨rfl, ‹_›⟩
    · exact accounted_fail
  | beginAtomic => exact accounted_goOn ⟨_, rfl⟩
  | endAtomic =>
    simp only [carryOut]
    split
    · exact accounted_fail
    · exact ⟨⟨_, rfl⟩, fun way member => .inl (List.mem_of_mem_drop member)⟩
  | requireSearchStart =>
    simp only [carryOut]
    split
    · rename_i atStart
      exact accounted_goOn ⟨rfl, eq_of_beq atStart⟩
    · exact accounted_fail
  | succeed => rfl

end Step

/-! ## Many instructions -/

/-- In some steps a configuration leads to the end of a match. -/
inductive Leads (program : Array Instruction) (text : Array Char) :
    (length : Nat) → Configuration → Prop where
  | succeed {c} (here : program[c.place]? = some .succeed) : Leads program text 0 c
  | move {length c d instruction} (here : program[c.place]? = some instruction)
      (moves : Moves text instruction c d) (onward : Leads program text length d) :
      Leads program text (length + 1) c

section Run

variable {program : Program} {text : Array Char} {first : Configuration}

/-- If a configuration leads to the end of a match, then a run that began at another one did. -/
def OnWay (program : Program) (text : Array Char) (first c : Configuration) : Prop :=
  ∀ length, Leads program.instructions text length c →
    ∃ whole, Leads program.instructions text whole first

theorem OnWay.move {c d : Configuration} {instruction : Instruction}
    (here : program.instructions[c.place]? = some instruction) (onWay : OnWay program text first c)
    (moves : Moves text instruction c d) : OnWay program text first d :=
  fun length way => onWay (length + 1) (.move here moves way)

/-- The machine succeeds only at the end of a way from where it began. -/
theorem leads_of_run {fuel : Nat} {state : State} (current : OnWay program text first state.current)
    (ways : ∀ way ∈ state.ways, OnWay program text first way)
    (succeeds : run program text fuel state = true) :
    ∃ length, Leads program.instructions text length first := by
  induction fuel generalizing state with
  | zero => cases succeeds
  | succ fuel ih =>
    rw [run] at succeeds
    split at succeeds
    · cases succeeds
    · rename_i instruction here
      have all := accounted text state instruction
      split at succeeds <;> rename_i same <;> rw [same] at all
      · obtain ⟨moves, remembered⟩ := all
        refine ih (current.move here moves) (fun way member => ?_) succeeds
        rcases remembered way member with before | moves
        · exact ways way before
        · exact current.move here moves
      · obtain rfl : instruction = .succeed := all
        exact current 0 (.succeed here)
      · cases succeeds
      · rename_i failed
        split at succeeds
        · rename_i next back
          rw [goBack] at back
          split at back
          · cases back
          · rename_i way others remembered
            split at back
            · cases back
            · cases back
              have kept : ∀ way ∈ failed.ways, way ∈ state.ways := all
              rw [remembered] at kept
              refine ih (ways way (kept way List.mem_cons_self)) (fun other member => ?_) succeeds
              exact ways other (kept other (List.mem_cons_of_mem _ member))
        · cases succeeds

/-- Where a program matches, there is a way from its beginning to the end of a match. -/
theorem leads_of_matchesIn (found : matchesIn program text = true) :
    ∃ length, Leads program.instructions text length
      { place := 0, index := 0, slots := Array.replicate program.slots none, atomics := [] } :=
  leads_of_run (fun length way => ⟨length, way⟩) (by simp) found

end Run

end ToolGate.Pattern.Machine
