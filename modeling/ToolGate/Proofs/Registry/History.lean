import Mathlib.Data.List.Induction
import ToolGate.Proofs.Registry.Run

/-!
# What a history leaves registered

A history decides by itself which names are registered at its end, what
stands under them and in which order they are listed.  The definitions of
this module say so by what follows what in the list of events, without a
registry.  A removal of a server concerns the names that it owns at that
moment, and a name is owned by the server of its latest registration.

Each of these notions has one lemma on a history with one more event, and
the general facts are inductions by it: what is present was registered last
with one tool and came in at one time.
-/

namespace ToolGate.Registry

/-- The latest registration of the name is of this tool. -/
def Latest (history : List Event) (name : String) (tool : RegisteredTool) : Prop :=
  ∃ before after, history = before ++ .registered name tool :: after ∧
    ∀ other, .registered name other ∉ after

/-- After the history, the event removes the name, or the server that owns it by then. -/
def Event.Removes (history : List Event) (name : String) : Event → Prop
  | .registered _ _ => False
  | .nameRemoved removed => removed = name
  | .serverRemoved server => ∃ tool, Latest history name tool ∧ tool.server = server

/-- Some registration of the name is not followed by its removal. -/
def Present (history : List Event) (name : String) : Prop :=
  ∃ before tool after, history = before ++ .registered name tool :: after ∧
    ∀ between event later, after = between ++ event :: later →
      ¬ event.Removes (before ++ .registered name tool :: between) name

/-- A registration at this time found the name absent, and it has been present ever since. -/
def EnteredAt (history : List Event) (name : String) (time : Nat) : Prop :=
  ∃ before tool after, history = before ++ .registered name tool :: after ∧
    before.length = time ∧ ¬ Present before name ∧
    ∀ between later, after = between ++ later →
      Present (before ++ .registered name tool :: between) name

/-- The first name came in before the second. -/
def EnteredBefore (history : List Event) (first second : String) : Prop :=
  ∃ earlier later, EnteredAt history first earlier ∧ EnteredAt history second later ∧
    earlier < later

variable {history : List Event} {event : Event} {name : String} {tool : RegisteredTool}
  {time : Nat}

/-! ## One more event -/

/-- A list is split at its last element or before it. -/
theorem concat_eq_append_cons_iff {α : Type _} {list before after : List α} {last middle : α} :
    list ++ [last] = before ++ middle :: after ↔
      (after = [] ∧ middle = last ∧ list = before) ∨
      ∃ front, after = front ++ [last] ∧ list = before ++ middle :: front := by
  constructor
  · intro split
    rcases List.eq_nil_or_concat' after with rfl | ⟨front, final, rfl⟩
    · rcases List.append_inj' split rfl with ⟨same, ends⟩
      exact .inl ⟨rfl, (List.singleton_inj.mp ends).symm, same⟩
    · rw [← List.cons_append, ← List.append_assoc] at split
      rcases List.append_inj' split rfl with ⟨same, ends⟩
      exact .inr ⟨front, by rw [List.singleton_inj.mp ends], same⟩
  · rintro (⟨rfl, rfl, rfl⟩ | ⟨front, rfl, rfl⟩)
    · rfl
    · simp

theorem latest_concat_iff :
    Latest (history ++ [event]) name tool ↔
      event = .registered name tool ∨
      (∀ other, event ≠ .registered name other) ∧ Latest history name tool := by
  constructor
  · rintro ⟨before, after, split, last⟩
    rcases concat_eq_append_cons_iff.mp split with ⟨rfl, same, rfl⟩ | ⟨front, rfl, rfl⟩
    · exact .inl same.symm
    · refine .inr ⟨?_, before, front, rfl, ?_⟩
      · rintro other rfl
        exact last other (List.mem_append_right _ List.mem_cons_self)
      · intro other member
        exact last other (List.mem_append_left _ member)
  · rintro (rfl | ⟨different, before, after, rfl, last⟩)
    · exact ⟨history, [], rfl, fun other => List.not_mem_nil⟩
    · refine ⟨before, after ++ [event], by simp, ?_⟩
      intro other member
      rcases List.mem_append.mp member with earlier | final
      · exact last other earlier
      · exact different other (List.mem_singleton.mp final).symm

theorem present_concat_iff :
    Present (history ++ [event]) name ↔
      (∃ tool, event = .registered name tool) ∨
      Present history name ∧ ¬ event.Removes history name := by
  constructor
  · rintro ⟨before, tool, after, split, kept⟩
    rcases concat_eq_append_cons_iff.mp split with ⟨rfl, same, rfl⟩ | ⟨front, rfl, rfl⟩
    · exact .inl ⟨tool, same.symm⟩
    · refine .inr ⟨⟨before, tool, front, rfl, ?_⟩, kept front event [] rfl⟩
      rintro between removal later rfl
      exact kept between removal (later ++ [event]) (by simp)
  · rintro (⟨tool, rfl⟩ | ⟨⟨before, tool, after, rfl, kept⟩, spared⟩)
    · refine ⟨history, tool, [], rfl, ?_⟩
      intro between removal later split
      simp at split
    · refine ⟨before, tool, after ++ [event], by simp, ?_⟩
      intro between removal later split
      rcases concat_eq_append_cons_iff.mp split with ⟨rfl, rfl, rfl⟩ | ⟨front, rfl, rfl⟩
      · exact spared
      · exact kept between removal front rfl

theorem enteredAt_concat_iff :
    EnteredAt (history ++ [event]) name time ↔
      (time = history.length ∧ ¬ Present history name ∧ ∃ tool, event = .registered name tool) ∨
      EnteredAt history name time ∧ Present (history ++ [event]) name := by
  constructor
  · rintro ⟨before, tool, after, split, rfl, absent, since⟩
    rcases concat_eq_append_cons_iff.mp split with ⟨rfl, same, rfl⟩ | ⟨front, rfl, rfl⟩
    · exact .inl ⟨rfl, absent, tool, same.symm⟩
    · refine .inr ⟨⟨before, tool, front, rfl, rfl, absent, ?_⟩, ?_⟩
      · rintro between later rfl
        exact since between (later ++ [event]) (by simp)
      · have now := since (front ++ [event]) [] (by simp)
        simpa using now
  · rintro (⟨rfl, absent, tool, rfl⟩ | ⟨⟨before, tool, after, rfl, rfl, absent, since⟩, now⟩)
    · refine ⟨history, tool, [], rfl, rfl, absent, ?_⟩
      intro between later split
      obtain rfl : between = [] := (List.append_eq_nil_iff.mp split.symm).1
      exact present_concat_iff.mpr (.inl ⟨tool, rfl⟩)
    · refine ⟨before, tool, after ++ [event], by simp, rfl, absent, ?_⟩
      intro between later split
      rcases List.eq_nil_or_concat' later with rfl | ⟨front, final, rfl⟩
      · rw [List.append_nil] at split
        rw [← split]
        simpa using now
      · rw [← List.append_assoc] at split
        exact since between front (List.append_inj' split rfl).1

theorem EnteredBefore.concat {first second : String}
    (order : EnteredBefore history first second)
    (presentFirst : Present (history ++ [event]) first)
    (presentSecond : Present (history ++ [event]) second) :
    EnteredBefore (history ++ [event]) first second := by
  rcases order with ⟨earlier, later, enteredFirst, enteredSecond, less⟩
  exact ⟨earlier, later, enteredAt_concat_iff.mpr (.inr ⟨enteredFirst, presentFirst⟩),
    enteredAt_concat_iff.mpr (.inr ⟨enteredSecond, presentSecond⟩), less⟩

/-! ## Histories -/

theorem not_latest_nil : ¬ Latest [] name tool := by
  rintro ⟨before, after, split, _⟩
  simp at split

theorem not_present_nil : ¬ Present [] name := by
  rintro ⟨before, tool, after, split, _⟩
  simp at split

theorem Latest.unique {other : RegisteredTool} (latest : Latest history name tool)
    (latestOther : Latest history name other) : tool = other := by
  induction history using List.reverseRecOn with
  | nil => exact absurd latest not_latest_nil
  | append_singleton history event ih =>
      rcases latest_concat_iff.mp latest with rfl | ⟨different, earlier⟩
      · rcases latest_concat_iff.mp latestOther with same | ⟨different, _⟩
        · injection same
        · exact absurd rfl (different tool)
      · rcases latest_concat_iff.mp latestOther with same | ⟨_, earlierOther⟩
        · exact absurd same (different other)
        · exact ih earlier earlierOther

/-- The owner of a name is the server of the one tool that was registered last. -/
theorem Latest.removes_iff (latest : Latest history name tool) :
    event.Removes history name ↔
      event = .nameRemoved name ∨ event = .serverRemoved tool.server := by
  cases event with
  | registered other new => simp [Event.Removes]
  | nameRemoved removed => simp [Event.Removes]
  | serverRemoved server =>
      constructor
      · rintro ⟨owner, latestOwner, rfl⟩
        rw [latest.unique latestOwner]
        exact .inr rfl
      · rintro (⟨⟨⟩⟩ | ⟨⟨⟩⟩)
        exact ⟨tool, latest, rfl⟩

theorem Present.exists_latest (present : Present history name) :
    ∃ tool, Latest history name tool := by
  induction history using List.reverseRecOn with
  | nil => exact absurd present not_present_nil
  | append_singleton history event ih =>
      by_cases registers : ∃ tool, event = .registered name tool
      · rcases registers with ⟨tool, same⟩
        exact ⟨tool, latest_concat_iff.mpr (.inl same)⟩
      · rcases present_concat_iff.mp present with now | ⟨earlier, _⟩
        · exact absurd now registers
        · rcases ih earlier with ⟨tool, latest⟩
          exact ⟨tool, latest_concat_iff.mpr
            (.inr ⟨fun other same => registers ⟨other, same⟩, latest⟩)⟩

theorem EnteredAt.present (entered : EnteredAt history name time) : Present history name := by
  rcases entered with ⟨before, tool, after, rfl, _, _, since⟩
  exact since after [] (List.append_nil after).symm

theorem EnteredAt.lt_length (entered : EnteredAt history name time) : time < history.length := by
  rcases entered with ⟨before, tool, after, rfl, rfl, _, _⟩
  simp

/-- What is present came in at some time. -/
theorem Present.exists_enteredAt (present : Present history name) :
    ∃ time, EnteredAt history name time := by
  induction history using List.reverseRecOn with
  | nil => exact absurd present not_present_nil
  | append_singleton history event ih =>
      by_cases earlier : Present history name
      · rcases ih earlier with ⟨time, entered⟩
        exact ⟨time, enteredAt_concat_iff.mpr (.inr ⟨entered, present⟩)⟩
      · rcases present_concat_iff.mp present with registers | ⟨before, _⟩
        · exact ⟨history.length, enteredAt_concat_iff.mpr (.inl ⟨rfl, earlier, registers⟩)⟩
        · exact absurd before earlier

theorem EnteredAt.unique {other : Nat} (entered : EnteredAt history name time)
    (enteredOther : EnteredAt history name other) : time = other := by
  induction history using List.reverseRecOn with
  | nil => exact absurd entered.present not_present_nil
  | append_singleton history event ih =>
      rcases enteredAt_concat_iff.mp entered with ⟨rfl, absent, _⟩ | ⟨earlier, _⟩
      · rcases enteredAt_concat_iff.mp enteredOther with ⟨same, _⟩ | ⟨earlierOther, _⟩
        · exact same.symm
        · exact absurd earlierOther.present absent
      · rcases enteredAt_concat_iff.mp enteredOther with ⟨_, absent, _⟩ | ⟨earlierOther, _⟩
        · exact absurd earlier.present absent
        · exact ih earlier earlierOther

end ToolGate.Registry
