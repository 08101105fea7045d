import ToolGate.Proofs.Pattern.Language

/-!
# Searching with an automaton

All threads of a search are at places from which every way to the end of a
match is the last part of a way from the start.  So a search that succeeds
has found a part of the text that the node matches, and a search for the end
of a match that starts at a given place has found such an end.
-/

namespace ToolGate.Pattern.Automaton

variable {automaton : Automaton} {text : Array Char} {origin : Nat → Prop}

/--
Every way from here to the end of a match is the last part of one from the start of the
automaton, at a place of the text where a match may start.
-/
def OnWay (automaton : Automaton) (text : Array Char) (origin : Nat → Prop)
    (place index : Nat) : Prop :=
  ∀ length j, Leads automaton.steps text length place index j →
    ∃ whole i, origin i ∧ Leads automaton.steps text whole automaton.start i j

theorem onWay_start {index : Nat} (here : origin index) :
    OnWay automaton text origin automaton.start index :=
  fun length _ way => ⟨length, index, here, way⟩

/-- Whatever is entered from places on the way is on the way. -/
theorem enter_onWay {index fuel : Nat} {stack : List Nat} {threads : Threads}
    (entered : ∀ place ∈ stack, OnWay automaton text origin place index)
    (waiting : ∀ place ∈ threads.waiting, OnWay automaton text origin place index) :
    ∀ place ∈ (enter automaton text index fuel stack threads).waiting,
      OnWay automaton text origin place index := by
  induction fuel generalizing stack threads with
  | zero => exact waiting
  | succ fuel ih =>
    cases stack with
    | nil => exact waiting
    | cons place stack =>
      have here := entered place List.mem_cons_self
      have others := fun other member => entered other (List.mem_cons_of_mem place member)
      rw [enter]
      split
      · exact ih others waiting
      · split
        · rename_i first second step
          refine ih ?_ waiting
          simp only [List.mem_cons]
          rintro other (rfl | rfl | member)
          · exact fun length j way => here _ j (.first step way)
          · exact fun length j way => here _ j (.second step way)
          · exact others other member
        · rename_i anchor next step
          refine ih ?_ waiting
          split
          · rename_i holds
            simp only [List.mem_cons]
            rintro other (rfl | member)
            · exact fun length j way => here _ j (.require step holds way)
            · exact others other member
          · exact others
        · refine ih others ?_
          simp only [Array.mem_push]
          rintro other (member | rfl)
          · exact waiting other member
          · exact here
        · exact ih others waiting

theorem enterPlace_onWay {index place : Nat} {threads : Threads}
    (here : OnWay automaton text origin place index)
    (waiting : ∀ place ∈ threads.waiting, OnWay automaton text origin place index) :
    ∀ other ∈ (enterPlace automaton text index place threads).waiting,
      OnWay automaton text origin other index :=
  enter_onWay (by simpa using here) waiting

/-- A thread on the way moves along the way, or ends a match. -/
theorem move_onWay {index : Nat} {places : List Nat} {moved : Threads}
    (here : ∀ place ∈ places, OnWay automaton text origin place index)
    (waiting : ∀ place ∈ moved.waiting, OnWay automaton text origin place (index + 1)) :
    (∀ place ∈ (move automaton text index places moved).1.waiting,
      OnWay automaton text origin place (index + 1)) ∧
    ((move automaton text index places moved).2 = true →
      ∃ length i, origin i ∧ Leads automaton.steps text length automaton.start i index) := by
  induction places generalizing moved with
  | nil => exact ⟨waiting, nofun⟩
  | cons place places ih =>
    have first := here place List.mem_cons_self
    have others := fun other member => here other (List.mem_cons_of_mem place member)
    rw [move]
    split
    · rename_i step
      exact ⟨waiting, fun _ => first 0 index (.accept step)⟩
    · rename_i set next step
      split
      · rename_i member
        refine ih others (enterPlace_onWay (fun length j way => ?_) waiting)
        cases seen : text[index]? with
        | none => rw [seen] at member; cases member
        | some c =>
          rw [seen] at member
          exact first _ j (.consume step seen member way)
      · exact ih others waiting
    · exact ih others waiting

/-- At first there are no threads. -/
theorem forall_mem_noThreads (automaton : Automaton) (property : Nat → Prop) :
    ∀ place ∈ automaton.noThreads.waiting, property place := by
  simp [noThreads]

/-- A round of a search: all threads move, and some may end a match. -/
theorem round_onWay {index : Nat} {threads moved : Threads} {ended : Bool}
    (waiting : ∀ place ∈ threads.waiting, OnWay automaton text origin place index)
    (round : move automaton text index threads.waiting.toList { threads with waiting := #[] } =
      (moved, ended)) :
    (∀ place ∈ moved.waiting, OnWay automaton text origin place (index + 1)) ∧
      (ended = true →
        ∃ length i, origin i ∧ Leads automaton.steps text length automaton.start i index) := by
  have both := move_onWay
    (fun place (member : place ∈ threads.waiting.toList) =>
      waiting place (Array.mem_toList_iff.mp member))
    (show ∀ place ∈ ({ threads with waiting := #[] } : Threads).waiting,
      OnWay automaton text origin place (index + 1) by simp)
  rwa [round] at both

/-- A search that succeeds has found a way from the start to the end of a match. -/
theorem leads_of_search {index : Nat} {threads : Threads}
    (waiting : ∀ place ∈ threads.waiting, OnWay automaton text (fun _ => True) place index)
    (found : search automaton text index threads = true) :
    ∃ length i j, Leads automaton.steps text length automaton.start i j := by
  rw [search] at found
  have here : OnWay automaton text (fun _ => True) automaton.start index := onWay_start trivial
  have entered := enterPlace_onWay here waiting
  split at found
  rename_i moved ended round
  obtain ⟨onward, ending⟩ := round_onWay entered round
  split at found
  · obtain ⟨length, i, _, way⟩ := ending ‹_›
    exact ⟨length, i, index, way⟩
  · split at found
    · exact leads_of_search onward found
    · cases found
termination_by text.size - index

/-- The end that is found when threads are followed is the end of a match. -/
theorem leads_of_follow {index last : Nat} {threads : Threads} {best : Option Nat}
    (waiting : ∀ place ∈ threads.waiting, OnWay automaton text origin place index)
    (before : ∀ j ∈ best,
      ∃ length i, origin i ∧ Leads automaton.steps text length automaton.start i j)
    (found : follow automaton text index threads best = some last) :
    ∃ length i, origin i ∧ Leads automaton.steps text length automaton.start i last := by
  rw [follow] at found
  split at found
  · exact before last found
  · split at found
    rename_i moved ended round
    obtain ⟨onward, ending⟩ := round_onWay waiting round
    have reached : ∀ j ∈ if ended then some index else best,
        ∃ length i, origin i ∧ Leads automaton.steps text length automaton.start i j := by
      intro j member
      split at member
      · cases member
        exact ending ‹_›
      · exact before j member
    simp only at found
    generalize (if ended then some index else best) = reaching at found reached
    split at found
    · exact leads_of_follow onward reached found
    · exact reached last found
termination_by text.size - index

section Node

variable {node : Node} {referenced : List Nat}

/-- A way through the automaton of a node is a part of the text that the node matches. -/
theorem crosses_of_leads {length i j : Nat} (regular : node.isRegular referenced = true)
    (built : ofNode? node = some automaton)
    (way : Leads automaton.steps text length automaton.start i j) :
    Crosses referenced (node.Traverses text) i j := by
  rw [ofNode?] at built
  split at built
  · rename_i fits
    rw [Bool.and_eq_true] at fits
    cases built
    have sound : Sound text (build node) (Crosses referenced (node.Traverses text)) :=
      sound_build node regular fits.1
    obtain ⟨k, left, _, crossed, onward⟩ := sound.leads (fun _ _ _ => rfl) way
    have accepting : (build node 0 #[.accept]).1[0]? = some .accept :=
      sound.keeps 0 #[.accept] 0 Nat.one_pos
    rwa [onward.of_accept accepting]
  · cases built

/-- Where an automaton matches, its node matches a part of the text. -/
theorem crosses_of_matchesIn (regular : node.isRegular referenced = true)
    (built : ofNode? node = some automaton) (found : automaton.matchesIn text = true) :
    ∃ i j, Crosses referenced (node.Traverses text) i j := by
  obtain ⟨length, i, j, way⟩ := leads_of_search (forall_mem_noThreads automaton _) found
  exact ⟨i, j, crosses_of_leads regular built way⟩

/-- What an automaton matches from a place on is matched by its node. -/
theorem crosses_of_matchAt {i j : Nat} (regular : node.isRegular referenced = true)
    (built : ofNode? node = some automaton) (found : automaton.matchAt text i = some j) :
    Crosses referenced (node.Traverses text) i j := by
  have here : OnWay automaton text (· = i) automaton.start i := onWay_start rfl
  have waiting := enterPlace_onWay here (forall_mem_noThreads automaton _)
  obtain ⟨length, _, rfl, way⟩ := leads_of_follow waiting (by simp) found
  exact crosses_of_leads regular built way

end Node

end ToolGate.Pattern.Automaton
