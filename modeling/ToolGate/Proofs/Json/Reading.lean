import ToolGate.Json.Reader
import ToolGate.Proofs.Json.WellFormed

/-!
# What is read is well formed

The reader collects the members of an object by insertion, so no key occurs
twice in what it gives, however often a text repeats one.  The property is
carried through the steps of the reader: each gives a well-formed value if
the steps it calls do.
-/

namespace ToolGate.Json

namespace Reader

variable {α β : Type} {bytes : ByteArray}

/-- Whatever value a step gives has the property. -/
def Yields (property : α → Prop) (result : Result α) : Prop :=
  ∀ value index, result = .ok (value, index) → property value

section Steps

variable {property : α → Prop} {result other : Result α}

theorem yields_ok {value : α} {index : Nat} (holds : property value) :
    Yields property (.ok (value, index)) := by
  rintro _ _ ⟨⟩
  exact holds

theorem yields_error {error : JsonError} : Yields property (.error error : Result α) := by
  rintro _ _ ⟨⟩

theorem yields_true : Yields (fun _ => True) result :=
  fun _ _ _ => trivial

theorem yields_ite {condition : Prop} [Decidable condition]
    (positive : condition → Yields property result)
    (negative : ¬condition → Yields property other) :
    Yields property (if condition then result else other) := by
  by_cases holds : condition
  · rw [if_pos holds]
    exact positive holds
  · rw [if_neg holds]
    exact negative holds

/-- Going on from a step hands over the property of its value. -/
theorem Yields.next {following : β → Prop} {continue_ : α → Nat → Result β}
    (yields : Yields property result)
    (continues : ∀ value index, property value → Yields following (continue_ value index)) :
    Yields following (result.next continue_) := by
  cases result with
  | error error => exact yields_error
  | ok taken =>
      rcases taken with ⟨value, index⟩
      exact continues value index (yields value index rfl)

end Steps

theorem readIdent_wellFormed {value : Json} (formed : value.WellFormed) (name : List UInt8)
    (index : Nat) : Yields WellFormed (readIdent bytes value name index) := by
  induction name generalizing index with
  | nil => exact yields_ok formed
  | cons expected rest ih =>
      rw [readIdent]
      cases bytes[index]? with
      | none => exact yields_error
      | some byte => exact yields_ite (fun _ => ih (index + 1)) fun _ => yields_error

section Containers

variable {read : Nat → Result Json} (reads : ∀ index, Yields WellFormed (read index))
include reads

/-- The elements taken so far are well formed, and so is the array in the end. -/
theorem readElements_wellFormed (fuel : Nat) {taken : List Json}
    (formed : ∀ element ∈ taken, element.WellFormed) (index : Nat) :
    Yields WellFormed (readElements bytes read fuel taken index) := by
  induction fuel generalizing taken index with
  | zero => exact yields_error
  | succ fuel ih =>
      have further : ∀ element index, WellFormed element →
          Yields WellFormed (readElements bytes read fuel (element :: taken) index) :=
        fun element index formedElement =>
          ih (List.forall_mem_cons.mpr ⟨formedElement, formed⟩) index
      rw [readElements]
      cases bytes[skipBlanks bytes index]? with
      | none => exact yields_error
      | some byte =>
          refine yields_ite (fun _ => ?_) fun _ => yields_ite (fun empty => ?_) fun _ =>
            yields_ite (fun _ => yields_error) fun _ => ?_
          · apply yields_ok
            rw [wellFormed_array]
            intro element member
            exact formed element (List.mem_reverse.mp member)
          · rw [List.isEmpty_iff] at empty
            subst empty
            exact (reads _).next further
          · dsimp only
            split
            · exact yields_error
            · exact yields_ite (fun _ => yields_error) fun _ => (reads _).next further

theorem readMember_wellFormed (index : Nat) :
    Yields (fun member => member.2.WellFormed) (readMember bytes read index) := by
  rw [readMember]
  refine yields_true.next ?_
  intro key index _
  dsimp only
  split
  · exact yields_error
  · exact yields_ite (fun _ => yields_error) fun _ =>
      (reads _).next fun value index formed => yields_ok formed

/-- The members taken so far are well formed, and collected they have distinct keys. -/
theorem readMembers_wellFormed (fuel : Nat) {taken : List (String × Json)}
    (formed : ∀ member ∈ taken, member.2.WellFormed) (index : Nat) :
    Yields WellFormed (readMembers bytes read fuel taken index) := by
  induction fuel generalizing taken index with
  | zero => exact yields_error
  | succ fuel ih =>
      have further : ∀ (member : String × Json) index, member.2.WellFormed →
          Yields WellFormed (readMembers bytes read fuel (member :: taken) index) :=
        fun member index formedMember =>
          ih (List.forall_mem_cons.mpr ⟨formedMember, formed⟩) index
      rw [readMembers]
      cases bytes[skipBlanks bytes index]? with
      | none => exact yields_error
      | some byte =>
          refine yields_ite (fun _ => ?_) fun _ => yields_ite (fun empty => ?_) fun _ =>
            yields_ite (fun _ => yields_error) fun _ => ?_
          · apply yields_ok
            refine wellFormed_object.mpr ⟨Entries.distinct_ofList _, ?_⟩
            intro member inside
            exact formed member (List.mem_reverse.mp (Entries.mem_of_mem_ofList inside))
          · rw [List.isEmpty_iff] at empty
            subst empty
            exact yields_ite (fun _ => yields_error) fun _ =>
              (readMember_wellFormed reads _).next further
          · dsimp only
            split
            · exact yields_error
            · exact yields_ite (fun _ => yields_error) fun _ =>
                yields_ite (fun _ => yields_error) fun _ =>
                  (readMember_wellFormed reads _).next further

end Containers

/-- The value of a step is well formed, whatever depth is left. -/
theorem readValue_wellFormed (depth index : Nat) :
    Yields WellFormed (readValue bytes depth index) := by
  induction depth using Nat.strongRecOn generalizing index with
  | ind depth ih =>
      have number : ∀ negative index, Yields WellFormed
          ((readNumber bytes negative index).next fun n index => .ok (.number n, index)) :=
        fun _ _ => yields_true.next fun n _ _ => yields_ok (wellFormed_number n)
      rw [readValue.eq_def]
      dsimp only
      split
      · exact yields_error
      · refine yields_ite (fun _ => readIdent_wellFormed wellFormed_null _ _) fun _ =>
          yields_ite (fun _ => readIdent_wellFormed (wellFormed_bool true) _ _) fun _ =>
          yields_ite (fun _ => readIdent_wellFormed (wellFormed_bool false) _ _) fun _ =>
          yields_ite (fun _ => number _ _) fun _ =>
          yields_ite (fun _ => number _ _) fun _ =>
          yields_ite (fun _ => yields_true.next fun text _ _ => yields_ok (wellFormed_string text))
            fun _ => yields_ite (fun _ => ?_) fun _ => yields_error
        -- only containers use up depth
        cases depth with
        | zero => exact yields_error
        | succ depth =>
            have reads := ih depth (Nat.lt_succ_self depth)
            exact yields_ite (fun _ => readElements_wellFormed reads _ (by simp) _) fun _ =>
              readMembers_wellFormed reads _ (by simp) _

end Reader

/-- Every value that is read from a text is well formed. -/
theorem read_wellFormed {text : String} {value : Json} (accepted : read text = .ok value) :
    value.WellFormed := by
  cases result : Reader.readValue text.toUTF8 maxDepth 0 with
  | error error => simp only [read, result, bind, Except.bind, reduceCtorEq] at accepted
  | ok taken =>
      rcases taken with ⟨other, index⟩
      have formed := Reader.readValue_wellFormed maxDepth 0 other index result
      simp only [read, result, bind, Except.bind] at accepted
      split at accepted
      · cases accepted
      · cases accepted
        exact formed

end ToolGate.Json
