import Mathlib.Data.List.TakeWhile
import ToolGate.Proofs.Pattern.Pasting

/-!
# Blanks and comments of a pasted source

In front of the closing text blanks and comments are as they are in the
source alone, as long as every comment is closed in the source.
-/

namespace ToolGate.Pattern

open Read

theorem suffix_of_afterComment? {text left : List Char} (closed : afterComment? text = some left) :
    left <:+ text := by
  induction text using afterComment?.induct with
  | case1 => cases closed
  | case2 rest =>
      cases closed
      exact List.suffix_cons _ _
  | case3 c rest ih => exact (ih closed).trans ⟨['\\', c], rfl⟩
  | case4 c rest noClose noEscape ih =>
      rw [afterComment?.eq_4 c rest noClose noEscape] at closed
      exact (ih closed).trans (List.suffix_cons _ _)

/-- A comment in parentheses that is closed is the same in a longer text. -/
theorem afterComment?_append_of_closed {text left : List Char}
    (closed : afterComment? text = some left) (more : List Char) :
    afterComment? (text ++ more) = some (left ++ more) := by
  induction text using afterComment?.induct with
  | case1 => cases closed
  | case2 rest =>
      cases closed
      rfl
  | case3 c rest ih => exact ih closed
  | case4 c rest noClose noEscape ih =>
      rw [afterComment?.eq_4 c rest noClose noEscape] at closed
      have noEscapeToo : ∀ head others, c = '\\' → rest ++ more = head :: others → False := by
        intro head others escape split
        cases rest with
        | nil => cases closed
        | cons next rest => exact noEscape next rest escape rfl
      rw [List.cons_append, afterComment?.eq_4 c _ noClose noEscapeToo, ih closed]

/-- A comment in parentheses that is not closed goes on behind its text. -/
theorem suffix_of_unclosed {text more left : List Char} (unclosed : afterComment? text = none)
    (closed : afterComment? (text ++ more) = some left) : left <:+ more := by
  induction text using afterComment?.induct with
  | case1 => exact suffix_of_afterComment? closed
  | case2 rest => cases unclosed
  | case3 c rest ih => exact ih unclosed closed
  | case4 c rest noClose noEscape ih =>
      rw [afterComment?.eq_4 c rest noClose noEscape] at unclosed
      by_cases escape : c = '\\' ∧ ∃ head others, rest ++ more = head :: others
      · obtain ⟨rfl, head, others, split⟩ := escape
        cases rest with
        | cons next rest => exact (noEscape next rest rfl rfl).elim
        | nil =>
            rw [List.nil_append] at split
            subst split
            have closed : afterComment? others = some left := closed
            exact (suffix_of_afterComment? closed).trans (List.suffix_cons _ _)
      · rw [List.cons_append, afterComment?.eq_4 c _ noClose
          fun head others is split => escape ⟨is, head, others, split⟩] at closed
        exact ih unclosed closed

theorem afterBlanks?_cons {verbose : Bool} {fuel : Nat} {c : Char} {rest : List Char}
    (noComment : ¬ ['(', '?', '#'] <+: c :: rest) :
    afterBlanks? verbose (fuel + 1) (c :: rest) =
      if !verbose then some (c :: rest)
      else if c = '#' then
        afterBlanks? verbose fuel ((rest.dropWhile fun c => c != '\n').drop 1)
      else if c = ' ' ∨ c = '\r' ∨ c = '\n' ∨ c = '\t' then afterBlanks? verbose fuel rest
      else some (c :: rest) := by
  refine afterBlanks?.eq_3 verbose fuel c rest ?_
  rintro others rfl rfl
  exact noComment ⟨others, rfl⟩

@[simp]
theorem afterBlanks?_nil {verbose : Bool} {fuel : Nat} :
    afterBlanks? verbose fuel [] = some [] := by
  cases fuel <;> rfl

theorem afterBlanks?_comment {verbose : Bool} {fuel : Nat} {rest : List Char} :
    afterBlanks? verbose (fuel + 1) (['(', '?', '#'] ++ rest) =
      (afterComment? rest).bind (afterBlanks? verbose fuel) :=
  rfl

/-- What stands behind a line comment. -/
theorem suffix_of_lineComment (text : List Char) :
    (text.dropWhile fun c => c != '\n').drop 1 <:+ text :=
  (List.drop_suffix _ _).trans (List.dropWhile_suffix _)

theorem suffix_of_afterBlanks? {verbose : Bool} {fuel : Nat} {text left : List Char}
    (success : afterBlanks? verbose fuel text = some left) : left <:+ text := by
  induction fuel generalizing text with
  | zero => cases success; exact List.suffix_rfl
  | succ fuel ih =>
    by_cases comment : ['(', '?', '#'] <+: text
    · obtain ⟨rest, rfl⟩ := comment
      rw [afterBlanks?_comment] at success
      obtain ⟨inner, closed, success⟩ := Option.bind_eq_some_iff.mp success
      exact ((ih success).trans (suffix_of_afterComment? closed)).trans (List.suffix_append _ _)
    · cases text with
      | nil => cases success.symm.trans afterBlanks?_nil; exact List.suffix_rfl
      | cons c rest =>
        rw [afterBlanks?_cons comment] at success
        split at success
        · cases success; exact List.suffix_rfl
        · split at success
          · exact ((ih success).trans (suffix_of_lineComment rest)).trans (List.suffix_cons _ _)
          · split at success
            · exact (ih success).trans (List.suffix_cons _ _)
            · cases success; exact List.suffix_rfl

/-- Behind a line comment the text goes on, unless the comment is not closed. -/
theorem drop_dropWhile_append (text more : List Char) (apart : '\n' ∉ more) :
    ((text ++ more).dropWhile fun c => c != '\n').drop 1 =
        ((text.dropWhile fun c => c != '\n').drop 1) ++ more ∨
      (text.dropWhile fun c => c != '\n').drop 1 = [] ∧
        ((text ++ more).dropWhile fun c => c != '\n').drop 1 = [] := by
  have none : (more.dropWhile fun c => c != '\n') = [] := by
    rw [List.dropWhile_eq_nil_iff]
    intro c there
    rw [bne_iff_ne]
    exact fun same => apart (same ▸ there)
  rw [List.dropWhile_append]
  split
  · rename_i unclosed
    exact .inr ⟨by rw [List.isEmpty_iff.mp unclosed, List.drop_nil], by rw [none, List.drop_nil]⟩
  · rename_i closed
    rw [List.isEmpty_iff, ← List.length_eq_zero_iff] at closed
    exact .inl (List.drop_append_of_le_length (by omega))

/-- What blanks leave of a text, alone and in front of the closing text. -/
inductive BlanksLeave (text : List Char) : Option (List Char) → Option (List Char) → Prop where
  /-- The same, with the closing text behind it. -/
  | same (left : List Char) : BlanksLeave text (some left) (some (left ++ closing))
  /-- The last comment is not closed and goes on to the end. -/
  | nothing (something : text ≠ []) : BlanksLeave text (some []) (some [])
  /-- A comment in parentheses is not closed and goes on behind the text. -/
  | beyond (pasted : Option (List Char)) (outside : ∀ left, pasted = some left → left <:+ closing) :
      BlanksLeave text none pasted

theorem BlanksLeave.of_suffix {text longer : List Char} {alone pasted : Option (List Char)}
    (leave : BlanksLeave text alone pasted) (suffix : text <:+ longer) :
    BlanksLeave longer alone pasted := by
  cases leave with
  | same left => exact .same left
  | nothing something => exact .nothing fun none => something (List.suffix_nil.mp (none ▸ suffix))
  | beyond pasted outside => exact .beyond pasted outside

theorem afterBlanks?_closing (verbose : Bool) {fuel fuelPasted : Nat} {text : List Char}
    (enough : text.length < fuel) (more : fuel ≤ fuelPasted) :
    BlanksLeave text (afterBlanks? verbose fuel text)
      (afterBlanks? verbose fuelPasted (text ++ closing)) := by
  induction fuel generalizing fuelPasted text with
  | zero => cases enough
  | succ fuel ih =>
    obtain ⟨fuelPasted, rfl⟩ : ∃ n, fuelPasted = n + 1 := ⟨fuelPasted - 1, by omega⟩
    replace more := Nat.le_of_succ_le_succ more
    by_cases comment : ['(', '?', '#'] <+: text
    · obtain ⟨rest, rfl⟩ := comment
      rw [List.append_assoc, afterBlanks?_comment, afterBlanks?_comment]
      cases closed : afterComment? rest with
      | none =>
        refine .beyond _ fun left success => ?_
        obtain ⟨inner, closedLater, success⟩ := Option.bind_eq_some_iff.mp success
        exact (suffix_of_afterBlanks? success).trans (suffix_of_unclosed closed closedLater)
      | some inner =>
        have suffix := suffix_of_afterComment? closed
        have shorter : inner.length < fuel := by
          have := suffix.length_le
          simp only [List.length_append, List.length_cons, List.length_nil] at enough
          omega
        rw [afterComment?_append_of_closed closed closing]
        exact (ih shorter more).of_suffix (suffix.trans (List.suffix_append _ _))
    · cases text with
      | nil =>
        rw [afterBlanks?_nil]
        have : afterBlanks? verbose (fuelPasted + 1) closing = some ([] ++ closing) := by
          cases verbose <;> rfl
        rw [List.nil_append, this]
        exact .same []
      | cons c rest =>
        have commentToo : ¬ ['(', '?', '#'] <+: c :: (rest ++ closing) :=
          mt (@prefix_append_leftOver_iff false _ (c :: rest) (by decide)).mp comment
        have shorter : rest.length < fuel := Nat.lt_of_succ_lt_succ enough
        rw [List.cons_append, afterBlanks?_cons comment, afterBlanks?_cons commentToo]
        split
        · exact .same (c :: rest)
        split
        · rcases drop_dropWhile_append rest closing (by decide) with goesOn | ⟨none, noneToo⟩
          · rw [goesOn]
            have within := suffix_of_lineComment rest
            exact (ih (within.length_le.trans_lt shorter) more).of_suffix
              (within.trans (List.suffix_cons _ _))
          · rw [none, noneToo, afterBlanks?_nil, afterBlanks?_nil]
            exact .nothing (List.cons_ne_nil _ _)
        split
        · exact (ih shorter more).of_suffix (List.suffix_cons _ _)
        · exact .same (c :: rest)

/-- A state from which characters have been taken up to what is left. -/
def ReadState.leaving (left : List Char) (state : ReadState) : ReadState :=
  { state with rest := left, taken := state.taken + (state.rest.length - left.length) }

theorem ReadState.pasted_leaving_closing {state : ReadState} {left : List Char}
    (suffix : left <:+ state.rest) :
    (state.pasted false).leaving (left ++ closing) = (state.leaving left).pasted false := by
  have := suffix.length_le
  simp only [leaving, pasted, Bool.false_eq_true, ↓reduceIte, List.length_append, mk.injEq,
    true_and, and_true]
  omega

theorem ReadState.pasted_leaving_nil (state : ReadState) :
    (state.pasted false).leaving [] = (state.leaving []).pasted true := by
  simp [leaving, pasted, closing]
  omega

/-- Taking blanks leaves what stands behind them. -/
theorem skipBlanks_eq_some_iff {state after : ReadState} :
    skipBlanks state = some ((), after) ↔
      ∃ left, afterBlanks? state.flags.verbose (state.rest.length + 1) state.rest = some left ∧
        after = state.leaving left := by
  rw [skipBlanks, rest_bind, flags_bind]
  cases skipped : afterBlanks? state.flags.verbose (state.rest.length + 1) state.rest with
  | none =>
    constructor
    · intro success
      cases success
    · rintro ⟨_, success, _⟩
      cases success
  | some left =>
    have dropped : left = state.rest.drop (state.rest.length - left.length) :=
      List.suffix_iff_eq_drop.mp (suffix_of_afterBlanks? skipped)
    have run : drop (state.rest.length - left.length) state = some ((), state.leaving left) := by
      rw [ReadState.leaving]
      nth_rewrite 2 [dropped]
      rfl
    constructor
    · intro success
      cases success.symm.trans run
      exact ⟨left, rfl, rfl⟩
    · rintro ⟨_, ⟨⟩, rfl⟩
      exact run

/-- What taking blanks leaves of a source, alone and pasted. -/
theorem ReadState.blanksLeave (state : ReadState) :
    BlanksLeave state.rest
      (afterBlanks? state.flags.verbose (state.rest.length + 1) state.rest)
      (afterBlanks? (state.pasted false).flags.verbose ((state.pasted false).rest.length + 1)
        (state.pasted false).rest) := by
  refine afterBlanks?_closing state.flags.verbose (Nat.lt_succ_self state.rest.length) ?_
  show state.rest.length + 1 ≤ (state.rest ++ closing).length + 1
  rw [List.length_append]
  omega

theorem follows_skipBlanks {mayFail : Prop} : Follows mayFail skipBlanks skipBlanks := by
  intro state swallowed valid result after success
  obtain ⟨left, skipped, rfl⟩ := skipBlanks_eq_some_iff.mp success
  have suffix := suffix_of_afterBlanks? skipped
  have taken : ∃ used, state.rest = used ++ left ∧
      (state.leaving left).taken = state.taken + used.length := by
    obtain ⟨used, split⟩ := suffix
    refine ⟨used, split.symm, ?_⟩
    rw [ReadState.leaving, ← split, List.length_append, Nat.add_sub_cancel]
  cases swallowed with
  | true =>
    obtain rfl : left = [] := List.suffix_nil.mp (valid rfl ▸ suffix)
    refine .inr ⟨true, skipBlanks_eq_some_iff.mpr ⟨[], afterBlanks?_nil, ?_⟩, ?_⟩
    · simp [ReadState.leaving, ReadState.pasted, valid]
    · exact ⟨taken, fun _ => rfl, id, fun clear => by cases clear⟩
  | false =>
    have leave := state.blanksLeave
    rw [skipped] at leave
    generalize together : afterBlanks? (state.pasted false).flags.verbose _ _ = pasted at leave
    cases leave with
    | same =>
      refine .inr ⟨false, skipBlanks_eq_some_iff.mpr ⟨left ++ closing, together, ?_⟩, ?_⟩
      · exact (ReadState.pasted_leaving_closing suffix).symm
      · exact ⟨taken, fun full => (by cases full), id, fun _ full => by cases full⟩
    | nothing something =>
      refine .inr ⟨true, skipBlanks_eq_some_iff.mpr ⟨[], together, ?_⟩, ?_⟩
      · exact state.pasted_leaving_nil.symm
      · exact ⟨taken, fun _ => rfl, fun _ => rfl, fun _ _ => something⟩

end ToolGate.Pattern
