import ToolGate.Proofs.Pattern.Blanks

/-!
# Repetitions of a pasted source

A brace opens a repetition only if bounds and a closing brace follow, and is
a character of its own otherwise.  So it matters here that the pasted
reading fails where the reading of the source alone does: the closing text
must not complete a repetition that the source leaves open.
-/

namespace ToolGate.Pattern

open Read

/--
A reading that goes the same way on the pasted source, and does not get to a closing brace where
the reading of the source alone fails.
-/
structure Retraces {α : Type} (m : Read α) : Prop where
  /-- Where the source is read alone, it is read the same in the longer text. -/
  follows : Follows False m m
  /-- Characters are taken from the front. -/
  shrinks : ∀ {state result after}, m state = some (result, after) → after.rest <:+ state.rest
  /-- Behind the source there is no brace. -/
  braceless : ∀ {state result after}, m state = none →
    m (state.pasted false) = some (result, after) → '\x7d' ∉ after.rest

namespace Retraces

variable {α β : Type} {m : Read α} {k : α → Read β}

theorem bind (first : Retraces m) (next : ∀ result, Retraces (k result)) :
    Retraces (m >>= k) where
  follows := first.follows.bind fun result => (next result).follows
  shrinks success := by
    obtain ⟨middle, between, one, two⟩ := bind_eq_some_iff.mp success
    exact ((next middle).shrinks two).trans (first.shrinks one)
  braceless {state result after} fails success brace := by
    obtain ⟨middle, between, one, two⟩ := bind_eq_some_iff.mp success
    cases alone : m state with
    | none => exact first.braceless alone one (((next middle).shrinks two).subset brace)
    | some reached =>
      obtain ⟨⟨⟩, _⟩ | ⟨swallowed, same, advances⟩ :=
        first.follows state false nofun reached.1 reached.2 alone
      cases one.symm.trans same
      have failsLater : k reached.1 reached.2 = none := by
        rw [← fails]
        show _ = Option.bind (m state) _
        rw [alone]
        rfl
      cases swallowed with
      | false => exact (next reached.1).braceless failsLater two brace
      | true =>
        have := ((next reached.1).shrinks two).subset brace
        cases this

/-- A reading that never fails retraces if it follows. -/
theorem of_total (follows : Follows False m m)
    (shrinks : ∀ {state result after}, m state = some (result, after) → after.rest <:+ state.rest)
    (total : ∀ state, m state ≠ none) : Retraces m where
  follows := follows
  shrinks := shrinks
  braceless fails := absurd fails (total _)

theorem pure (result : α) : Retraces (Pure.pure result : Read α) :=
  of_total (follows_pure result) (by rintro _ _ _ ⟨⟩; exact List.suffix_rfl) nofun

theorem failure : Retraces (Alternative.failure : Read α) where
  follows := follows_failure
  shrinks := nofun
  braceless := nofun

end Retraces

theorem retraces_skipBlanks : Retraces skipBlanks where
  follows := follows_skipBlanks
  shrinks {state _ _} success := by
    obtain ⟨left, skipped, rfl⟩ := skipBlanks_eq_some_iff.mp success
    exact suffix_of_afterBlanks? skipped
  braceless {state result after} fails success brace := by
    obtain ⟨left, skipped, rfl⟩ := skipBlanks_eq_some_iff.mp success
    have leave := state.blanksLeave
    rw [skipped] at leave
    generalize alone : afterBlanks? state.flags.verbose _ state.rest = ahead at leave
    cases leave with
    | same inside => cases fails.symm.trans (skipBlanks_eq_some_iff.mpr ⟨inside, alone, rfl⟩)
    | nothing something => cases brace
    | beyond _ outside =>
      have : '\x7d' ∈ closing := (outside left rfl).subset brace
      simp [closing] at this

theorem retraces_takeWhile {test : Char → Bool} (apart : test ')' = false) :
    Retraces (takeWhile test) :=
  .of_total (follows_takeWhile apart)
    (by rintro _ _ _ ⟨⟩; exact List.drop_suffix _ _)
    nofun

theorem retraces_takeIf {text : String} (apart : ')' ∉ text.toList) : Retraces (takeIf text) := by
  refine .of_total (follows_takeIf apart) ?_ ?_
  · intro state result after success
    by_cases found : text.toList <+: state.rest
    · cases success.symm.trans (takeIf_found found)
      exact List.drop_suffix _ _
    · cases success.symm.trans (takeIf_missing found)
      exact List.suffix_rfl
  · intro state fails
    by_cases found : text.toList <+: state.rest
    · cases fails.symm.trans (takeIf_found found)
    · cases fails.symm.trans (takeIf_missing found)

theorem retraces_readDecimal : Retraces readDecimal := by
  refine (retraces_takeWhile (by decide)).bind fun digits => ?_
  cases decimal? digits with
  | none => exact .failure
  | some value => exact .pure value

/--
A reading that takes a closing brace.  It succeeds on the source alone and on the pasted source,
or on neither, because the closing text offers no brace.
-/
structure Closes {α : Type} (m : Read α) : Prop where
  /-- Where the source is read alone, it is read the same in the longer text. -/
  follows : Follows False m m
  /-- Where the source is not read alone, it is not read in the longer text. -/
  fails : ∀ {state}, m state = none → m (state.pasted false) = none
  /-- A brace must be there. -/
  needs : ∀ {state : ReadState}, '\x7d' ∉ state.rest → m state = none

theorem expect_run (c : Char) (state : ReadState) :
    expect c state = if state.rest.head? = some c then drop 1 state else none := by
  show (if state.rest.head? = some c then drop 1 else failure : Read Unit) state = _
  split <;> rfl

namespace Closes

variable {α β : Type} {m n : Read α} {k : α → Read β}

theorem bind (first : Retraces m) (next : ∀ result, Closes (k result)) : Closes (m >>= k) where
  follows := first.follows.bind fun result => (next result).follows
  fails {state} nothing := by
    rw [Option.eq_none_iff_forall_ne_some]
    rintro ⟨result, after⟩ success
    obtain ⟨middle, between, one, two⟩ := bind_eq_some_iff.mp success
    cases alone : m state with
    | none => cases two.symm.trans ((next middle).needs (first.braceless alone one))
    | some reached =>
      obtain ⟨⟨⟩, _⟩ | ⟨swallowed, same, advances⟩ :=
        first.follows state false nofun reached.1 reached.2 alone
      cases one.symm.trans same
      cases swallowed with
      | true => cases two.symm.trans ((next reached.1).needs List.not_mem_nil)
      | false =>
        have nothingLater : k reached.1 reached.2 = none := by
          rw [← nothing]
          show _ = Option.bind (m state) _
          rw [alone]
          rfl
        cases two.symm.trans ((next reached.1).fails nothingLater)
  needs {state} apart := by
    rw [Option.eq_none_iff_forall_ne_some]
    rintro ⟨result, after⟩ success
    obtain ⟨middle, between, one, two⟩ := bind_eq_some_iff.mp success
    have apartLater : '\x7d' ∉ between.rest := fun there => apart ((first.shrinks one).subset there)
    cases two.symm.trans ((next middle).needs apartLater)

/-- The closing brace itself. -/
theorem brace (result : α) : Closes (do expect '\x7d'; return result) := by
  have run : ∀ state, (do expect '\x7d'; return result : Read α) state =
      if state.rest.head? = some '\x7d' then (do drop 1; return result : Read α) state
      else none := by
    intro state
    show Option.bind (expect '\x7d' state) _ = _
    rw [expect_run]
    split <;> rfl
  refine ⟨(follows_expect _).bind fun _ => follows_pure result, ?_, ?_⟩
  · intro state nothing
    rw [run] at nothing ⊢
    split at nothing
    · cases nothing
    · rename_i other
      refine if_neg ?_
      show ¬ (state.rest ++ closing).head? = some '\x7d'
      cases left : state.rest with
      | nil => decide
      | cons c rest => simpa [left] using other
  · intro state apart
    rw [run, if_neg]
    exact fun there => apart (List.mem_of_mem_head? there)

theorem peek {p : Option Char → Prop} [DecidablePred p]
    (atEnd : p none ↔ p (some ')')) (yes : Closes m) (no : Closes n) :
    Closes (do if p (← peek?) then m else n) := by
  have run : ∀ state, (do if p (← peek?) then m else n) state =
      if p state.rest.head? then m state else n state := by
    intro state
    show (if p state.rest.head? then m else n) state = _
    split <;> rfl
  have agree : ∀ state : ReadState, p (state.pasted false).rest.head? ↔ p state.rest.head? := by
    intro state
    cases left : state.rest with
    | nil => simpa [ReadState.pasted, left, closing] using atEnd.symm
    | cons c rest => simp [ReadState.pasted, left]
  constructor
  · intro state swallowed valid
    refine FollowsAt.peek (fun c rest left => ?_) (fun seen left either => ?_) valid
    · exact follows_ite (fun _ => yes.follows) (fun _ => no.follows) state swallowed valid
    · have same : p seen ↔ p none := by
        rcases either with rfl | rfl
        · exact Iff.rfl
        · exact atEnd.symm
      simp only [same]
      exact follows_ite (fun _ => yes.follows) (fun _ => no.follows) state swallowed valid
  · intro state nothing
    rw [run] at nothing ⊢
    simp only [agree]
    split at nothing
    · rw [if_pos ‹_›]
      exact yes.fails nothing
    · rw [if_neg ‹_›]
      exact no.fails nothing
  · intro state apart
    rw [run]
    split
    · exact yes.needs apart
    · exact no.needs apart

/-- A character inside the source is taken on both sides. -/
theorem take (closes : Closes m) {state : ReadState} {c : Char} {rest : List Char}
    (left : state.rest = c :: rest) (nothing : (drop 1 >>= fun _ => m) state = none) :
    (drop 1 >>= fun _ => m) (state.pasted false) = none := by
  have behind : (⟨(state.pasted false).rest.drop 1, (state.pasted false).taken + 1, state.flags,
        state.groups, state.names, state.referenced, state.numbered⟩ : ReadState) =
      ReadState.pasted false { state with
        rest := state.rest.drop 1, taken := state.taken + 1 } := by
    simp [ReadState.pasted, left, Nat.add_right_comm]
  exact (congrArg m behind).trans (closes.fails nothing)

end Closes

/-- Take the digits of an upper bound, if there are any that fit. -/
def readMost : Read (Option Nat) := do
  let digits := (← rest).takeWhile isDecimal
  match decimal? digits with
  | some most =>
      drop digits.length
      return some most
  | none => return none

theorem retraces_readMost : Retraces readMost := by
  have run : ∀ state : ReadState, readMost state =
      (match decimal? (state.rest.takeWhile isDecimal) with
      | some most => do
          drop (state.rest.takeWhile isDecimal).length
          return some most
      | none => return none : Read (Option Nat)) state := fun _ => rfl
  refine .of_total ?_ ?_ ?_
  · intro state swallowed valid
    refine FollowsAt.rest ?_
    rw [rest_pasted valid]
    simp only [takeWhile_append_leftOver (show isDecimal ')' = false by decide)]
    cases decimal? (state.rest.takeWhile isDecimal) with
    | none => exact follows_pure _ state swallowed valid
    | some most =>
      exact FollowsAt.bind (followsAt_drop (List.takeWhile_prefix _).length_le valid)
        fun _ after swallowedAfter advances => follows_pure _ after swallowedAfter advances.emptied
  · intro state result after success
    rw [run] at success
    generalize decimal? (state.rest.takeWhile isDecimal) = most at success
    cases most with
    | none => cases success; exact List.suffix_rfl
    | some most => cases success; exact List.drop_suffix _ _
  · intro state fails
    rw [run] at fails
    generalize decimal? (state.rest.takeWhile isDecimal) = most at fails
    cases most <;> cases fails

/-- Take the bounds behind the lower one, and the brace that closes them. -/
def readUpperBound (least : Nat) : Read (Nat × Option Nat) := do
  skipBlanks
  let most ←
    if ← takeIf "," then
      skipBlanks
      readMost
    else pure (some least)
  skipBlanks
  expect '\x7d'
  return (least, most)

theorem closes_readUpperBound (least : Nat) : Closes (readUpperBound least) := by
  have last : ∀ most : Option Nat, Closes (do
      skipBlanks
      expect '\x7d'
      return (least, most)) := fun most => .bind retraces_skipBlanks fun _ => .brace _
  refine .bind retraces_skipBlanks fun _ => .bind (retraces_takeIf (by decide)) fun more => ?_
  cases more with
  | false => exact last (some least)
  | true => exact .bind retraces_skipBlanks fun _ => .bind retraces_readMost last

theorem readMost_bind {α : Type} (k : Option Nat → Read α) :
    (readMost >>= k) = (do
      let digits := (← rest).takeWhile isDecimal
      match decimal? digits with
      | some most =>
          drop digits.length
          let most ← pure (some most)
          k most
      | none =>
          let most ← pure none
          k most) := by
  funext state
  show ((match decimal? (state.rest.takeWhile isDecimal) with
      | some most => do
          drop (state.rest.takeWhile isDecimal).length
          return some most
      | none => return none : Read (Option Nat)) >>= k) state =
    (match decimal? (state.rest.takeWhile isDecimal) with
      | some most => do
          drop (state.rest.takeWhile isDecimal).length
          k (some most)
      | none => k none : Read α) state
  cases decimal? (state.rest.takeWhile isDecimal) <;> rfl

theorem readBounds_eq : readBounds = (do
    skipBlanks
    if (← peek?) = some ',' then readUpperBound 0 else readDecimal >>= readUpperBound) := by
  have upper : ∀ least : Nat, readUpperBound least = (do
      skipBlanks
      let most ←
        if ← takeIf "," then
          skipBlanks
          let digits := (← rest).takeWhile isDecimal
          match decimal? digits with
          | some most =>
              drop digits.length
              pure (some most)
          | none => pure none
        else pure (some least)
      skipBlanks
      expect '\x7d'
      return (least, most)) := by
    intro least
    refine bind_congr fun _ => bind_congr fun more => ?_
    cases more with
    | false => rfl
    | true => exact bind_congr fun _ => readMost_bind _
  refine bind_congr fun _ => bind_congr fun next => ?_
  by_cases comma : next = some ','
  · simp only [if_pos comma]
    exact (upper 0).symm
  · simp only [if_neg comma]
    exact bind_congr fun least => (upper least).symm

theorem closes_readBounds : Closes readBounds := by
  rw [readBounds_eq]
  refine .bind retraces_skipBlanks fun _ => .peek (by decide) (closes_readUpperBound 0) ?_
  exact .bind retraces_readDecimal closes_readUpperBound

theorem follows_readRepetition? {mayFail : Prop} :
    Follows mayFail readRepetition? readRepetition? := by
  intro state swallowed valid
  refine FollowsAt.peek (fun c rest left => ?_) (fun seen left either => ?_) valid
  · split
    · exact FollowsAt.take left (follows_pure _) valid
    · exact FollowsAt.take left (follows_pure _) valid
    · exact FollowsAt.take left (follows_pure _) valid
    · refine FollowsAt.get ?_
      cases swallowed with
      | true => cases left.symm.trans (valid rfl)
      | false =>
      have follows : FollowsAt False state false (drop 1 >>= fun _ => readBounds)
          (drop 1 >>= fun _ => readBounds) := FollowsAt.take left closes_readBounds.follows nofun
      cases alone : (drop 1 >>= fun _ => readBounds).run state with
      | none =>
        have pasted : (drop 1 >>= fun _ => readBounds).run (state.pasted false) = none :=
          closes_readBounds.take left alone
        rw [pasted]
        exact follows_pure _ state false valid
      | some reached =>
        obtain ⟨⟨⟩, _⟩ | ⟨swallowedAfter, same, advances⟩ := follows reached.1 reached.2 alone
        have pasted : (drop 1 >>= fun _ => readBounds).run (state.pasted false) =
          some (reached.1, reached.2.pasted swallowedAfter) := same
        rw [pasted]
        rintro _ _ ⟨⟩
        exact .inr ⟨swallowedAfter, rfl, advances⟩
    · exact follows_pure _ state swallowed valid
  · rcases either with rfl | rfl <;> exact follows_pure _ state swallowed valid

end ToolGate.Pattern
