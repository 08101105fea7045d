import Mathlib.Data.List.Basic
import ToolGate.Pattern.Reader

/-!
# Reading a source inside a longer text

A source is read twice: alone, and pasted between an opening and a closing
text.  As long as the reading of the source alone succeeds, the pasted
reading goes the same way, with the closing text left over.  There is one
exception: a comment that the source does not close runs over the closing
text, and then nothing is left.  The pasted reading may also fail, where it
may not nest as deep; it never reads the source as something else.

This module compares single steps; they compose.
-/

namespace ToolGate.Pattern

/-- What stands behind a pasted source. -/
def closing : List Char := [')', '$']

/--
The state of the pasted reading that goes with a state of the reading alone.
Four characters stand before the source; the closing text is left, unless it
has been swallowed by a comment.
-/
def ReadState.pasted (swallowed : Bool) (state : ReadState) : ReadState :=
  { state with
    rest := if swallowed then [] else state.rest ++ closing
    taken := state.taken + if swallowed then 6 else 4 }

/-- What is left of the closing text. -/
def leftOver (swallowed : Bool) : List Char :=
  if swallowed then [] else closing

theorem rest_pasted {state : ReadState} {swallowed : Bool}
    (valid : swallowed = true → state.rest = []) :
    (state.pasted swallowed).rest = state.rest ++ leftOver swallowed := by
  cases swallowed with
  | false => rfl
  | true => simp [ReadState.pasted, leftOver, valid]

/-- A reading goes on from one state to another, beside a pasted one. -/
structure Advances (before : ReadState) (swallowedBefore : Bool)
    (after : ReadState) (swallowed : Bool) : Prop where
  /-- Characters are taken from the front. -/
  taken : ∃ used, before.rest = used ++ after.rest ∧ after.taken = before.taken + used.length
  /-- The closing text is swallowed only at the end of the source. -/
  emptied : swallowed = true → after.rest = []
  /-- What has been swallowed stays so. -/
  kept : swallowedBefore = true → swallowed = true
  /-- The closing text is swallowed only together with a part of the source. -/
  noticed : swallowedBefore = false → swallowed = true → before.rest ≠ []

namespace Advances

variable {first second third : ReadState} {s t u : Bool}

theorem refl (valid : s = true → first.rest = []) : Advances first s first s where
  taken := ⟨[], rfl, rfl⟩
  emptied := valid
  kept := id
  noticed := fun clear swallowed => by rw [clear] at swallowed; cases swallowed

theorem trans (one : Advances first s second t) (two : Advances second t third u) :
    Advances first s third u where
  taken := by
    obtain ⟨used, split, count⟩ := one.taken
    obtain ⟨more, splitMore, countMore⟩ := two.taken
    refine ⟨used ++ more, ?_, ?_⟩
    · rw [split, splitMore, List.append_assoc]
    · rw [countMore, count, List.length_append, Nat.add_assoc]
  emptied := two.emptied
  kept := two.kept ∘ one.kept
  noticed := by
    intro clear swallowed nothing
    obtain ⟨used, split, _⟩ := one.taken
    rw [nothing] at split
    have nothingLeft : second.rest = [] := (List.append_eq_nil_iff.mp split.symm).2
    cases t with
    | true => exact one.noticed clear rfl nothing
    | false => exact two.noticed rfl swallowed nothingLeft

theorem length_le (advances : Advances first s second t) :
    second.rest.length ≤ first.rest.length := by
  obtain ⟨used, split, _⟩ := advances.taken
  rw [split, List.length_append]
  exact Nat.le_add_left _ _

/-- Where anything has been taken, less is left. -/
theorem length_lt (advances : Advances first s second t) (moved : second.taken ≠ first.taken) :
    second.rest.length < first.rest.length := by
  obtain ⟨used, split, count⟩ := advances.taken
  have : used.length ≠ 0 := fun none => moved (by rw [count, none, Nat.add_zero])
  rw [split, List.length_append]
  omega

/-- The pasted reading stands still exactly where the reading alone does. -/
theorem taken_pasted_eq_iff (advances : Advances first s second t) :
    (second.pasted t).taken = (first.pasted s).taken ↔ second.taken = first.taken := by
  obtain ⟨used, split, count⟩ := advances.taken
  match s, t with
  | true, true => simp [ReadState.pasted]
  | false, false => simp [ReadState.pasted]
  | true, false => cases advances.kept rfl
  | false, true =>
      have nonempty : used ≠ [] := by
        rintro rfl
        rw [advances.emptied rfl] at split
        exact advances.noticed rfl rfl split
      have := List.length_pos_iff.mpr nonempty
      simp only [ReadState.pasted, Bool.false_eq_true, ↓reduceIte]
      omega

end Advances

/-! ## Readings side by side -/

section Follows

variable {α β : Type} {m m' : Read α} {k k' : α → Read β} {state : ReadState} {swallowed : Bool}

/-- From a state on, where `m` succeeds the pasted `m'` gives the same, or fails if it may. -/
def FollowsAt (mayFail : Prop) (state : ReadState) (swallowed : Bool) (m m' : Read α) : Prop :=
  ∀ result after, m state = some (result, after) →
    mayFail ∧ m' (state.pasted swallowed) = none ∨
      ∃ swallowedAfter, m' (state.pasted swallowed) = some (result, after.pasted swallowedAfter) ∧
        Advances state swallowed after swallowedAfter

/-- Where `m` succeeds the pasted `m'` gives the same, or fails if it may. -/
def Follows (mayFail : Prop) (m m' : Read α) : Prop :=
  ∀ state swallowed, (swallowed = true → state.rest = []) → FollowsAt mayFail state swallowed m m'

variable {mayFail : Prop}

theorem bind_eq_some_iff {result : β} {after : ReadState} :
    (m >>= k) state = some (result, after) ↔
      ∃ middle between, m state = some (middle, between) ∧
        k middle between = some (result, after) := by
  show Option.bind (m state) (fun pair => k pair.1 pair.2) = _ ↔ _
  rw [Option.bind_eq_some_iff, Prod.exists]

theorem bind_eq {middle : α} {between : ReadState} (one : m state = some (middle, between)) :
    (m >>= k) state = k middle between := by
  show Option.bind (m state) _ = _
  rw [one]
  rfl

theorem bind_eq_none (fails : m state = none) : (m >>= k) state = none := by
  show Option.bind (m state) _ = _
  rw [fails]
  rfl

theorem rest_bind {k : List Char → Read β} : (Read.rest >>= k) state = k state.rest state :=
  rfl

theorem flags_bind {k : ReadFlags → Read β} : (Read.flags >>= k) state = k state.flags state :=
  rfl

theorem FollowsAt.bind_run (first : FollowsAt mayFail state swallowed m m')
    (next : ∀ result after swallowedAfter, m state = some (result, after) →
      Advances state swallowed after swallowedAfter →
      FollowsAt mayFail after swallowedAfter (k result) (k' result)) :
    FollowsAt mayFail state swallowed (m >>= k) (m' >>= k') := by
  intro result after success
  obtain ⟨middle, between, one, two⟩ := bind_eq_some_iff.mp success
  rcases first middle between one with ⟨may, failed⟩ | ⟨swallowedBetween, oneToo, advances⟩
  · exact .inl ⟨may, bind_eq_none failed⟩
  · rw [bind_eq oneToo]
    rcases next middle between swallowedBetween one advances result after two with
      failed | ⟨swallowedAfter, twoToo, advancesToo⟩
    · exact .inl failed
    · exact .inr ⟨swallowedAfter, twoToo, advances.trans advancesToo⟩

theorem FollowsAt.bind (first : FollowsAt mayFail state swallowed m m')
    (next : ∀ result after swallowedAfter, Advances state swallowed after swallowedAfter →
      FollowsAt mayFail after swallowedAfter (k result) (k' result)) :
    FollowsAt mayFail state swallowed (m >>= k) (m' >>= k') :=
  first.bind_run fun result after swallowedAfter _ => next result after swallowedAfter

theorem Follows.bind (first : Follows mayFail m m')
    (next : ∀ result, Follows mayFail (k result) (k' result)) :
    Follows mayFail (m >>= k) (m' >>= k') := fun state swallowed valid =>
  FollowsAt.bind (first state swallowed valid) fun result after swallowedAfter advances =>
    next result after swallowedAfter advances.emptied

theorem follows_pure (result : α) : Follows mayFail (pure result : Read α) (pure result) := by
  rintro state swallowed valid _ _ success
  cases success
  exact .inr ⟨swallowed, rfl, .refl valid⟩

/-- Where the reading alone fails, the pasted one may do anything. -/
theorem follows_of_failure (fails : ∀ state, m state = none) : Follows mayFail m m' := by
  intro state swallowed _ result after success
  rw [fails] at success
  cases success

theorem follows_failure : Follows mayFail (failure : Read α) m' :=
  follows_of_failure fun _ => rfl

theorem FollowsAt.ite {p : Prop} [Decidable p] {n n' : Read α}
    (yes : p → FollowsAt mayFail state swallowed m m')
    (no : ¬ p → FollowsAt mayFail state swallowed n n') :
    FollowsAt mayFail state swallowed (if p then m else n) (if p then m' else n') := by
  split
  · exact yes ‹_›
  · exact no ‹_›

theorem follows_ite {p : Prop} [Decidable p] {n n' : Read α}
    (yes : p → Follows mayFail m m') (no : ¬ p → Follows mayFail n n') :
    Follows mayFail (if p then m else n) (if p then m' else n') :=
  fun state swallowed valid =>
    FollowsAt.ite (yes · state swallowed valid) (no · state swallowed valid)

/-- A condition that must not hold is checked before a reading goes on. -/
theorem FollowsAt.unless {p : Prop} [Decidable p] {k k' : Unit → Read α}
    (next : ¬ p → FollowsAt mayFail state swallowed (k ()) (k' ())) :
    FollowsAt mayFail state swallowed (if p then failure >>= k else k ())
      (if p then failure >>= k' else k' ()) := by
  refine FollowsAt.ite (fun _ => ?_) next
  rintro _ _ ⟨⟩

theorem follows_unless {p : Prop} [Decidable p] {k k' : Unit → Read α}
    (next : ¬ p → Follows mayFail (k ()) (k' ())) :
    Follows mayFail (if p then failure >>= k else k ()) (if p then failure >>= k' else k' ()) :=
  fun state swallowed valid => FollowsAt.unless (next · state swallowed valid)

/-- Both readings may look at their states. -/
theorem FollowsAt.get {k k' : ReadState → Read α}
    (next : FollowsAt mayFail state swallowed (k state) (k' (state.pasted swallowed))) :
    FollowsAt mayFail state swallowed (get >>= k) (get >>= k') :=
  next

/-- Both readings are under the same flags. -/
theorem FollowsAt.flags {k k' : ReadFlags → Read α}
    (next : FollowsAt mayFail state swallowed (k state.flags) (k' state.flags)) :
    FollowsAt mayFail state swallowed (Read.flags >>= k) (Read.flags >>= k') :=
  next

/-- A change that concerns neither the text nor the place in it. -/
theorem followsAt_set {changed : ReadState} (text : changed.rest = state.rest)
    (place : changed.taken = state.taken) (valid : swallowed = true → state.rest = []) :
    FollowsAt mayFail state swallowed (set changed) (set (changed.pasted swallowed)) := by
  rintro _ _ ⟨⟩
  refine .inr ⟨swallowed, rfl, ⟨[], text.symm, place⟩, fun full => text.trans (valid full), id, ?_⟩
  exact fun clear full => by rw [clear] at full; cases full

/-- A change that is the same wherever the state stands. -/
theorem follows_modify (change : ReadState → ReadState)
    (apart : ∀ state rest taken,
      change { state with rest, taken } = { change state with rest, taken }) :
    Follows mayFail (modify change : Read Unit) (modify change) := by
  intro state swallowed valid
  have kept : change state = { change state with rest := state.rest, taken := state.taken } :=
    apart state state.rest state.taken
  have text : (change state).rest = state.rest := by rw [kept]
  have place : (change state).taken = state.taken := by rw [kept]
  have pasted : change (state.pasted swallowed) = (change state).pasted swallowed := by
    rw [ReadState.pasted, apart, kept]
    rfl
  have next : FollowsAt mayFail state swallowed (set (change state))
      (set ((change state).pasted swallowed)) := followsAt_set text place valid
  rw [← pasted] at next
  exact next

end Follows

/-! ## Characters -/

section Characters

variable {mayFail : Prop} {α : Type} {k k' : Option Char → Read α} {state : ReadState}
  {swallowed : Bool}

open Read

/-- Both readings may look at the text that is left. -/
theorem FollowsAt.rest {k k' : List Char → Read α}
    (next : FollowsAt mayFail state swallowed (k state.rest) (k' (state.pasted swallowed).rest)) :
    FollowsAt mayFail state swallowed (rest >>= k) (rest >>= k') :=
  next

/-- Inside the source both readings see one character; at its end one may see the closing text. -/
theorem FollowsAt.peek
    (inside : ∀ c rest, state.rest = c :: rest →
      FollowsAt mayFail state swallowed (k (some c)) (k' (some c)))
    (atEnd : ∀ seen, state.rest = [] → seen = none ∨ seen = some ')' →
      FollowsAt mayFail state swallowed (k none) (k' seen))
    (valid : swallowed = true → state.rest = []) :
    FollowsAt mayFail state swallowed (peek? >>= k) (peek? >>= k') := by
  have next : FollowsAt mayFail state swallowed (k state.rest.head?)
      (k' (state.pasted swallowed).rest.head?) := by
    match left : state.rest, swallowed with
    | c :: more, false => simpa [ReadState.pasted, left] using inside c more left
    | c :: more, true => rw [valid rfl] at left; cases left
    | [], false => simpa [ReadState.pasted, left, closing] using atEnd (some ')') left (.inr rfl)
    | [], true => simpa [ReadState.pasted, left] using atEnd none left (.inl rfl)
  exact next

theorem followsAt_drop {count : Nat} (there : count ≤ state.rest.length)
    (valid : swallowed = true → state.rest = []) :
    FollowsAt mayFail state swallowed (drop count) (drop count) := by
  rintro _ _ ⟨⟩
  refine .inr ⟨swallowed, ?_, ?_⟩
  · cases swallowed with
    | false =>
        show some ((), _) = some ((), _)
        simp [ReadState.pasted, List.drop_append_of_le_length there, Nat.add_right_comm]
    | true =>
        show some ((), _) = some ((), _)
        simp [ReadState.pasted, Nat.add_right_comm]
  · refine ⟨⟨state.rest.take count, ?_, ?_⟩, ?_, id, ?_⟩
    · exact (List.take_append_drop count state.rest).symm
    · rw [List.length_take_of_le there]
    · intro full
      show state.rest.drop count = []
      rw [valid full, List.drop_nil]
    · intro clear full
      rw [clear] at full
      cases full

/-- A character that has been seen is taken. -/
theorem FollowsAt.take {k k' : Unit → Read α} {c : Char} {rest : List Char}
    (left : state.rest = c :: rest) (next : Follows mayFail (k ()) (k' ()))
    (valid : swallowed = true → state.rest = []) :
    FollowsAt mayFail state swallowed (drop 1 >>= k) (drop 1 >>= k') :=
  FollowsAt.bind (followsAt_drop (by simp [left]) valid)
    fun _ after swallowedAfter advances => next after swallowedAfter advances.emptied

/-- A text without a parenthesis does not reach into the closing text. -/
theorem prefix_append_leftOver_iff {text rest : List Char} (apart : ')' ∉ text) :
    text <+: rest ++ leftOver swallowed ↔ text <+: rest := by
  refine ⟨fun found => ?_, fun found => found.trans (List.prefix_append _ _)⟩
  rcases List.prefix_or_prefix_of_prefix found (List.prefix_append rest _) with
    inside | ⟨more, rfl⟩
  · exact inside
  · obtain ⟨others, split⟩ := (List.prefix_append_right_inj rest).mp found
    match swallowed, more with
    | true, _ => simp [leftOver] at split; simp [split]
    | false, [] => simp
    | false, c :: _ =>
        obtain ⟨rfl, _⟩ := List.cons.inj split
        simp at apart

theorem followsAt_takeIf_found {text : String} (found : text.toList <+: state.rest)
    (valid : swallowed = true → state.rest = []) :
    FollowsAt mayFail state swallowed (takeIf text) (takeIf text) := by
  refine FollowsAt.rest ?_
  have foundToo : text.toList <+: (state.pasted swallowed).rest := by
    rw [rest_pasted valid]
    exact found.trans (List.prefix_append _ _)
  rw [if_pos (List.isPrefixOf_iff_prefix.mpr found),
    if_pos (List.isPrefixOf_iff_prefix.mpr foundToo)]
  exact FollowsAt.bind (followsAt_drop found.length_le valid)
    fun _ after swallowedAfter advances => follows_pure _ after swallowedAfter advances.emptied

theorem takeIf_found {text : String} (found : text.toList <+: state.rest) :
    takeIf text state =
      some (true, { state with
        rest := state.rest.drop text.toList.length
        taken := state.taken + text.toList.length }) := by
  show (if _ then _ else _ : Read Bool) state = _
  rw [if_pos (List.isPrefixOf_iff_prefix.mpr found)]
  rfl

theorem takeIf_missing {text : String} (missing : ¬ text.toList <+: state.rest) :
    takeIf text state = some (false, state) := by
  have : text.toList.isPrefixOf state.rest = false := by
    rwa [← Bool.not_eq_true, List.isPrefixOf_iff_prefix]
  show (if _ then _ else _ : Read Bool) state = _
  rw [if_neg (by rw [this]; exact Bool.false_ne_true)]
  rfl

theorem follows_takeIf {text : String} (apart : ')' ∉ text.toList) :
    Follows mayFail (takeIf text) (takeIf text) := by
  intro state swallowed valid
  by_cases found : text.toList <+: state.rest
  · exact followsAt_takeIf_found found valid
  · intro result after success
    have missing : ¬ text.toList <+: (state.pasted swallowed).rest := by
      rwa [rest_pasted valid, prefix_append_leftOver_iff apart]
    rw [takeIf_missing found] at success
    cases success
    exact .inr ⟨swallowed, takeIf_missing missing, .refl valid⟩

/-- Both readings take the same way at a text that may come next. -/
theorem follows_choose {text : String} (apart : ')' ∉ text.toList) {m m' n n' : Read α}
    (yes : Follows mayFail m m') (no : Follows mayFail n n') :
    Follows mayFail (takeIf text >>= fun found => if found then m else n)
      (takeIf text >>= fun found => if found then m' else n') :=
  Follows.bind (follows_takeIf apart) fun _ => follows_ite (fun _ => yes) fun _ => no

/-- A text that must come next comes inside the source. -/
theorem follows_takeIf_or_failure {text : String} {m m' : Read α} (next : Follows mayFail m m') :
    Follows mayFail (takeIf text >>= fun found => if found then m else failure)
      (takeIf text >>= fun found => if found then m' else failure) := by
  intro state swallowed valid
  by_cases found : text.toList <+: state.rest
  · exact FollowsAt.bind (followsAt_takeIf_found found valid)
      fun _ after swallowedAfter advances =>
        follows_ite (fun _ => next) (fun _ => follows_failure) after swallowedAfter
          advances.emptied
  · intro result after success
    have missing : (takeIf text >>= fun found => if found then m else failure) state = none := by
      show Option.bind (takeIf text state) _ = none
      rw [takeIf_missing found]
      rfl
    rw [missing] at success
    cases success

theorem follows_expect (c : Char) : Follows mayFail (expect c) (expect c) := by
  intro state swallowed valid
  refine FollowsAt.peek ?_ ?_ valid
  · intro next more left
    by_cases same : some next = some c
    · rw [if_pos same]
      exact followsAt_drop (by rw [left]; simp) valid
    · rw [if_neg same]
      exact follows_failure state swallowed valid
  · intro seen left _
    exact follows_failure state swallowed valid

/-- Nothing can be expected at the end. -/
theorem expect_eq_none {c : Char} (nothing : state.rest = []) : expect c state = none := by
  show (if state.rest.head? = some c then drop 1 else failure : Read Unit) state = none
  rw [nothing, if_neg (by simp)]
  rfl

/-- Leading characters of a kind, where the pasted text does not offer more of them. -/
theorem followsAt_takeWhile {test : Char → Bool}
    (same : (state.rest ++ leftOver swallowed).takeWhile test = state.rest.takeWhile test)
    (valid : swallowed = true → state.rest = []) :
    FollowsAt mayFail state swallowed (takeWhile test) (takeWhile test) := by
  refine FollowsAt.rest ?_
  rw [rest_pasted valid, same]
  exact FollowsAt.bind (followsAt_drop (List.takeWhile_prefix test).length_le valid)
    fun _ after swallowedAfter advances => follows_pure _ after swallowedAfter advances.emptied

/-- A kind without the parenthesis does not reach into the closing text. -/
theorem takeWhile_append_leftOver {test : Char → Bool} (apart : test ')' = false)
    (text : List Char) : (text ++ leftOver swallowed).takeWhile test = text.takeWhile test := by
  have stops : (leftOver swallowed).takeWhile test = [] := by
    cases swallowed <;> simp [leftOver, closing, apart]
  rw [List.takeWhile_append, stops, List.append_nil]
  split
  · rename_i whole
    exact ((List.takeWhile_prefix test).eq_of_length whole).symm
  · rfl

theorem follows_takeWhile {test : Char → Bool} (apart : test ')' = false) :
    Follows mayFail (takeWhile test) (takeWhile test) :=
  fun state _ valid => followsAt_takeWhile (takeWhile_append_leftOver apart state.rest) valid

end Characters

end ToolGate.Pattern
