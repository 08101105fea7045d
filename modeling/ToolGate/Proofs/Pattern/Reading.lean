import ToolGate.Proofs.Pattern.Repetitions

/-!
# Every reader inside a longer text

Each reader of patterns, where it succeeds on a source alone, either fails
on the pasted source or reads the same from it.  The lemmas follow the
readers one by one.
-/

namespace ToolGate.Pattern

open Read

variable {mayFail : Prop} {byteLength byteLengthPasted : Nat}

/-! ## Numbers and names -/

theorem follows_readDecimal : Follows mayFail readDecimal readDecimal := by
  refine Follows.bind (follows_takeWhile (by decide)) fun digits => ?_
  cases decimal? digits with
  | none => exact follows_failure
  | some value => exact follows_pure value

/-- A name ends inside the source, because something stands behind it. -/
theorem follows_readName {closing : String} (nonempty : closing.toList ≠ []) :
    Follows mayFail (readName closing) (readName closing) := by
  intro state swallowed valid
  by_cases whole : state.rest.takeWhile isNameChar = state.rest
  · -- nothing is left for the closing text
    intro result after success
    obtain ⟨name, between, taken, success⟩ := bind_eq_some_iff.mp success
    have nothing : between.rest = [] := by
      cases taken
      show state.rest.drop (state.rest.takeWhile isNameChar).length = []
      rw [whole, List.drop_length]
    have missing : ¬ closing.toList <+: between.rest := by
      rw [nothing, List.prefix_nil]
      exact nonempty
    split at success
    · cases success
    · obtain ⟨found, _, tried, success⟩ := bind_eq_some_iff.mp success
      cases tried.symm.trans (takeIf_missing missing)
      cases success
  · refine FollowsAt.bind (followsAt_takeWhile ?_ valid) ?_
    · rw [List.takeWhile_append, if_neg]
      exact fun all => whole ((List.takeWhile_prefix _).eq_of_length all)
    · intro name after swallowedAfter advances
      exact follows_unless (fun _ => follows_takeIf_or_failure (follows_pure _)) after
        swallowedAfter advances.emptied

theorem follows_openGroup : Follows mayFail openGroup openGroup := by
  refine Follows.bind (follows_modify _ fun _ _ _ => rfl) fun _ state swallowed valid => ?_
  exact FollowsAt.get (follows_pure state.groups state swallowed valid)

theorem follows_reference (group : Nat) : Follows mayFail (reference group) (reference group) := by
  intro state swallowed valid
  refine FollowsAt.get (FollowsAt.unless fun _ => ?_)
  exact FollowsAt.bind (followsAt_set rfl rfl valid)
    fun _ after swallowedAfter advances => follows_pure group after swallowedAfter advances.emptied

/-- In a longer text more numbers may refer to groups. -/
theorem follows_readNumberedReference (longer : byteLength ≤ byteLengthPasted) :
    Follows mayFail (readNumberedReference byteLength)
      (readNumberedReference byteLengthPasted) := by
  refine Follows.bind follows_readDecimal fun group => ?_
  by_cases large : byteLength / 2 ≤ group
  · rw [if_pos large]
    exact follows_of_failure fun _ => rfl
  · have : ¬ byteLengthPasted / 2 ≤ group := by omega
    rw [if_neg large, if_neg this]
    refine Follows.bind (follows_modify _ fun _ _ _ => rfl) fun _ => follows_reference group

theorem follows_readRelativeReference (closing : String) :
    Follows mayFail (readRelativeReference closing) (readRelativeReference closing) := by
  intro state swallowed valid
  refine FollowsAt.get (follows_choose (by decide) ?_ ?_ state swallowed valid)
  · refine Follows.bind follows_readDecimal fun distance => follows_unless fun _ => ?_
    exact follows_takeIf_or_failure (follows_reference _)
  · refine follows_takeIf_or_failure (Follows.bind follows_readDecimal fun distance => ?_)
    exact follows_unless fun _ => follows_takeIf_or_failure (follows_reference _)

/-- The names of groups stay the same. -/
theorem groupOf?_pasted (state : ReadState) (swallowed : Bool) (name : String) :
    groupOf? (state.pasted swallowed) name = groupOf? state name :=
  rfl

theorem follows_readNamedReference {closing : String} (nonempty : closing.toList ≠ [])
    (mayBeRelative : Bool) :
    Follows mayFail (readNamedReference closing mayBeRelative)
      (readNamedReference closing mayBeRelative) := by
  intro state swallowed valid
  refine FollowsAt.peek (fun c rest left => ?_) (fun seen _ _ => ?_) valid
  · refine follows_ite (fun _ => follows_readRelativeReference closing) (fun _ => ?_) state
      swallowed valid
    refine Follows.bind (follows_readName nonempty) fun name state swallowed valid => ?_
    refine FollowsAt.get ?_
    rw [groupOf?_pasted]
    cases groupOf? state name with
    | none => exact follows_failure state swallowed valid
    | some group => exact follows_reference group state swallowed valid
  · exact follows_failure state swallowed valid

/-! ## Escapes -/

/-- Digits of a fixed count are digits of the source. -/
theorem fixedDigits_iff (count : Nat) (text : List Char) (swallowed : Bool) :
    (((text ++ leftOver swallowed).take count).length = count ∧
        ((text ++ leftOver swallowed).take count).all isHexDigit = true) ↔
      ((text.take count).length = count ∧ (text.take count).all isHexDigit = true) := by
  by_cases enough : count ≤ text.length
  · rw [List.take_append_of_le_length enough]
  · constructor
    · rintro ⟨full, digits⟩
      cases swallowed with
      | true => simpa [leftOver] using And.intro full digits
      | false =>
        obtain ⟨more, rfl⟩ : ∃ more, count = text.length + (more + 1) :=
          ⟨count - text.length - 1, by omega⟩
        rw [List.take_length_add_append] at digits
        have := List.all_eq_true.mp digits ')' (by simp [leftOver, closing])
        cases this
    · rintro ⟨full, _⟩
      exact absurd (full ▸ List.length_take_le' count text) enough

theorem follows_readHex (count : Nat) : Follows mayFail (readHex count) (readHex count) := by
  intro state swallowed valid
  refine FollowsAt.rest ?_
  rw [rest_pasted valid]
  by_cases fixed : (state.rest.take count).length = count ∧ (state.rest.take count).all isHexDigit
  · have enough : count ≤ state.rest.length := by
      have := List.length_take_le' count state.rest
      omega
    have fixedToo := (fixedDigits_iff count state.rest swallowed).mpr fixed
    simp only [if_pos fixed, if_pos fixedToo]
    rw [List.take_append_of_le_length enough]
    refine FollowsAt.bind (followsAt_drop enough valid) fun _ after swallowedAfter advances => ?_
    refine Follows.bind (follows_pure _) (fun digits => ?_) after swallowedAfter advances.emptied
    cases hexChar? digits with
    | none => exact follows_failure
    | some c => exact follows_pure _
  · have fixedToo := mt (fixedDigits_iff count state.rest swallowed).mp fixed
    simp only [if_neg fixed, if_neg fixedToo]
    refine Follows.bind (follows_expect _) (fun _ => ?_) state swallowed valid
    refine Follows.bind (follows_takeWhile (by decide)) fun digits => follows_unless fun _ => ?_
    refine Follows.bind (follows_expect _) fun _ => Follows.bind (follows_pure _) fun digits => ?_
    cases hexChar? digits with
    | none => exact follows_failure
    | some c => exact follows_pure _

theorem follows_readPropertyName : Follows mayFail readPropertyName readPropertyName := by
  intro state swallowed valid
  refine FollowsAt.rest ?_
  rw [rest_pasted valid]
  match left : state.rest, swallowed with
  | [], _ => exact follows_failure state _ valid
  | c :: rest, true => cases left.symm.trans (valid rfl)
  | c :: rest, false =>
    by_cases brace : c = '\x7b'
    · subst brace
      by_cases whole : rest.takeWhile (fun c => c != '\x7d') = rest
      · -- nothing is left for the closing brace
        intro result after success
        obtain ⟨_, between, dropped, success⟩ := bind_eq_some_iff.mp success
        obtain ⟨_, _, closed, _⟩ := bind_eq_some_iff.mp success
        have nothing : between.rest = [] := by
          cases dropped
          show state.rest.drop _ = []
          rw [left, whole, List.drop_succ_cons, List.drop_length]
        cases closed.symm.trans (expect_eq_none nothing)
      · have stops : ¬ (rest.takeWhile fun c => c != '\x7d').length = rest.length :=
          fun all => whole ((List.takeWhile_prefix _).eq_of_length all)
        show FollowsAt mayFail state false
          (do
            drop ((rest.takeWhile fun c => c != '\x7d').length + 1)
            expect '\x7d'
            pure ('\x7b' :: (rest.takeWhile fun c => c != '\x7d') ++ ['\x7d']))
          (do
            drop (((rest ++ closing).takeWhile fun c => c != '\x7d').length + 1)
            expect '\x7d'
            pure ('\x7b' :: ((rest ++ closing).takeWhile fun c => c != '\x7d') ++ ['\x7d']))
        rw [List.takeWhile_append, if_neg stops]
        have there : (rest.takeWhile fun c => c != '\x7d').length + 1 ≤ state.rest.length := by
          rw [left]
          exact Nat.succ_le_succ (List.takeWhile_prefix _).length_le
        refine FollowsAt.bind (followsAt_drop there valid) fun _ after swallowedAfter advances => ?_
        exact Follows.bind (follows_expect _) (fun _ => follows_pure _) after swallowedAfter
          advances.emptied
    · simp only [List.cons_append]
      exact FollowsAt.take left (follows_pure _) valid

/-- A letter for a property stands before the name of one, or for nothing. -/
theorem follows_readProperty {c : Char} {other : Read Escape}
    (follows : Follows mayFail other other)
    (fails : c = 'p' ∨ c = 'P' → ∀ state, other state = none) :
    Follows mayFail
      (do
        if (c = 'p' ∨ c = 'P') ∧ (← peek?).isSome then
          return .class ('\\' :: c :: (← readPropertyName)) true
        else other)
      (do
        if (c = 'p' ∨ c = 'P') ∧ (← peek?).isSome then
          return .class ('\\' :: c :: (← readPropertyName)) true
        else other) := by
  intro state swallowed valid
  refine FollowsAt.peek (fun next rest left => ?_) (fun seen left _ => ?_) valid
  · refine follows_ite (fun _ => ?_) (fun _ => follows) state swallowed valid
    exact Follows.bind follows_readPropertyName fun _ => follows_pure _
  · by_cases named : c = 'p' ∨ c = 'P'
    · simp only [named, Option.isSome_none, Bool.false_eq_true, and_false, ↓reduceIte]
      exact follows_of_failure (fails named) state swallowed valid
    · have neither : ∀ seen : Option Char, ¬ ((c = 'p' ∨ c = 'P') ∧ seen.isSome = true) :=
        fun _ both => named both.1
      rw [if_neg (neither none), if_neg (neither seen)]
      exact follows state swallowed valid

theorem follows_readPlainEscape (c : Char) :
    Follows mayFail (readPlainEscape c) (readPlainEscape c) := by
  unfold readPlainEscape
  split
  · exact follows_pure _
  · exact follows_pure _
  · exact follows_readHex 2
  · exact follows_readHex 4
  · exact follows_readHex 8
  · refine follows_ite (fun _ => follows_pure _) fun _ => follows_readProperty ?_ ?_
    · cases controlChar? c with
      | some c => exact follows_pure _
      | none => exact follows_ite (fun _ => follows_failure) fun _ => follows_pure _
    · rintro (rfl | rfl) state <;> rfl

theorem follows_readOuterEscape (c : Char) :
    Follows mayFail (readOuterEscape c) (readOuterEscape c) := by
  have backreference : ∀ {closing : String}, closing.toList ≠ [] →
      Follows mayFail (do return Escape.node (.backreference (← readNamedReference closing true)))
        (do return Escape.node (.backreference (← readNamedReference closing true))) :=
    fun nonempty => Follows.bind (follows_readNamedReference nonempty true) fun _ => follows_pure _
  have notBeforeBrace : ∀ node : Node, Follows mayFail
      (do if (← peek?) = some '\x7b' then failure else return Escape.node node)
      (do if (← peek?) = some '\x7b' then failure else return Escape.node node) := by
    intro node state swallowed valid
    refine FollowsAt.peek (fun c rest left => ?_) (fun seen _ either => ?_) valid
    · exact follows_ite (fun _ => follows_failure) (fun _ => follows_pure _) state swallowed valid
    · rw [if_neg (by simp), if_neg (by rcases either with rfl | rfl <;> decide)]
      exact follows_pure _ state swallowed valid
  unfold readOuterEscape
  split
  · refine follows_choose (by decide) (backreference (by decide)) ?_
    exact follows_choose (by decide) (backreference (by decide)) follows_failure
  · exact follows_pure _
  · exact follows_pure _
  · exact notBeforeBrace _
  · exact notBeforeBrace _
  · exact follows_pure _
  · exact follows_pure _
  · exact follows_pure _
  · exact follows_pure _
  · exact follows_readPlainEscape c

theorem follows_readEscape (longer : byteLength ≤ byteLengthPasted) (inClass : Bool) :
    Follows mayFail (readEscape byteLength inClass) (readEscape byteLengthPasted inClass) := by
  intro state swallowed valid
  refine FollowsAt.peek (fun c rest left => ?_) (fun _ _ _ => ?_) valid
  · refine FollowsAt.ite (fun _ => ?_) fun _ => ?_
    · refine follows_ite (fun _ => follows_failure) (fun _ => ?_) state swallowed valid
      exact Follows.bind (follows_readNumberedReference longer) fun _ => follows_pure _
    · refine FollowsAt.take left ?_ valid
      exact follows_ite (fun _ => follows_readPlainEscape c) fun _ => follows_readOuterEscape c
  · exact follows_failure state swallowed valid

/-! ## Atoms -/

theorem follows_classNode (ignoreCase : Bool) (text : List Char) :
    Follows mayFail (classNode ignoreCase text) (classNode ignoreCase text) := by
  unfold classNode
  cases Class.ofText? ignoreCase text with
  | none => exact follows_failure
  | some set => exact follows_pure _

theorem Escape.follows_toNode (escape : Escape) : Follows mayFail escape.toNode escape.toNode := by
  intro state swallowed valid
  refine FollowsAt.flags ?_
  cases escape with
  | literal c folds => exact follows_pure _ state swallowed valid
  | «class» text folds => exact follows_classNode _ text state swallowed valid
  | node other => exact follows_pure _ state swallowed valid

theorem follows_readClassText (longer : byteLength ≤ byteLengthPasted) {fuel fuelPasted : Nat}
    (more : fuel ≤ fuelPasted) (depth : Nat) (text : List Char) :
    Follows mayFail (readClassText byteLength fuel depth text)
      (readClassText byteLengthPasted fuelPasted depth text) := by
  induction fuel generalizing fuelPasted depth text with
  | zero => exact follows_failure
  | succ fuel ih =>
    obtain ⟨fuelPasted, rfl⟩ : ∃ n, fuelPasted = n + 1 := ⟨fuelPasted - 1, by omega⟩
    replace ih := ih (Nat.le_of_succ_le_succ more)
    intro state swallowed valid
    refine FollowsAt.peek (fun c rest left => ?_) (fun _ _ _ => ?_) valid
    · split
      · exact follows_failure state swallowed valid
      · refine FollowsAt.take left ?_ valid
        refine Follows.bind (follows_readEscape longer true) fun escape => ?_
        cases escape with
        | literal c folds => exact ih _ _
        | «class» inner folds => exact ih _ _
        | node other => exact follows_failure
      · exact FollowsAt.take left (ih _ _) valid
      · refine FollowsAt.take left ?_ valid
        exact follows_ite (fun _ => follows_pure _) fun _ => ih _ _
      · exact FollowsAt.take left (ih _ _) valid
    · exact follows_failure state swallowed valid

theorem follows_readClass (longer : byteLength ≤ byteLengthPasted) :
    Follows mayFail (readClass byteLength) (readClass byteLengthPasted) := by
  have body : ∀ start, Follows mayFail
      (do
        let text ← readClassText byteLength ((← rest).length + 1) 0 start
        classNode (← flags).ignoreCase text)
      (do
        let text ← readClassText byteLengthPasted ((← rest).length + 1) 0 start
        classNode (← flags).ignoreCase text) := by
    intro start state swallowed valid
    have more : state.rest.length + 1 ≤ (state.pasted swallowed).rest.length + 1 := by
      rw [rest_pasted valid, List.length_append]
      omega
    refine FollowsAt.rest ?_
    refine Follows.bind (follows_readClassText longer more 0 start) ?_ state swallowed valid
    exact fun text state swallowed valid =>
      FollowsAt.flags (follows_classNode _ text state swallowed valid)
  exact Follows.bind (follows_takeIf (by decide)) fun _ =>
    Follows.bind (follows_takeIf (by decide)) fun _ => body _

/--
Take one atom.  Where nothing is left, the pasted reading finds the parenthesis of the closing
text, which is no atom either.
-/
theorem follows_readAtom (longer : byteLength ≤ byteLengthPasted) {group groupPasted : Read Node}
    (follows : Follows mayFail group groupPasted) :
    Follows mayFail (readAtom byteLength group) (readAtom byteLengthPasted groupPasted) := by
  refine Follows.bind follows_skipBlanks fun _ state swallowed valid => FollowsAt.flags ?_
  refine FollowsAt.peek (fun c rest left => ?_) (fun seen _ either => ?_) valid
  · split
    · exact follows_pure _ state swallowed valid
    · split
      · exact FollowsAt.take left (follows_pure _) valid
      · exact FollowsAt.take left (follows_pure _) valid
      · exact FollowsAt.take left (follows_pure _) valid
      · exact FollowsAt.take left follows valid
      · refine FollowsAt.take left ?_ valid
        exact Follows.bind (follows_readEscape longer false) fun escape => escape.follows_toNode
      · exact FollowsAt.take left (follows_readClass longer) valid
      · refine FollowsAt.ite (fun _ => follows_pure _ state swallowed valid) fun _ => ?_
        exact FollowsAt.take left (follows_pure _) valid
  · rcases either with rfl | rfl <;> exact follows_pure _ state swallowed valid

/-! ## Pieces -/

section Pieces

variable {group groupPasted : Read Node}

theorem follows_readPiece (longer : byteLength ≤ byteLengthPasted)
    (follows : Follows mayFail group groupPasted) :
    Follows mayFail (readPiece byteLength group) (readPiece byteLengthPasted groupPasted) := by
  refine Follows.bind (follows_readAtom longer follows) fun atom => ?_
  refine Follows.bind follows_skipBlanks fun _ => ?_
  refine Follows.bind follows_readRepetition? fun bounds => ?_
  match bounds with
  | none => exact follows_pure _
  | some (least, most) =>
    refine follows_unless fun _ => Follows.bind follows_skipBlanks fun _ => ?_
    refine Follows.bind (follows_takeIf (by decide)) fun reluctant state swallowed valid => ?_
    refine FollowsAt.flags ?_
    exact follows_choose (by decide) (follows_pure _) (follows_pure _) state swallowed valid

/-- Behind its last character a source has no piece. -/
theorem readPiece_eq_of_rest_eq_nil {state : ReadState} (nothing : state.rest = []) :
    readPiece byteLength group state = some (.empty, state) := by
  cases state
  cases nothing
  rfl

/--
Pieces are read as long as there are any.  Each takes a part of the text, so that enough fuel is
left on both sides.
-/
theorem followsAt_readPieces {piece piecePasted : Read Node}
    (idle : ∀ {state : ReadState}, state.rest = [] → piece state = some (.empty, state))
    (follows : Follows mayFail piece piecePasted) {fuel fuelPasted : Nat} {state : ReadState}
    {swallowed : Bool} (enough : state.rest.length < fuel) (more : fuel ≤ fuelPasted)
    (valid : swallowed = true → state.rest = []) :
    FollowsAt mayFail state swallowed (readPieces piece fuel)
      (readPieces piecePasted fuelPasted) := by
  induction fuel generalizing fuelPasted state swallowed with
  | zero => cases enough
  | succ fuel ih =>
    obtain ⟨fuelPasted, rfl⟩ : ∃ n, fuelPasted = n + 1 := ⟨fuelPasted - 1, by omega⟩
    replace more := Nat.le_of_succ_le_succ more
    have goOn : FollowsAt mayFail state swallowed
        (do
          let node ← piece
          if (← get).taken = state.taken then return []
          let nodes ← readPieces piece fuel
          return if node.isEmpty then nodes else node :: nodes)
        (do
          let node ← piecePasted
          if (← get).taken = (state.pasted swallowed).taken then return []
          let nodes ← readPieces piecePasted fuelPasted
          return if node.isEmpty then nodes else node :: nodes) := by
      refine FollowsAt.bind (follows state swallowed valid) ?_
      intro node after swallowedAfter advances
      refine FollowsAt.get ?_
      by_cases stays : after.taken = state.taken
      · rw [if_pos stays, if_pos (advances.taken_pasted_eq_iff.mpr stays)]
        exact follows_pure _ after swallowedAfter advances.emptied
      · rw [if_neg stays, if_neg (mt advances.taken_pasted_eq_iff.mp stays)]
        have left := advances.length_lt stays
        exact FollowsAt.bind (ih (by omega) more advances.emptied)
          fun nodes last swallowedLast onward => follows_pure _ last swallowedLast onward.emptied
    refine FollowsAt.get (FollowsAt.peek (fun c rest left => ?_) (fun seen left either => ?_) valid)
    · exact goOn
    · rcases either with rfl | rfl
      · exact follows_pure _ state swallowed valid
      · -- the pasted reading tries the parenthesis, as the reading alone could try the end
        rintro _ _ ⟨⟩
        refine goOn [] state (bind_eq_some_iff.mpr ⟨.empty, state, idle left, ?_⟩)
        show (if state.taken = state.taken then return [] else _ : Read (List Node)) state = _
        rw [if_pos rfl]
        rfl

theorem follows_readBranch (longer : byteLength ≤ byteLengthPasted)
    (follows : Follows mayFail group groupPasted) :
    Follows mayFail (readBranch byteLength group) (readBranch byteLengthPasted groupPasted) := by
  intro state swallowed valid
  refine FollowsAt.rest (FollowsAt.bind ?_ fun nodes after swallowedAfter advances => ?_)
  · refine followsAt_readPieces readPiece_eq_of_rest_eq_nil (follows_readPiece longer follows)
      (Nat.lt_succ_self _) (Nat.succ_le_succ ?_) valid
    rw [rest_pasted valid, List.length_append]
    omega
  · exact follows_pure _ after swallowedAfter advances.emptied

/-- Branches are read as long as a bar comes next. -/
theorem followsAt_readBranches {branch branchPasted : Read Node}
    (follows : Follows mayFail branch branchPasted) {fuel fuelPasted : Nat} {state : ReadState}
    {swallowed : Bool} (enough : state.rest.length < fuel) (more : fuel ≤ fuelPasted)
    (valid : swallowed = true → state.rest = []) :
    FollowsAt mayFail state swallowed (readBranches branch fuel)
      (readBranches branchPasted fuelPasted) := by
  induction fuel generalizing fuelPasted state swallowed with
  | zero => cases enough
  | succ fuel ih =>
    obtain ⟨fuelPasted, rfl⟩ : ∃ n, fuelPasted = n + 1 := ⟨fuelPasted - 1, by omega⟩
    replace more := Nat.le_of_succ_le_succ more
    refine FollowsAt.bind (follows_skipBlanks state swallowed valid) ?_
    intro _ between swallowedBetween skipped
    have bar : FollowsAt mayFail between swallowedBetween (takeIf "|") (takeIf "|") :=
      follows_takeIf (by decide) between swallowedBetween skipped.emptied
    refine FollowsAt.bind_run bar ?_
    intro found after swallowedAfter taken advances
    cases found with
    | false => exact follows_pure _ after swallowedAfter advances.emptied
    | true =>
      have there : ['|'] <+: between.rest := by
        by_contra missing
        cases taken.symm.trans (takeIf_missing missing)
      have left : after.rest.length < fuel := by
        cases taken.symm.trans (takeIf_found there)
        have := skipped.length_le
        have : 1 ≤ between.rest.length := there.length_le
        show (between.rest.drop 1).length < fuel
        rw [List.length_drop]
        omega
      refine FollowsAt.bind (follows after swallowedAfter advances.emptied) ?_
      intro node onward swallowedOnward further
      have := further.length_le
      exact FollowsAt.bind (ih (by omega) more further.emptied)
        fun nodes last swallowedLast final => follows_pure _ last swallowedLast final.emptied

theorem follows_readExpression (longer : byteLength ≤ byteLengthPasted)
    (follows : Follows mayFail group groupPasted) :
    Follows mayFail (readExpression byteLength group)
      (readExpression byteLengthPasted groupPasted) := by
  have branch := follows_readBranch longer follows
  refine branch.bind fun first state swallowed valid => FollowsAt.rest (FollowsAt.bind ?_ ?_)
  · refine followsAt_readBranches branch (Nat.lt_succ_self _) (Nat.succ_le_succ ?_) valid
    rw [rest_pasted valid, List.length_append]
    omega
  · intro others after swallowedAfter advances
    cases others with
    | nil =>
      refine FollowsAt.get ?_
      exact follows_ite (fun _ => follows_failure) (fun _ => follows_pure _) after swallowedAfter
        advances.emptied
    | cons second others => exact follows_pure _ after swallowedAfter advances.emptied

end Pieces

/-! ## Groups -/

section Groups

variable {expression expressionPasted : Read Node}

theorem follows_closeGroup : Follows mayFail closeGroup closeGroup :=
  Follows.bind follows_skipBlanks fun _ => follows_expect ')'

theorem follows_readInner (follows : Follows mayFail expression expressionPasted)
    (make : Node → Node) :
    Follows mayFail (readInner expression make) (readInner expressionPasted make) :=
  follows.bind fun _ => Follows.bind follows_closeGroup fun _ => follows_pure _

theorem follows_readNamedGroup (follows : Follows mayFail expression expressionPasted) :
    Follows mayFail (readNamedGroup expression) (readNamedGroup expressionPasted) := by
  refine Follows.bind follows_openGroup fun group => ?_
  refine Follows.bind (follows_readName (by decide)) fun name => ?_
  refine Follows.bind (follows_modify _ fun _ _ _ => rfl) fun _ => ?_
  exact follows.bind fun _ => Follows.bind follows_closeGroup fun _ => follows_pure _

/-- The flags of a group begin four characters later in the longer text. -/
theorem follows_readFlagGroup (follows : Follows mayFail expression expressionPasted)
    (start : Nat) (outer : ReadFlags) {fuel fuelPasted : Nat} (more : fuel ≤ fuelPasted)
    (value : Bool) :
    Follows mayFail (readFlagGroup expression start outer fuel value)
      (readFlagGroup expressionPasted (start + 4) outer fuelPasted value) := by
  induction fuel generalizing fuelPasted value with
  | zero => exact follows_failure
  | succ fuel ih =>
    obtain ⟨fuelPasted, rfl⟩ : ∃ n, fuelPasted = n + 1 := ⟨fuelPasted - 1, by omega⟩
    replace ih := fun value => ih (Nat.le_of_succ_le_succ more) value
    refine Follows.bind follows_skipBlanks fun _ state swallowed valid => FollowsAt.get ?_
    refine FollowsAt.peek (fun c rest left => ?_) (fun _ _ _ => ?_) valid
    · cases swallowed with
      | true => cases left.symm.trans (valid rfl)
      | false =>
      have same : (state.pasted false).taken - (start + 4) = state.taken - start :=
        Nat.add_sub_add_right _ _ _
      rw [same]
      split
      · exact follows_failure state false valid
      · exact FollowsAt.unless fun _ => FollowsAt.take left (follows_pure _) valid
      · refine FollowsAt.unless fun _ => FollowsAt.take left (follows.bind fun inner => ?_) valid
        refine Follows.bind (follows_expect _) fun _ => ?_
        exact Follows.bind (follows_modify _ fun _ _ _ => rfl) fun _ => follows_pure _
      · exact FollowsAt.unless fun _ => FollowsAt.take left (ih false) valid
      · rename_i letter _ _ _ _
        cases flagChange? letter value with
        | none => exact follows_failure state false valid
        | some change =>
          have changed : Follows mayFail (setFlags change) (setFlags change) :=
            follows_modify _ fun _ _ _ => rfl
          refine FollowsAt.bind_run (changed state false valid) ?_
          rintro _ after swallowedAfter ⟨⟩ advances
          exact FollowsAt.take left (ih value) advances.emptied
    · exact follows_failure state swallowed valid

theorem follows_readCondition (longer : byteLength ≤ byteLengthPasted)
    (follows : Follows mayFail expression expressionPasted) :
    Follows mayFail (readCondition byteLength expression)
      (readCondition byteLengthPasted expressionPasted) := by
  intro state swallowed valid
  refine FollowsAt.peek (fun c rest left => ?_) (fun _ _ _ => ?_) valid
  · split
    · exact follows_failure state swallowed valid
    · refine FollowsAt.take left ?_ valid
      exact Follows.bind (follows_readNamedReference (by decide) true) fun _ => follows_pure _
    · refine FollowsAt.take left ?_ valid
      exact Follows.bind (follows_readNamedReference (by decide) true) fun _ => follows_pure _
    · refine follows_ite (fun _ => ?_) (fun _ => follows) state swallowed valid
      exact Follows.bind (follows_readNumberedReference longer) fun _ => follows_pure _
  · exact follows_failure state swallowed valid

theorem follows_readChoice (longer : byteLength ≤ byteLengthPasted)
    (follows : Follows mayFail expression expressionPasted) :
    Follows mayFail (readChoice byteLength expression)
      (readChoice byteLengthPasted expressionPasted) := by
  refine Follows.bind (follows_readCondition longer follows) fun condition => ?_
  refine Follows.bind follows_closeGroup fun _ state swallowed valid => FollowsAt.get ?_
  refine FollowsAt.bind (follows state swallowed valid) fun body after swallowedAfter advances => ?_
  refine FollowsAt.get ?_
  refine Follows.bind follows_closeGroup (fun _ => ?_) after swallowedAfter advances.emptied
  by_cases bare : after.taken = state.taken
  · simp only [if_pos bare, if_pos (advances.taken_pasted_eq_iff.mpr bare)]
    cases condition with
    | backreference group => exact follows_pure _
    | _ => exact follows_failure
  · simp only [if_neg bare, if_neg (mt advances.taken_pasted_eq_iff.mp bare)]
    exact follows_ite (fun _ => follows_pure _) fun _ => follows_pure _

/-- Flags must be closed. -/
theorem readFlagGroup_eq_none {start fuel : Nat} {outer : ReadFlags} {value : Bool}
    {state : ReadState} (nothing : state.rest = []) :
    readFlagGroup expression start outer fuel value state = none := by
  cases state
  cases nothing
  cases fuel <;> rfl

/-- Where groups may not nest as deep, the pasted reading may fail. -/
theorem follows_readGroup (longer : byteLength ≤ byteLengthPasted) {depth depthPasted : Nat}
    (lower : depthPasted ≤ depth) :
    Follows True (readGroup byteLength depth) (readGroup byteLengthPasted depthPasted) := by
  induction depth generalizing depthPasted with
  | zero => exact follows_failure
  | succ depth ih =>
    cases depthPasted with
    | zero => exact fun _ _ _ _ _ _ => .inl ⟨trivial, rfl⟩
    | succ depthPasted =>
      have expression : Follows True (readExpression byteLength (readGroup byteLength depth))
          (readExpression byteLengthPasted (readGroup byteLengthPasted depthPasted)) :=
        follows_readExpression longer (ih (Nat.le_of_succ_le_succ lower))
      have inner := fun make => follows_readInner expression make
      have named := follows_readNamedGroup expression
      refine Follows.bind follows_skipBlanks fun _ => ?_
      refine follows_choose (by decide) (inner _) ?_
      refine follows_choose (by decide) (inner _) ?_
      refine follows_choose (by decide) (inner _) ?_
      refine follows_choose (by decide) (inner _) ?_
      refine follows_choose (by decide) named (follows_choose (by decide) named ?_)
      refine follows_choose (by decide) ?_ ?_
      · exact Follows.bind (follows_readNamedReference (by decide) false) fun _ => follows_pure _
      refine follows_choose (by decide) (inner _) ?_
      refine follows_choose (by decide) (follows_readChoice longer expression) ?_
      refine follows_choose (by decide) (fun state swallowed valid => FollowsAt.get ?_) ?_
      · cases swallowed with
        | true =>
          intro result after success
          cases success.symm.trans (readFlagGroup_eq_none (valid rfl))
        | false =>
          have more : state.rest.length + 1 ≤ (state.pasted false).rest.length + 1 := by
            show _ ≤ (state.rest ++ closing).length + 1
            rw [List.length_append]
            omega
          exact follows_readFlagGroup expression state.taken state.flags more true state false valid
      · exact Follows.bind follows_openGroup fun group => inner _

end Groups

end ToolGate.Pattern
