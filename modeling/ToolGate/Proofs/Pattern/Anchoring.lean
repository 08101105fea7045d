import ToolGate.Proofs.Pattern.Reading
import ToolGate.Pattern

/-!
# Sources between anchors

A source is put between an anchor and an opening group on one side and the
end of that group and another anchor on the other.  If the source is an
expression by itself, then the whole is read as that expression between two
anchors, or it is not read at all.
-/

namespace ToolGate.Pattern

open Read

/-! ## Reading the wrapper -/

section Wrapper

variable {α β : Type} {m : Read α} {k : α → Read β} {state between : ReadState}

/-- Text that begins neither with a comment nor, where blanks do not count, with a blank. -/
theorem skipBlanks_of_plain (terse : state.flags.verbose = false)
    (noComment : ¬ ['(', '?', '#'] <+: state.rest) : skipBlanks state = some ((), state) := by
  refine skipBlanks_eq_some_iff.mpr ⟨state.rest, ?_, ?_⟩
  · rw [terse]
    cases left : state.rest with
    | nil => rfl
    | cons c rest =>
      rw [left] at noComment
      exact afterBlanks?_cons noComment
  · simp [ReadState.leaving]

variable {byteLength depth taken : Nat} {group : Read Node} {rest : List Char}

/-- The first piece of an anchored source. -/
theorem readPiece_startText :
    readPiece byteLength group { rest := '^' :: '(' :: '?' :: ':' :: rest } =
      some (.anchor .startText, { rest := '(' :: '?' :: ':' :: rest, taken := 1 }) := by
  have atom : readAtom byteLength group { rest := '^' :: '(' :: '?' :: ':' :: rest } =
      some (.anchor .startText, { rest := '(' :: '?' :: ':' :: rest, taken := 1 }) := by
    rw [readAtom, bind_eq (skipBlanks_of_plain rfl (by simp))]
    rfl
  rw [readPiece, bind_eq atom, bind_eq (skipBlanks_of_plain rfl (by simp))]
  rfl

/-- The last piece of an anchored source. -/
theorem readPiece_endText (terse : state.flags.verbose = false) (lines : state.flags.lines = false)
    (left : state.rest = ['$']) :
    readPiece byteLength group state =
      some (.anchor .endText, { state with rest := [], taken := state.taken + 1 }) := by
  obtain ⟨_, taken, ⟨ignoreCase, _, dotAll, swapGreed, _⟩, groups, names, referenced, numbered⟩ :=
    state
  cases terse
  cases lines
  cases left
  rfl

/-- The group between the anchors reads its expression and the parenthesis behind it. -/
theorem readGroup_plain {expression : Read Node}
    (given : expression = readExpression byteLength (readGroup byteLength depth)) :
    readGroup byteLength (depth + 1) { rest := '?' :: ':' :: rest, taken := 2 } =
      (do
        let inner ← expression
        expect ')'
        setFlags fun _ => {}
        return inner : Read Node) { rest, taken := 4 } := by
  subst given
  have noFlags : ∀ fuel,
      readFlagGroup (readExpression byteLength (readGroup byteLength depth)) 3 {} (fuel + 1) true
          { rest := ':' :: rest, taken := 3 } =
        (do
          let inner ← readExpression byteLength (readGroup byteLength depth)
          expect ')'
          setFlags fun _ => {}
          return inner : Read Node) { rest, taken := 4 } := by
    intro fuel
    rw [readFlagGroup, bind_eq (skipBlanks_of_plain rfl (by simp))]
    rfl
  rw [readGroup, bind_eq (skipBlanks_of_plain rfl (by simp))]
  exact noFlags _

variable {piece : Read Node} {node : Node} {fuel : Nat} {after : ReadState}

theorem readPieces_of_rest_eq_nil (nothing : state.rest = []) :
    readPieces piece fuel state = some ([], state) := by
  cases fuel with
  | zero => rfl
  | succ fuel =>
    show (if state.rest.head?.isNone then return [] else _ : Read (List Node)) state = _
    rw [nothing]
    rfl

theorem readPieces_of_none (there : state.rest ≠ []) (fails : piece state = none) :
    readPieces piece (fuel + 1) state = none := by
  show (if state.rest.head?.isNone then return [] else piece >>= _ : Read (List Node)) state = none
  rw [if_neg (by simpa using there), bind_eq_none fails]

theorem readPieces_of_some (there : state.rest ≠ []) (one : piece state = some (node, after))
    (moved : after.taken ≠ state.taken) :
    readPieces piece (fuel + 1) state =
      (readPieces piece fuel after).map fun found =>
        (if node.isEmpty then found.1 else node :: found.1, found.2) := by
  show (if state.rest.head?.isNone then return [] else piece >>= _ : Read (List Node)) state = _
  rw [if_neg (by simpa using there), bind_eq one]
  show (if after.taken = state.taken then return [] else _ : Read (List Node)) after = _
  rw [if_neg moved]
  show Option.bind (readPieces piece fuel after) _ = _
  cases readPieces piece fuel after <;> rfl

/-- The atom between the anchors. -/
theorem readAtom_plain :
    readAtom byteLength (readGroup byteLength (depth + 1))
        { rest := '(' :: '?' :: ':' :: rest, taken := 1 } =
      (do
        let inner ← readExpression byteLength (readGroup byteLength depth)
        expect ')'
        setFlags fun _ => {}
        return inner : Read Node) { rest, taken := 4 } := by
  rw [readAtom, bind_eq (skipBlanks_of_plain rfl (by simp))]
  exact readGroup_plain rfl

/-- The piece between the anchors, if the parenthesis closes it. -/
theorem readPiece_plain
    (success : readExpression byteLength (readGroup byteLength depth) { rest, taken := 4 } =
      some (node, after))
    (closed : after.rest = [')', '$']) :
    readPiece byteLength (readGroup byteLength (depth + 1))
        { rest := '(' :: '?' :: ':' :: rest, taken := 1 } =
      some (node, { after with rest := ['$'], taken := after.taken + 1, flags := {} }) := by
  have atom : readAtom byteLength (readGroup byteLength (depth + 1))
        { rest := '(' :: '?' :: ':' :: rest, taken := 1 } =
      some (node, { after with rest := ['$'], taken := after.taken + 1, flags := {} }) := by
    rw [readAtom_plain, bind_eq success]
    cases after
    cases closed
    rfl
  rw [readPiece, bind_eq atom, bind_eq (skipBlanks_of_plain rfl (by simp))]
  rfl

/-- There is no such piece if its expression or the parenthesis is missing. -/
theorem readPiece_plain_eq_none
    (missing : ∀ node after,
      readExpression byteLength (readGroup byteLength depth) { rest, taken := 4 } =
        some (node, after) → after.rest = []) :
    readPiece byteLength (readGroup byteLength (depth + 1))
        { rest := '(' :: '?' :: ':' :: rest, taken := 1 } = none := by
  refine bind_eq_none ?_
  rw [readAtom_plain]
  cases inner : readExpression byteLength (readGroup byteLength depth) { rest, taken := 4 } with
  | none => exact bind_eq_none inner
  | some found =>
    rw [bind_eq inner]
    exact bind_eq_none (expect_eq_none (missing _ _ inner))

theorem readBranch_of_none
    (fails : readPieces (readPiece byteLength group) fuel state = none)
    (enough : fuel = state.rest.length + 1) : readExpression byteLength group state = none := by
  subst enough
  refine bind_eq_none ?_
  rw [readBranch, rest_bind]
  exact bind_eq_none fails

/-- An expression that takes the whole text is its only branch. -/
theorem readExpression_of_some {nodes : List Node}
    (pieces : readPieces (readPiece byteLength group) fuel state = some (nodes, after))
    (enough : fuel = state.rest.length + 1) (whole : after.rest = []) :
    readExpression byteLength group state =
      if after.numbered && !after.names.isEmpty then none
      else some (concatenation nodes, after) := by
  subst enough
  have branch : readBranch byteLength group state = some (concatenation nodes, after) := by
    rw [readBranch, rest_bind, bind_eq pieces]
    rfl
  have branches : ∀ fuel, readBranches (readBranch byteLength group) fuel after =
      some ([], after) := by
    intro fuel
    cases after
    cases whole
    cases fuel <;> rfl
  rw [readExpression, bind_eq branch, rest_bind, bind_eq (branches _)]
  show (if _ then failure else return concatenation nodes : Read Node) after = _
  split <;> rfl

end Wrapper

/-- The parts of an anchored expression. -/
def anchoredParts (root : Node) : List Node :=
  .anchor .startText :: ((if root.isEmpty then [] else [root]) ++ [.anchor .endText])

/-- An expression between the two ends of a text. -/
def Expression.anchored (expression : Expression) : Expression :=
  ⟨.concat (anchoredParts expression.root), expression.referenced⟩

/--
A source that is an expression is read as that expression between the two ends of the text, or
is not read at all.
-/
theorem readExpression_anchored {byteLength byteLengthPasted depth : Nat} {source : List Char}
    {root : Node} {after : ReadState} (longer : byteLength ≤ byteLengthPasted)
    (success : readExpression byteLength (readGroup byteLength (depth + 1)) { rest := source } =
      some (root, after))
    (whole : after.rest = []) :
    let anchored := readExpression byteLengthPasted (readGroup byteLengthPasted (depth + 1))
      { rest := '^' :: '(' :: '?' :: ':' :: (source ++ closing) }
    anchored = none ∨
      ∃ last : ReadState, anchored = some (.concat (anchoredParts root), last) ∧
        last.rest = [] ∧ last.referenced = after.referenced := by
  intro anchored
  have follows := follows_readExpression longer
    (follows_readGroup longer (Nat.le_succ depth)) { rest := source } false nofun root after success
  by_cases closed : readExpression byteLengthPasted (readGroup byteLengthPasted depth)
      { rest := source ++ closing, taken := 4 } = some (root, after.pasted false)
  · have left : (after.pasted false).rest = closing := by
      show after.rest ++ closing = closing
      rw [whole, List.nil_append]
    have moved : (after.pasted false).taken + 1 ≠ 1 := by
      show after.taken + 4 + 1 ≠ 1
      omega
    have pieces : readPieces
        (readPiece byteLengthPasted (readGroup byteLengthPasted (depth + 1)))
        ((source ++ closing).length + 4 + 1)
        { rest := '^' :: '(' :: '?' :: ':' :: (source ++ closing) } =
          some (anchoredParts root,
            { after with rest := [], taken := after.taken + 4 + 1 + 1, flags := {} }) := by
      rw [readPieces_of_some (List.cons_ne_nil _ _) readPiece_startText Nat.one_ne_zero,
        readPieces_of_some (List.cons_ne_nil _ _) (readPiece_plain closed left) moved,
        readPieces_of_some (List.cons_ne_nil _ _) (readPiece_endText rfl rfl rfl)
          (Nat.succ_ne_self _),
        readPieces_of_rest_eq_nil rfl]
      rw [anchoredParts]
      cases root.isEmpty <;> rfl
    have joined : concatenation (anchoredParts root) = .concat (anchoredParts root) := by
      cases empty : root.isEmpty <;> simp [anchoredParts, empty, concatenation]
    have run := readExpression_of_some pieces rfl rfl
    rw [joined] at run
    split at run
    · exact .inl run
    · exact .inr ⟨_, run, rfl, rfl⟩
  · refine .inl ?_
    have missing : ∀ node after, readExpression byteLengthPasted (readGroup byteLengthPasted depth)
        { rest := source ++ closing, taken := 4 } = some (node, after) → after.rest = [] := by
      intro node last pasted
      obtain ⟨_, fails⟩ | ⟨swallowed, same, _⟩ := follows
      · cases pasted.symm.trans fails
      · cases pasted.symm.trans same
        cases swallowed with
        | true => rfl
        | false => exact (closed pasted).elim
    have fails : readPieces (readPiece byteLengthPasted (readGroup byteLengthPasted (depth + 1)))
        ((source ++ closing).length + 4 + 1)
        { rest := '^' :: '(' :: '?' :: ':' :: (source ++ closing) } = none := by
      rw [readPieces_of_some (List.cons_ne_nil _ _) readPiece_startText Nat.one_ne_zero,
        readPieces_of_none (List.cons_ne_nil _ _) (readPiece_plain_eq_none missing)]
      rfl
    exact readBranch_of_none fails rfl

/-- What a text is read as, in terms of the readers. -/
theorem Expression.ofText?_eq_some_iff {text : String} {expression : Expression} :
    Expression.ofText? text = some expression ↔
      ∃ after : ReadState,
        readExpression text.utf8ByteSize (readGroup text.utf8ByteSize maxGroupDepth)
            { rest := text.toList } = some (expression.root, after) ∧
          after.rest = [] ∧ after.referenced = expression.referenced := by
  have unfolded : Expression.ofText? text =
      (readExpression text.utf8ByteSize (readGroup text.utf8ByteSize maxGroupDepth)
        { rest := text.toList }).bind fun found =>
          if found.2.rest.isEmpty then some ⟨found.1, found.2.referenced⟩ else none := rfl
  rw [unfolded, Option.bind_eq_some_iff]
  constructor
  · rintro ⟨⟨root, after⟩, read, found⟩
    split at found
    · cases found
      exact ⟨after, read, List.isEmpty_iff.mp ‹_›, rfl⟩
    · cases found
  · rintro ⟨after, read, left, same⟩
    refine ⟨(expression.root, after), read, ?_⟩
    rw [if_pos (List.isEmpty_iff.mpr left), same]

theorem Expression.ofText?_anchored {source : String} {expression : Expression}
    (wellFormed : Expression.ofText? source = some expression) :
    Expression.ofText? ("^(?:" ++ source ++ ")$") = none ∨
      Expression.ofText? ("^(?:" ++ source ++ ")$") = some expression.anchored := by
  obtain ⟨after, success, whole, referenced⟩ := Expression.ofText?_eq_some_iff.mp wellFormed
  have longer : source.utf8ByteSize ≤ ("^(?:" ++ source ++ ")$").utf8ByteSize := by
    simp only [String.utf8ByteSize_append]
    omega
  have characters : ("^(?:" ++ source ++ ")$").toList =
      '^' :: '(' :: '?' :: ':' :: (source.toList ++ closing) := by
    simp [closing]
  rcases readExpression_anchored longer success whole with fails | ⟨last, read, left, same⟩
  · refine .inl (Option.eq_none_iff_forall_ne_some.mpr fun other found => ?_)
    obtain ⟨last, read, _⟩ := Expression.ofText?_eq_some_iff.mp found
    rw [characters] at read
    cases read.symm.trans fails
  · refine .inr (Expression.ofText?_eq_some_iff.mpr ⟨last, ?_, left, same.trans referenced⟩)
    rw [characters]
    exact read

end ToolGate.Pattern
