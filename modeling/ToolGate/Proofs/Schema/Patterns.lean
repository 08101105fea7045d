import ToolGate.Proofs.Pattern.Compilation
import ToolGate.Proofs.Pattern.Numbering
import ToolGate.Proofs.Schema.Correctness

/-!
# Patterns match whole strings

A pattern is read after its source has been put between the two anchors of a
text.  A source that is an expression by itself is read there as that
expression, with the anchors outside, or it is not read at all; so nothing
it holds reaches around the anchors, and what is accepted is matched from
the first to the last character.

A source that is no expression by itself may still become one between the
anchors, when its parentheses close and reopen the group around it.
-/

namespace ToolGate

namespace Pattern

open Automaton

/-- What leads from one end of a text to the other matches all of it. -/
theorem Node.matchesAll_of_anchored {root : Node} {text : Array Char} {index : Nat} {q : Point}
    (matched : (Node.concat (anchoredParts root)).Traverses text (.start index) q) :
    root.MatchesAll text := by
  rw [Node.Traverses, anchoredParts, PartsTraverse] at matched
  obtain ⟨_, ⟨rfl, atStart⟩, matched⟩ := matched
  obtain rfl : index = 0 := eq_of_beq atStart
  cases root with
  | empty =>
    obtain ⟨_, ⟨_, atEnd⟩, _⟩ := matched
    exact ⟨_, rfl, eq_of_beq atEnd⟩
  | _ =>
    obtain ⟨k, matched, _, ⟨_, atEnd⟩, _⟩ := matched
    exact ⟨k, matched, eq_of_beq atEnd⟩

theorem references_anchoredParts (root : Node) :
    Node.allReferences (anchoredParts root) = root.references := by
  cases root <;> simp [anchoredParts, Node.isEmpty, Node.allReferences, Node.references]

theorem lastGroups_anchoredParts (root : Node) :
    Machine.lastGroups (anchoredParts root) = Machine.lastGroup root := by
  cases root <;> simp [anchoredParts, Node.isEmpty, Machine.lastGroups, Machine.lastGroup]

/-- An expression that has been put between the anchors matches whole texts only. -/
theorem matchesAll_of_isMatch {source text : String} {expression : Expression} {pattern : Pattern}
    (read : Expression.ofText? source = some expression)
    (made : Matcher.ofExpression? expression.anchored = some pattern.matcher)
    (accepted : pattern.isMatch text = true) :
    expression.root.MatchesAll text.toList.toArray := by
  rw [Matcher.ofExpression?] at made
  split at made
  · rename_i regular
    obtain ⟨automaton, built, same⟩ := Option.map_eq_some_iff.mp made
    rw [isMatch, ← same] at accepted
    obtain ⟨i, j, crosses⟩ := Automaton.crosses_of_matchesIn regular built accepted
    obtain ⟨q, _, matched, _⟩ := crosses (.start i) rfl
    exact Node.matchesAll_of_anchored matched
  · obtain ⟨program, built, same⟩ := Option.map_eq_some_iff.mp made
    rw [isMatch, ← same] at accepted
    obtain ⟨noted, opened⟩ := Expression.numbered read
    have notedToo : ∀ group ∈ expression.anchored.root.references,
        group ∈ expression.anchored.referenced := by
      rwa [← references_anchoredParts] at noted
    have openedToo : ∀ group ∈ expression.anchored.referenced,
        group ≤ Machine.lastGroup expression.anchored.root := by
      rwa [← lastGroups_anchoredParts] at opened
    obtain ⟨index, q, matched⟩ := Machine.traverses_of_matchesIn notedToo openedToo built accepted
    exact Node.matchesAll_of_anchored matched

/-- A pattern that is made of an expression is made of the expression between the anchors. -/
theorem matcher_of_whole? {source : String} {pattern : Pattern} {expression : Expression}
    (made : whole? source = some pattern)
    (wellFormed : Expression.ofText? source = some expression) :
    Matcher.ofExpression? expression.anchored = some pattern.matcher := by
  obtain ⟨matcher, compiled, rfl⟩ := Option.map_eq_some_iff.mp made
  obtain ⟨read, anchored, compiled⟩ := Option.bind_eq_some_iff.mp compiled
  rcases Expression.ofText?_anchored wellFormed with unread | same
  · cases unread.symm.trans anchored
  · cases same.symm.trans anchored
    exact compiled

end Pattern

namespace SchemaNode

/-- The schema of a string with a pattern. -/
def patternSchema (source : String) : Json :=
  .object [("type", .string "string"), ("pattern", .string source)]

/-- A string is accepted unless there is a pattern that it does not match. -/
theorem accepts_patternSchema {policy : UnknownKeys} {source text : String} :
    ((SchemaNode.ofJson (patternSchema source)).compile policy).accepts (.string text) = true ↔
      ∀ pattern ∈ Pattern.whole? source, pattern.isMatch text = true := by
  have decided : DecidedByType { keywords := { type := some .string, pattern := some source } }
      (some .string) := ⟨rfl, rfl, rfl, rfl⟩
  have unlisted : Keywords.Unlisted { type := some .string, pattern := some source } := by
    simp [Keywords.Unlisted]
  have read : SchemaNode.ofJson (patternSchema source) =
      { keywords := { type := some .string, pattern := some source } } := rfl
  rw [read, compile_eq, accepts_finish, core_eq_of_typed decided]
  show _ ∨ (compileString _).accepts (.string text) = true ↔ _
  rw [accepts_compileString_unlisted unlisted]
  constructor
  · rintro (⟨nullable, _⟩ | ⟨_, ⟨⟩, rules⟩)
    · cases nullable
    · exact rules.pattern source rfl
  · intro matched
    refine .inr ⟨text, rfl, ?minLength, ?maxLength, ?pattern, ?format⟩
    case pattern =>
      intro other given
      obtain rfl : source = other := Option.some_inj.mp given
      exact matched
    all_goals exact fun _ given => by cases given

open Pattern in
/--
A source that cannot be read between the anchors is ignored.  Of any other
source that is an expression, the pattern is made of that expression between
the two ends of a text, and a string is accepted only if the expression
matches it from the first to the last character.

The matcher of the expression between the anchors decides which strings are
accepted.  What the expression matches is only a bound for them: there a
negated look and the condition of the second of two branches count as the
empty text, and an atomic part matches whatever it might, so that not all that
is matched in this sense is accepted.
-/
theorem patterns_match_whole_strings (policy : UnknownKeys) (source : String) :
    let validator := (SchemaNode.ofJson (patternSchema source)).compile policy
    (whole? source = none → ∀ text, validator.accepts (.string text) = true)
    ∧ ∀ pattern, whole? source = some pattern →
      (∀ text, validator.accepts (.string text) = true ↔ pattern.isMatch text = true)
      ∧ ∀ expression, Expression.ofText? source = some expression →
        Matcher.ofExpression? expression.anchored = some pattern.matcher
        ∧ ∀ text, validator.accepts (.string text) = true →
          expression.root.MatchesAll text.toList.toArray := by
  intro validator
  refine ⟨fun unread text => ?_, fun pattern made => ⟨fun text => ?_, ?_⟩⟩
  · exact accepts_patternSchema.mpr (by simp [unread])
  · rw [accepts_patternSchema, made]
    simp
  · intro expression wellFormed
    have between := matcher_of_whole? made wellFormed
    refine ⟨between, fun text accepted => ?_⟩
    exact matchesAll_of_isMatch wellFormed between (accepts_patternSchema.mp accepted pattern made)

open Pattern in
/-- Two branches, of which the anchors enclose both, and a reference to what one has matched. -/
theorem patterns_match_whole_strings_repeated :
    ∃ expression, Expression.ofText? "(a)|(bc)\\2" = some expression
      ∧ expression.root.isRegular expression.referenced = false
      ∧ ((SchemaNode.ofJson (patternSchema "(a)|(bc)\\2")).compile .strict).accepts
        (.string "bcbc") = true
      ∧ expression.root.MatchesAll "bcbc".toList.toArray := by
  obtain ⟨pattern, made⟩ := Option.isSome_iff_exists.mp
    (show (whole? "(a)|(bc)\\2").isSome = true by decide +kernel)
  have accepted : ((SchemaNode.ofJson (patternSchema "(a)|(bc)\\2")).compile .strict).accepts
      (.string "bcbc") = true := by decide +kernel
  obtain ⟨expression, read, irregular⟩ := (Option.any_eq_true _ _).mp
    (show (Expression.ofText? "(a)|(bc)\\2").any (fun expression =>
      !expression.root.isRegular expression.referenced) = true by decide +kernel)
  obtain ⟨_, all⟩ := (patterns_match_whole_strings .strict "(a)|(bc)\\2").2 pattern made
  exact ⟨expression, read, by simpa using irregular, accepted,
    (all expression read).2 "bcbc" accepted⟩

open Pattern in
/--
A source that is no expression may become one when its parentheses meet those of the group
around it.  Then it is not ignored, and it matches less or more than whole strings.
-/
theorem malformed_pattern_enforced :
    let validator := (SchemaNode.ofJson (patternSchema "a)|(?:b")).compile .passthrough
    (Expression.ofText? "a)|(?:b").isNone = true
    ∧ validator.accepts (.string "c") = false
    ∧ validator.accepts (.string "ax") = true := by
  intro validator
  refine ⟨?_, ?_, ?_⟩ <;> decide +kernel

end SchemaNode

end ToolGate
