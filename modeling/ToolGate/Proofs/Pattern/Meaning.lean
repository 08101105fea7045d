import Mathlib.Logic.Function.Basic
import ToolGate.Pattern.Machine

/-!
# What a node matches

A node leads from one point to another: from a place in the text, with what
the groups have matched before, to the place behind what it matches, with
what they have matched by then.  Groups, references and looks are all
accounted for in this way.

Only what may match is described, and not which match is preferred.  So a
part that allows one match counts as any other part, and what forbids a match
counts as the empty text: a negated look, and the condition of the second of
two branches.  What a machine finds is matched in this sense, and not the
other way round.
-/

namespace ToolGate.Pattern

/-- A relation holds some times in a row. -/
def Times {α : Type} (relation : α → α → Prop) : (count : Nat) → α → α → Prop
  | 0, p, q => q = p
  | count + 1, p, q => ∃ k, relation p k ∧ Times relation count k q

section Times

variable {α : Type} {relation wider : α → α → Prop} {count more : Nat} {p k q : α}

theorem Times.concat (first : Times relation count p k) (last : relation k q) :
    Times relation (count + 1) p q := by
  induction count generalizing p with
  | zero =>
    cases first
    exact ⟨q, last, rfl⟩
  | succ count ih =>
    obtain ⟨l, one, more⟩ := first
    exact ⟨l, one, ih more⟩

theorem Times.append (first : Times relation count p k) (last : Times relation more k q) :
    Times relation (count + more) p q := by
  induction count generalizing p with
  | zero =>
    cases first
    rwa [Nat.zero_add]
  | succ count ih =>
    obtain ⟨l, one, others⟩ := first
    rw [Nat.add_right_comm]
    exact ⟨l, one, ih others⟩

end Times

/-- A place in a text, with the places where groups have been opened and closed last. -/
structure Point where
  /-- The place. -/
  index : Nat
  /-- Where a group has been opened. -/
  opened : Nat → Option Nat
  /-- Where a group has been closed. -/
  closed : Nat → Option Nat

namespace Point

/-- Nothing has been matched before a place; the match as a whole is group zero. -/
def start (index : Nat) : Point where
  index
  opened := Function.update (fun _ => none) 0 (some index)
  closed _ := none

/-- Go to another place. -/
def moveTo (point : Point) (index : Nat) : Point :=
  { point with index }

/-- Open a group. -/
def openGroup (point : Point) (group : Nat) : Point :=
  { point with opened := Function.update point.opened group (some point.index) }

/-- Close a group. -/
def closeGroup (point : Point) (group : Nat) : Point :=
  { point with closed := Function.update point.closed group (some point.index) }

@[simp] theorem index_moveTo (point : Point) (index : Nat) :
    (point.moveTo index).index = index := rfl

end Point

namespace Node

mutual

/-- The groups to which a node refers. -/
def references : Node → List Nat
  | .concat parts => allReferences parts
  | .alternatives branches => allReferences branches
  | .group _ inner => references inner
  | .look _ _ inner => references inner
  | .repeated _ _ _ inner => references inner
  | .atomic inner => references inner
  | .backreference index => [index]
  | .groupMatched index => [index]
  | .conditional condition yes no => references condition ++ (references yes ++ references no)
  | _ => []

/-- The groups to which some nodes refer. -/
def allReferences : List Node → List Nat
  | [] => []
  | node :: rest => references node ++ allReferences rest

end

end Node

section Traverses

variable (text : Array Char)

mutual

/--
A node may lead from one point to another.  Negated looks, conditions that fail and the refusals
of atomic parts forbid nothing here.
-/
def Node.Traverses : Node → Point → Point → Prop
  | .empty, p, q => q = p
  | .char set, p, q =>
      q = p.moveTo (p.index + 1) ∧ ∃ c, text[p.index]? = some c ∧ set.contains c = true
  | .anchor anchor, p, q => q = p ∧ anchor.holdsAt text p.index = true
  | .concat parts, p, q => PartsTraverse parts p q
  | .alternatives branches, p, q => BranchesTraverse branches p q
  | .group group inner, p, q =>
      ∃ k, Node.Traverses inner (p.openGroup group) k ∧ q = k.closeGroup group
  | .look _ true _, p, q => q = p
  | .look false false inner, p, q => ∃ k, Node.Traverses inner p k ∧ q = k.moveTo p.index
  | .look true false inner, p, q =>
      q.index = p.index ∧ ∃ first, Node.Traverses inner (p.moveTo first) q
  -- of two bounds in the wrong order the second one counts
  | .repeated least most _ inner, p, q =>
      ∃ count, (least ≤ count ∨ most = some count) ∧ (∀ bound ∈ most, count ≤ bound) ∧
        Times (Node.Traverses inner) count p q
  | .backreference group, p, q =>
      ∃ first last, p.opened group = some first ∧ p.closed group = some last ∧
        Machine.comesAgain text first last p.index = true ∧
        q = p.moveTo (p.index + (last - first))
  | .atomic inner, p, q => Node.Traverses inner p q
  | .restart, p, q => q = p.openGroup 0
  | .searchStart, p, q => q = p ∧ p.index = 0
  | .groupMatched group, p, q => q = p ∧ (p.opened group).isSome = true
  | .conditional condition yes no, p, q =>
      (∃ k, Node.Traverses condition p k ∧ Node.Traverses yes k q) ∨ Node.Traverses no p q

/-- Nodes lead from one point to another, one after the other. -/
def PartsTraverse : List Node → Point → Point → Prop
  | [], p, q => q = p
  | part :: parts, p, q => ∃ k, Node.Traverses part p k ∧ PartsTraverse parts k q

/-- One of some nodes leads from one point to another; where there is none, nothing is matched. -/
def BranchesTraverse : List Node → Point → Point → Prop
  | [], p, q => q = p
  | [branch], p, q => Node.Traverses branch p q
  | branch :: branches, p, q => Node.Traverses branch p q ∨ BranchesTraverse branches p q

end

/--
A node may lead from before the first character of a text to behind its last one, where negated
looks count as the empty text.
-/
def Node.MatchesAll (node : Node) : Prop :=
  ∃ q, node.Traverses text (.start 0) q ∧ q.index = text.size

end Traverses

variable {text : Array Char}

theorem PartsTraverse.append {parts others : List Node} {p k q : Point}
    (first : PartsTraverse text parts p k) (last : PartsTraverse text others k q) :
    PartsTraverse text (parts ++ others) p q := by
  induction parts generalizing p with
  | nil =>
    cases first
    exact last
  | cons part parts ih =>
    obtain ⟨l, one, more⟩ := first
    exact ⟨l, one, ih more⟩

/-! ## Nodes of a fixed length -/

theorem index_of_times {relation : Point → Point → Prop} {length count : Nat} {p q : Point}
    (each : ∀ p q, relation p q → q.index = p.index + length)
    (times : Times relation count p q) : q.index = p.index + length * count := by
  induction count generalizing p with
  | zero =>
    cases times
    rfl
  | succ count ih =>
    obtain ⟨k, one, more⟩ := times
    rw [ih more, each p k one, Nat.mul_succ]
    omega

mutual

/-- What a node of a fixed length matches has its least length. -/
theorem index_of_traverses (node : Node) (fixed : node.hasFixedLength = true) {p q : Point}
    (matched : node.Traverses text p q) : q.index = p.index + node.leastLength := by
  match node with
  | .empty | .restart =>
    cases matched
    rfl
  | .anchor _ | .searchStart | .groupMatched _ | .char _ =>
    obtain ⟨rfl, _⟩ := matched
    rfl
  | .concat parts => exact index_of_partsTraverse parts fixed matched
  | .alternatives branches =>
    rw [Node.hasFixedLength, Bool.and_eq_true] at fixed
    refine index_of_branchesTraverse branches fixed.1 fixed.2 ?_ matched
    rintro rfl
    rfl
  | .group group inner =>
    obtain ⟨k, inside, rfl⟩ := matched
    have := index_of_traverses inner fixed inside
    exact this
  | .look _ true _ =>
    cases matched
    rfl
  | .look false false _ =>
    obtain ⟨_, _, rfl⟩ := matched
    rfl
  | .look true false _ => exact matched.1
  | .repeated least most _ inner =>
    rw [Node.hasFixedLength, Bool.and_eq_true] at fixed
    obtain ⟨fixed, exactly⟩ := fixed
    obtain rfl : most = some least := eq_of_beq exactly
    obtain ⟨count, enough, few, times⟩ := matched
    obtain rfl : least = count := by
      have := few least rfl
      simp only [Option.some.injEq] at enough
      omega
    exact index_of_times (fun _ _ one => index_of_traverses inner fixed one) times
  | .backreference _ => cases fixed
  | .atomic inner => exact index_of_traverses inner fixed matched
  | .conditional condition yes no =>
    simp only [Node.hasFixedLength, Bool.and_eq_true, beq_iff_eq] at fixed
    obtain ⟨⟨⟨conditionFixed, yesFixed⟩, noFixed⟩, same⟩ := fixed
    rw [Node.leastLength]
    rcases matched with ⟨k, first, second⟩ | matched
    · have := index_of_traverses condition conditionFixed first
      have := index_of_traverses yes yesFixed second
      omega
    · have := index_of_traverses no noFixed matched
      omega

theorem index_of_partsTraverse (parts : List Node) (fixed : Node.allFixed parts = true)
    {p q : Point} (matched : PartsTraverse text parts p q) :
    q.index = p.index + Node.sumOfLengths parts := by
  match parts with
  | [] =>
    cases matched
    rfl
  | part :: parts =>
    rw [Node.allFixed, Bool.and_eq_true] at fixed
    obtain ⟨k, one, more⟩ := matched
    rw [index_of_partsTraverse parts fixed.2 more, index_of_traverses part fixed.1 one,
      Node.sumOfLengths, Nat.add_assoc]

theorem index_of_branchesTraverse (branches : List Node) {length : Nat}
    (fixed : Node.allFixed branches = true) (same : Node.allOfLength length branches = true)
    (empty : branches = [] → length = 0) {p q : Point}
    (matched : BranchesTraverse text branches p q) : q.index = p.index + length := by
  match branches with
  | [] =>
    cases matched
    rw [empty rfl, Nat.add_zero]
  | [branch] =>
    simp only [Node.allFixed, Node.allOfLength, Bool.and_true, beq_iff_eq] at fixed same
    rw [← same]
    exact index_of_traverses branch fixed matched
  | branch :: second :: branches =>
    rw [Node.allFixed, Bool.and_eq_true] at fixed
    rw [Node.allOfLength, Bool.and_eq_true, beq_iff_eq] at same
    rcases matched with matched | matched
    · rw [← same.1]
      exact index_of_traverses branch fixed.1 matched
    · exact index_of_branchesTraverse (second :: branches) fixed.2 same.2
        (absurd · (List.cons_ne_nil _ _)) matched

end

end ToolGate.Pattern
