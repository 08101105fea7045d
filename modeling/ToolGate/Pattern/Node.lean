import ToolGate.Text.CharSet

/-!
# Regular expressions

A regular expression is a tree.  Most nodes are regular in the strict sense:
what they match can be found in one pass over the text.  The others look
around, refer back to what a group matched, or forbid going back; a tree
that holds one of them is matched by trying.

Which parts are tried and which are matched in one pass decides what a
pattern accepts, because a part that is matched in one pass gives its first
match and no other.
-/

namespace ToolGate.Pattern

/-- A condition on a place in the text. -/
inductive Anchor where
  /-- The start of the text. -/
  | startText
  /-- The end of the text. -/
  | endText
  /-- The start of the text or of a line. -/
  | startLine
  /-- The end of the text or of a line. -/
  | endLine
  /-- A word begins or ends here. -/
  | wordEdge
  /-- No word begins or ends here. -/
  | noWordEdge
  /-- A word begins here. -/
  | wordStart
  /-- A word ends here. -/
  | wordEnd
deriving DecidableEq, Repr

/-- A regular expression. -/
inductive Node where
  /-- The empty text. -/
  | empty
  /-- One character of a set. -/
  | char (set : CharSet)
  /-- The empty text at some places. -/
  | anchor (anchor : Anchor)
  /-- Parts one after the other. -/
  | concat (parts : List Node)
  /-- One of some branches; earlier ones are preferred. -/
  | alternatives (branches : List Node)
  /-- A group whose match is remembered under a number. -/
  | group (index : Nat) (inner : Node)
  /-- The empty text, where the inner node matches, or does not, before or behind the place. -/
  | look (behind negated : Bool) (inner : Node)
  /-- The inner node several times; as often or as seldom as possible. -/
  | repeated (least : Nat) (most : Option Nat) (greedy : Bool) (inner : Node)
  /-- What a group has matched. -/
  | backreference (group : Nat)
  /-- The first match of the inner node, and no other. -/
  | atomic (inner : Node)
  /-- The empty text; the match as a whole begins anew here. -/
  | restart
  /-- The empty text, at the place where the search began. -/
  | searchStart
  /-- The empty text, if a group has matched. -/
  | groupMatched (group : Nat)
  /-- One of two branches, by whether a condition matches. -/
  | conditional (condition yes no : Node)

namespace Node

mutual

/-- The least number of characters that a node matches. -/
def leastLength : Node → Nat
  | .char _ => 1
  | .concat parts => sumOfLengths parts
  | .alternatives branches => leastOfLengths branches
  | .group _ inner => leastLength inner
  | .repeated least _ _ inner => leastLength inner * least
  | .atomic inner => leastLength inner
  | .conditional condition yes no =>
      leastLength condition + min (leastLength yes) (leastLength no)
  | _ => 0

/-- The sum of the least lengths. -/
def sumOfLengths : List Node → Nat
  | [] => 0
  | node :: rest => leastLength node + sumOfLengths rest

/-- The least of the least lengths. -/
def leastOfLengths : List Node → Nat
  | [] => 0
  | [node] => leastLength node
  | node :: rest => min (leastLength node) (leastOfLengths rest)

end

mutual

/-- All matches of a node are known to have the same length. -/
def hasFixedLength : Node → Bool
  | .concat parts => allFixed parts
  | .alternatives branches => allFixed branches && allOfLength (leastOfLengths branches) branches
  | .group _ inner => hasFixedLength inner
  | .repeated least most _ inner => hasFixedLength inner && most == some least
  | .backreference _ => false
  | .atomic inner => hasFixedLength inner
  | .conditional condition yes no =>
      hasFixedLength condition && hasFixedLength yes && hasFixedLength no
        && condition.leastLength + yes.leastLength == no.leastLength
  | _ => true

/-- Every node of a list has a fixed length. -/
def allFixed : List Node → Bool
  | [] => true
  | node :: rest => hasFixedLength node && allFixed rest

/-- Every node of a list has the least length. -/
def allOfLength (length : Nat) : List Node → Bool
  | [] => true
  | node :: rest => node.leastLength == length && allOfLength length rest

end

mutual

/-- The node can be matched in one pass, when some groups are referred to. -/
def isRegular (referenced : List Nat) : Node → Bool
  | .empty => true
  | .char _ => true
  | .anchor .startText => true
  | .anchor .endText => true
  | .anchor .startLine => true
  | .anchor .endLine => true
  | .concat parts => allRegular referenced parts
  | .alternatives branches => allRegular referenced branches
  | .group index inner => !referenced.contains index && isRegular referenced inner
  | .repeated _ _ _ inner => isRegular referenced inner
  | _ => false

/-- Every node of a list can be matched in one pass. -/
def allRegular (referenced : List Nat) : List Node → Bool
  | [] => true
  | node :: rest => isRegular referenced node && allRegular referenced rest

end

/-- A node may be repeated unless it never consumes anything. -/
def isRepeatable : Node → Bool
  | .look .. => false
  | .empty => false
  | .anchor _ => false
  | _ => true

/-- The node is the empty one. -/
def isEmpty : Node → Bool
  | .empty => true
  | _ => false

end Node

/-- What a text is read as: a tree, and the groups that it refers to. -/
structure Expression where
  /-- The tree. -/
  root : Node
  /-- The numbers of the groups that are referred to. -/
  referenced : List Nat

end ToolGate.Pattern
