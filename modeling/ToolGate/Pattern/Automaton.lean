import ToolGate.Pattern.Node
import ToolGate.Text.Class

/-!
# Matching in one pass

A regular node is turned into an automaton, which follows all ways to match
side by side: a list of threads, the preferred ones first, moves over the
text one character at a time.  A place in the automaton is entered at most
once for each place in the text, so the time is bounded by the product of
the two sizes.
-/

namespace ToolGate.Pattern

/-- The character before a place is one of a word. -/
def wordBefore (text : Array Char) (index : Nat) : Bool :=
  match index with
  | 0 => false
  | index + 1 => (text[index]?.map Text.wordCharacters.contains).getD false

/-- The character behind a place is one of a word. -/
def wordBehind (text : Array Char) (index : Nat) : Bool :=
  (text[index]?.map Text.wordCharacters.contains).getD false

/-- An anchor holds at a place in a text. -/
def Anchor.holdsAt (anchor : Anchor) (text : Array Char) (index : Nat) : Bool :=
  match anchor with
  | .startText => index == 0
  | .endText => index == text.size
  | .startLine => index == 0 || text[index - 1]? == some '\n'
  | .endLine => index == text.size || text[index]? == some '\n'
  | .wordEdge => wordBefore text index != wordBehind text index
  | .noWordEdge => wordBefore text index == wordBehind text index
  | .wordStart => !wordBefore text index && wordBehind text index
  | .wordEnd => wordBefore text index && !wordBehind text index

/-- A place in an automaton. -/
inductive Step where
  /-- One character of a set, and then another place. -/
  | consume (set : CharSet) (next : Nat)
  /-- Either of two places, the first one preferred. -/
  | choose (first second : Nat)
  /-- Another place, where an anchor holds. -/
  | require (anchor : Anchor) (next : Nat)
  /-- The end of a match. -/
  | accept

/-- An automaton. -/
structure Automaton where
  /-- Its places. -/
  steps : Array Step
  /-- The place where matching starts. -/
  start : Nat

namespace Automaton

/-! ## Construction -/

/-- Places to which more are added, from the end of what they match to its start. -/
abbrev Build := Array Step → Array Step × Nat

/-- Add a place. -/
def add (step : Step) : Build := fun steps =>
  (steps.push step, steps.size)

/-- Add a choice, the first way being preferred if it is greedy. -/
def addChoice (greedy : Bool) (inner outer : Nat) : Build :=
  add (if greedy then .choose inner outer else .choose outer inner)

/-- Add copies of a part one after the other. -/
def copies (part : Nat → Build) : (count : Nat) → (next : Nat) → Build
  | 0, next => fun steps => (steps, next)
  | count + 1, next => fun steps =>
      let (steps, next) := part next steps
      copies part count next steps

/-- Add copies of a part, before each of which matching may end. -/
def optionals (part : Nat → Build) (greedy : Bool) (outer : Nat) : (count : Nat) → Build
  | 0 => fun steps => (steps, outer)
  | count + 1 => fun steps =>
      let (steps, next) := optionals part greedy outer count steps
      let (steps, entry) := part next steps
      addChoice greedy entry outer steps

/-- Add a loop; the results are the start of the part and the choice behind it. -/
def loop (part : Nat → Build) (greedy : Bool) (outer : Nat) :
    Array Step → Array Step × Nat × Nat := fun steps =>
  let choice := steps.size
  let (steps, entry) := part choice (steps.push .accept)
  (steps.set! choice (if greedy then .choose entry outer else .choose outer entry), entry, choice)

/-- Add a part several times; a loop around a part that may be empty is entered by a choice. -/
def repetition (part : Nat → Build) (mayBeEmpty : Bool) (least : Nat) (most : Option Nat)
    (greedy : Bool) (next : Nat) : Build := fun steps =>
  match most with
  | some most =>
      let (steps, next) := optionals part greedy next (most - least) steps
      copies part least next steps
  | none =>
      let (steps, entry, choice) := loop part greedy next steps
      match least with
      | 0 => if mayBeEmpty then addChoice greedy entry next steps else (steps, choice)
      | least + 1 => copies part least entry steps

mutual

/-- Add what a node matches, before a place. -/
def build : Node → (next : Nat) → Build
  | .char set, next => add (.consume set next)
  | .anchor anchor, next => add (.require anchor next)
  | .concat parts, next => buildParts parts next
  | .alternatives branches, next => buildBranches branches next
  | .group _ inner, next => build inner next
  | .repeated least most greedy inner, next =>
      repetition (build inner) (inner.leastLength == 0) least most greedy next
  | _, next => fun steps => (steps, next)

/-- Add parts one after the other. -/
def buildParts : List Node → (next : Nat) → Build
  | [], next => fun steps => (steps, next)
  | part :: parts, next => fun steps =>
      let (steps, next) := buildParts parts next steps
      build part next steps

/-- Add branches. -/
def buildBranches : List Node → (next : Nat) → Build
  | [], next => fun steps => (steps, next)
  | [branch], next => build branch next
  | branch :: branches, next => fun steps =>
      let (steps, others) := buildBranches branches next steps
      let (steps, first) := build branch next steps
      add (.choose first others) steps

end

mutual

/-- How many places a node needs; a set beyond ASCII counts for all its ranges. -/
def weight : Node → Nat
  | .char set => if set.ranges.all (fun range => range.last < 128) then 1 else set.ranges.size + 3
  | .anchor _ => 1
  | .concat parts => weights parts
  | .alternatives branches => weights branches + branches.length
  | .group _ inner => weight inner + 2
  | .repeated least most _ inner =>
      weight inner * least + (weight inner + 1) * (most.getD (least + 1) - least)
  | _ => 1

/-- How many places nodes need. -/
def weights : List Node → Nat
  | [] => 0
  | node :: rest => weight node + weights rest

end

/-- The greatest weight for which an automaton is built. -/
def maxWeight : Nat := 436000

mutual

/-- Every repetition in the node has bounds in order, within a word of 32 bits. -/
def hasOrderedBounds : Node → Bool
  | .concat parts => haveOrderedBounds parts
  | .alternatives branches => haveOrderedBounds branches
  | .group _ inner => hasOrderedBounds inner
  | .repeated least most _ inner =>
      decide (least < Nat.pow 2 32)
        && (most.map fun most => decide (least ≤ most ∧ most < Nat.pow 2 32)).getD true
        && hasOrderedBounds inner
  | _ => true

/-- Every repetition in the nodes has bounds in order. -/
def haveOrderedBounds : List Node → Bool
  | [] => true
  | node :: rest => hasOrderedBounds node && haveOrderedBounds rest

end

/-- The automaton of a regular node, unless its repetitions make no sense or make it too large. -/
def ofNode? (node : Node) : Option Automaton :=
  if hasOrderedBounds node && decide (weight node ≤ maxWeight) then
    let (steps, start) := build node 0 #[.accept]
    some ⟨steps, start⟩
  else none

/-! ## Matching -/

/-- The threads at one place of the text, and when each place of the automaton was entered last. -/
structure Threads where
  /-- The places where a character is awaited or a match ends, the preferred ones first. -/
  waiting : Array Nat := #[]
  /-- For each place, the last round in which it was entered. -/
  entered : Array Nat

/-- Enter places, taken from a stack, and all places to which they lead without a character. -/
def enter (automaton : Automaton) (text : Array Char) (index : Nat) :
    (fuel : Nat) → List Nat → Threads → Threads
  | 0, _, threads => threads
  | _, [], threads => threads
  | fuel + 1, place :: stack, threads =>
      if threads.entered[place]? = some (index + 1) then
        enter automaton text index fuel stack threads
      else
        let threads := { threads with entered := threads.entered.set! place (index + 1) }
        match automaton.steps[place]? with
        | some (.choose first second) =>
            enter automaton text index fuel (first :: second :: stack) threads
        | some (.require anchor next) =>
            enter automaton text index fuel
              (if anchor.holdsAt text index then next :: stack else stack) threads
        | some _ =>
            enter automaton text index fuel stack
              { threads with waiting := threads.waiting.push place }
        | none => enter automaton text index fuel stack threads

/-- Enter a place. -/
def enterPlace (automaton : Automaton) (text : Array Char) (index : Nat) (place : Nat)
    (threads : Threads) : Threads :=
  enter automaton text index (2 * automaton.steps.size + 2) [place] threads

/-- Move threads over a character; the result tells whether one of them ended a match before. -/
def move (automaton : Automaton) (text : Array Char) (index : Nat) :
    List Nat → Threads → Threads × Bool
  | [], moved => (moved, false)
  | place :: places, moved =>
      match automaton.steps[place]? with
      | some .accept => (moved, true)
      | some (.consume set next) =>
          if (text[index]?.map set.contains).getD false then
            move automaton text index places (enterPlace automaton text (index + 1) next moved)
          else move automaton text index places moved
      | _ => move automaton text index places moved

/-- No thread at all. -/
def noThreads (automaton : Automaton) : Threads :=
  { entered := Array.replicate automaton.steps.size 0 }

/-- Follow threads from a place on; the result is the end of the preferred match. -/
def follow (automaton : Automaton) (text : Array Char) (index : Nat) (threads : Threads)
    (best : Option Nat) : Option Nat :=
  if threads.waiting.isEmpty then best
  else
    let (moved, ended) :=
      move automaton text index threads.waiting.toList { threads with waiting := #[] }
    let best := if ended then some index else best
    if index < text.size then follow automaton text (index + 1) moved best else best
termination_by text.size - index

/-- The end of the preferred match that starts at a place. -/
def matchAt (automaton : Automaton) (text : Array Char) (index : Nat) : Option Nat :=
  follow automaton text index
    (enterPlace automaton text index automaton.start automaton.noThreads) none

/-- Whether a match ends anywhere, when further threads start at every place. -/
def search (automaton : Automaton) (text : Array Char) (index : Nat) (threads : Threads) : Bool :=
  let threads := enterPlace automaton text index automaton.start threads
  let (moved, ended) :=
    move automaton text index threads.waiting.toList { threads with waiting := #[] }
  if ended then true
  else if index < text.size then search automaton text (index + 1) moved
  else false
termination_by text.size - index

/-- The automaton matches somewhere in the text. -/
def matchesIn (automaton : Automaton) (text : Array Char) : Bool :=
  search automaton text 0 automaton.noThreads

end Automaton

end ToolGate.Pattern
