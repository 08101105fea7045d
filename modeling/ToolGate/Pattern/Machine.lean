import ToolGate.Pattern.Automaton

/-!
# Matching by trying

A tree that is not regular becomes a program for a machine that goes back.
Wherever there is a choice the machine remembers the other way; when it
fails it takes the way that it remembered last, with everything as it was
then.  Regular parts of the tree are matched in one pass as far as the rules
below allow, and then give one match only.

The machine gives up, as if the text did not match, after a million returns
or when a million ways are remembered.
-/

namespace ToolGate.Pattern

/-- An instruction of the machine; places are indices of instructions. -/
inductive Instruction where
  /-- Take one character of a set. -/
  | take (set : CharSet)
  /-- Take what an automaton matches. -/
  | pass (automaton : Automaton)
  /-- Go on where an anchor holds. -/
  | require (anchor : Anchor)
  /-- Go on at the first place, and remember the second. -/
  | split (first second : Nat)
  /-- Go on at a place. -/
  | jump (target : Nat)
  /-- Put the position into a slot. -/
  | mark (slot : Nat)
  /-- Put zero into a slot. -/
  | clear (slot : Nat)
  /-- Take the position from a slot. -/
  | restore (slot : Nat)
  /-- Enter a loop that a slot counts once more, or leave it for a place. -/
  | count (greedy : Bool) (least : Nat) (most : Option Nat) (leave slot : Nat)
  /-- The same for a loop that must not stay where a second slot says it has been. -/
  | countAdvancing (greedy : Bool) (least leave slot placeSlot : Nat)
  /-- Forget all ways remembered since the one that leads behind this instruction, and fail. -/
  | failLook
  /-- Go back some characters. -/
  | goBack (count : Nat)
  /-- Take what a group has matched. -/
  | repeatGroup (group : Nat)
  /-- Go on if a group has matched. -/
  | requireGroup (group : Nat)
  /-- Begin a part with one match only. -/
  | beginAtomic
  /-- End it: forget all ways remembered since its beginning. -/
  | endAtomic
  /-- Go on where the search began. -/
  | requireSearchStart
  /-- The match is complete. -/
  | succeed

namespace Machine

/-! ## Programs -/

/-- A program under construction: its instructions and the number of slots in use. -/
structure Draft where
  instructions : Array Instruction := #[]
  slots : Nat

namespace Draft

/-- The place behind the last instruction. -/
def size (draft : Draft) : Nat :=
  draft.instructions.size

/-- Add an instruction. -/
def add (draft : Draft) (instruction : Instruction) : Draft :=
  { draft with instructions := draft.instructions.push instruction }

/-- Write an instruction over an earlier one. -/
def set (draft : Draft) (place : Nat) (instruction : Instruction) : Draft :=
  { draft with instructions := draft.instructions.set! place instruction }

/-- Take a slot into use. -/
def newSlot (draft : Draft) : Draft × Nat :=
  ({ draft with slots := draft.slots + 1 }, draft.slots)

end Draft

/-- A part of a program, which cannot be written for all trees. -/
abbrev Emit := Draft → Option Draft

/-- Add an instruction. -/
def emit (instruction : Instruction) : Emit := fun draft =>
  some (draft.add instruction)

/-- Match nodes one after the other in one pass. -/
def emitRegular (nodes : List Node) : Emit := fun draft =>
  match nodes with
  | [] => some draft
  | [.char set] => some (draft.add (.take set))
  | nodes => do some (draft.add (.pass (← Automaton.ofNode? (.concat nodes))))

/-- The two ways of a choice, the inner one preferred if it is greedy. -/
def choice (greedy : Bool) (inner outer : Nat) : Instruction :=
  if greedy then .split inner outer else .split outer inner

/-- Try a part, or go on behind it. -/
def emitOptional (greedy : Bool) (part : Emit) : Emit := fun draft => do
  let place := draft.size
  let draft ← part (draft.add .succeed)
  some (draft.set place (choice greedy (place + 1) draft.size))

/-- Try a part again and again, or go on behind it. -/
def emitStar (greedy : Bool) (part : Emit) : Emit := fun draft => do
  let place := draft.size
  let draft ← part (draft.add .succeed)
  let draft := draft.add (.jump place)
  some (draft.set place (choice greedy (place + 1) draft.size))

/-- Match a part, and then try it again and again. -/
def emitPlus (greedy : Bool) (part : Emit) : Emit := fun draft => do
  let place := draft.size
  let draft ← part draft
  some (draft.add (choice greedy place (draft.size + 1)))

/-- A loop with a counter, entered by an instruction that knows where to leave it. -/
def emitCounted (part : Emit) (enter : (leave slot : Nat) → Instruction) (draft : Draft)
    (slot : Nat) : Option Draft := do
  let draft := draft.add (.clear slot)
  let place := draft.size
  let draft ← part (draft.add .succeed)
  let draft := draft.add (.jump place)
  some (draft.set place (enter draft.size slot))

/-- Repeat a part, which may be empty or not. -/
def emitRepetition (least : Nat) (most : Option Nat) (greedy mayBeEmpty : Bool) (part : Emit) :
    Emit := fun draft =>
  match most with
  | none =>
      if mayBeEmpty then
        let (draft, slot) := draft.newSlot
        let (draft, placeSlot) := draft.newSlot
        emitCounted part
          (fun leave slot => .countAdvancing greedy least leave slot placeSlot) draft slot
      else if least = 0 then emitStar greedy part draft
      else if least = 1 then emitPlus greedy part draft
      else
        let (draft, slot) := draft.newSlot
        emitCounted part (fun leave slot => .count greedy least none leave slot) draft slot
  | some most =>
      let (draft, slot) := draft.newSlot
      emitCounted part (fun leave slot => .count greedy least (some most) leave slot) draft slot

/-- Go back by the length of a node, all matches of which must have the same. -/
def emitGoBack (behind : Bool) (node : Node) : Emit := fun draft =>
  if behind then
    if node.hasFixedLength then some (draft.add (.goBack node.leastLength)) else none
  else some draft

/-- Match a node where the position is, and come back. -/
def emitLook (behind : Bool) (node : Node) (part : Emit) : Emit := fun draft => do
  let (draft, slot) := draft.newSlot
  let draft ← emitGoBack behind node (draft.add (.mark slot))
  let draft ← part draft
  some (draft.add (.restore slot))

/-- Go on unless a node matches where the position is. -/
def emitNegatedLook (behind : Bool) (node : Node) (part : Emit) : Emit := fun draft => do
  let place := draft.size
  let draft ← emitGoBack behind node (draft.add .succeed)
  let draft ← part draft
  let draft := draft.add .failLook
  some (draft.set place (.split (place + 1) draft.size))

/-- The last of some branches needs no choice before it and no jump behind it. -/
def emitBranch (part rest : Emit) : Emit := fun draft => do
  let place := draft.size
  let draft ← part (draft.add .succeed)
  let jump := draft.size
  let draft := draft.add .succeed
  let draft := draft.set place (.split (place + 1) draft.size)
  let draft ← rest draft
  some (draft.set jump (.jump draft.size))

/-- Match one of two nodes, by whether a condition matches. -/
def emitConditional (condition yes no : Emit) : Emit := fun draft => do
  let place := draft.size + 1
  let draft ← condition ((draft.add .beginAtomic).add .succeed)
  let draft ← yes (draft.add .endAtomic)
  let jump := draft.size
  let draft := draft.add .succeed
  let draft := draft.set place (.split (place + 1) draft.size)
  let draft ← no draft
  some (draft.set jump (.jump draft.size))

/-- The number of leading nodes of a kind. -/
def leading (test : Node → Bool) (nodes : List Node) : Nat :=
  (nodes.takeWhile test).length

/-- How many nodes of a sequence are matched in one pass at its start and at its end. -/
def regularEnds (referenced : List Nat) (trying : Bool) (parts : List Node) : Nat × Nat :=
  let isPlain := fun (node : Node) => node.isRegular referenced && node.hasFixedLength
  let first := leading isPlain parts
  let isLast := if trying then isPlain else fun node => node.isRegular referenced
  (first, leading isLast (parts.drop first).reverse)

mutual

/--
The program of a node.  If it stands where all ways must be tried, even a
regular node is taken apart.
-/
def emitNode (referenced : List Nat) : Node → (trying : Bool) → Emit
  | .empty, trying => fun draft => if trying then some draft else emitRegular [] draft
  | .char set, _ => emit (.take set)
  | .anchor anchor, trying => fun draft =>
      if !trying && (Node.anchor anchor).isRegular referenced then
        emitRegular [.anchor anchor] draft
      else some (draft.add (.require anchor))
  | .concat parts, trying => fun draft =>
      if !trying && Node.allRegular referenced parts then emitRegular parts draft
      else
        let (first, last) := regularEnds referenced trying parts
        emitSequence referenced first (parts.length - last) 0 parts draft
  | .alternatives branches, trying => fun draft =>
      if !trying && Node.allRegular referenced branches then
        emitRegular [.alternatives branches] draft
      else emitBranches referenced branches trying draft
  | .group index inner, trying => fun draft =>
      if !trying && (Node.group index inner).isRegular referenced then
        emitRegular [.group index inner] draft
      else do
        let draft ← emitNode referenced inner trying (draft.add (.mark (2 * index)))
        some (draft.add (.mark (2 * index + 1)))
  | .repeated least most greedy inner, trying => fun draft =>
      if !trying && inner.isRegular referenced then
        emitRegular [.repeated least most greedy inner] draft
      else if least = 0 ∧ most = some 1 then
        emitOptional greedy (emitNode referenced inner trying) draft
      else
        let trying := trying || !inner.isRegular referenced
        emitRepetition least most greedy (inner.leastLength == 0)
          (emitNode referenced inner trying) draft
  | .look behind negated inner, _ => fun draft =>
      match behind && !inner.hasFixedLength, inner with
      | true, .alternatives branches =>
          if negated then emitNegatedLooks referenced branches draft
          else emitLooks referenced branches draft
      | _, inner =>
          let part := emitNode referenced inner false
          if negated then emitNegatedLook behind inner part draft
          else emitLook behind inner part draft
  | .backreference group, _ => emit (.repeatGroup group)
  | .atomic inner, _ => fun draft => do
      let draft ← emitNode referenced inner false (draft.add .beginAtomic)
      some (draft.add .endAtomic)
  | .restart, _ => emit (.mark 0)
  | .searchStart, _ => emit .requireSearchStart
  | .groupMatched group, _ => emit (.requireGroup group)
  | .conditional condition yes no, trying =>
      emitConditional (emitNode referenced condition trying) (emitNode referenced yes trying)
        (emitNode referenced no trying)

/--
The program of a sequence, whose parts before `first` and from `last` on are
matched in one pass, each of the two runs at once.
-/
def emitSequence (referenced : List Nat) (first last : Nat) :
    (index : Nat) → List Node → Emit
  | _, [] => some
  | index, part :: parts => fun draft => do
      let draft ←
        if index = 0 ∧ 0 < first then emitRegular ((part :: parts).take first) draft
        else if index = last then emitRegular (part :: parts) draft
        else if first ≤ index ∧ index < last then emitNode referenced part true draft
        else some draft
      emitSequence referenced first last (index + 1) parts draft

/-- The program of branches. -/
def emitBranches (referenced : List Nat) : List Node → (trying : Bool) → Emit
  | [], _ => some
  | [branch], trying => emitNode referenced branch trying
  | branch :: branches, trying =>
      emitBranch (emitNode referenced branch trying) (emitBranches referenced branches trying)

/-- Look behind for one of some branches. -/
def emitLooks (referenced : List Nat) : List Node → Emit
  | [] => some
  | [branch] => emitLook true branch (emitNode referenced branch false)
  | branch :: branches =>
      emitBranch (emitLook true branch (emitNode referenced branch false))
        (emitLooks referenced branches)

/-- Look behind for none of some branches. -/
def emitNegatedLooks (referenced : List Nat) : List Node → Emit
  | [] => some
  | branch :: branches => fun draft => do
      let draft ← emitNegatedLook true branch (emitNode referenced branch false) draft
      emitNegatedLooks referenced branches draft

end

mutual

/-- The greatest number of a group in a node. -/
def lastGroup : Node → Nat
  | .concat parts => lastGroups parts
  | .alternatives branches => lastGroups branches
  | .group index inner => max index (lastGroup inner)
  | .look _ _ inner => lastGroup inner
  | .repeated _ _ _ inner => lastGroup inner
  | .atomic inner => lastGroup inner
  | .conditional condition yes no =>
      max (lastGroup condition) (max (lastGroup yes) (lastGroup no))
  | _ => 0

/-- The greatest number of a group in some nodes. -/
def lastGroups : List Node → Nat
  | [] => 0
  | node :: rest => max (lastGroup node) (lastGroups rest)

end

/-- A program with the number of its slots. -/
structure Program where
  instructions : Array Instruction
  slots : Nat

/-- The program of a tree, preceded by a search for the place where a match starts. -/
def Program.ofExpression? (expression : Expression) : Option Program := do
  let root := expression.root
  let search : Draft :=
    { instructions := #[.split 3 1, .take .all, .jump 0, .mark 0]
      slots := 2 * (lastGroup root + 1) }
  let draft ← emitNode expression.referenced root true search
  some ⟨(draft.add (.mark 1)).instructions.push .succeed, draft.slots⟩

/-! ## Running -/

/-- Where the machine stands. -/
structure Configuration where
  /-- The next instruction. -/
  place : Nat
  /-- The position in the text. -/
  index : Nat
  /-- The slots that have been written. -/
  slots : Array (Option Nat)
  /-- How many ways were remembered when the open atomic parts began. -/
  atomics : List Nat

/-- The machine: where it stands, the ways it remembers, and how often it went back. -/
structure State where
  /-- Where the machine stands. -/
  current : Configuration
  /-- The ways remembered, the last one first. -/
  ways : List Configuration := []
  /-- The number of ways. -/
  wayCount : Nat := 0
  /-- How often the machine went back. -/
  returns : Nat := 0

/-- The greatest number of ways, and of returns. -/
def limit : Nat := 1000000

/-- How one step ends. -/
inductive Progress where
  /-- The machine goes on. -/
  | next (state : State)
  /-- The way leads no further. -/
  | fail (state : State)
  /-- The text matches. -/
  | matched
  /-- The machine gives up. -/
  | abandoned

/-- The number in a slot. -/
def Configuration.slot? (configuration : Configuration) (slot : Nat) : Option Nat :=
  (configuration.slots[slot]?).join

/-- Write a number into a slot. -/
def Configuration.write (configuration : Configuration) (slot value : Nat) : Configuration :=
  { configuration with slots := configuration.slots.setIfInBounds slot (some value) }

/-- Go to a place. -/
def Configuration.goTo (configuration : Configuration) (place : Nat) : Configuration :=
  { configuration with place }

/-- Go to the next instruction. -/
def Configuration.step (configuration : Configuration) : Configuration :=
  { configuration with place := configuration.place + 1 }

/-- Go to the next instruction at another position. -/
def Configuration.moveTo (configuration : Configuration) (index : Nat) : Configuration :=
  { configuration with place := configuration.place + 1, index }

/-- Go on with a configuration. -/
def State.goOn (state : State) (current : Configuration) : Progress :=
  .next { state with current }

/-- Go on with a configuration and remember another one. -/
def State.remember (state : State) (current other : Configuration) : Progress :=
  if limit ≤ state.wayCount then .abandoned
  else
    .next { state with current, ways := other :: state.ways, wayCount := state.wayCount + 1 }

/-- Go on with the inner or with the outer one of two configurations, and remember the other. -/
def State.choose (state : State) (greedy : Bool) (inner outer : Configuration) : Progress :=
  if greedy then state.remember inner outer else state.remember outer inner

/-- Forget the ways down to the last one that leads to a place, that one included. -/
def forgetTo (place : Nat) : List Configuration → (count : Nat) → List Configuration × Nat
  | [], _ => ([], 0)
  | way :: ways, count =>
      if way.place = place then (ways, count - 1) else forgetTo place ways (count - 1)

/-- The text between two positions comes again at a third. -/
def comesAgain (text : Array Char) (first last index : Nat) : Bool :=
  (List.range (last - first)).all fun offset =>
    text[first + offset]? == text[index + offset]? && (text[index + offset]?).isSome

/-- Enter a counted loop once more. -/
def enterLoop (state : State) (greedy : Bool) (least count leave : Nat)
    (counted : Configuration) : Progress :=
  if least ≤ count then state.choose greedy counted.step (counted.goTo leave)
  else state.goOn counted.step

/-- Carry out an instruction. -/
def carryOut (text : Array Char) (state : State) (instruction : Instruction) : Progress :=
  let current := state.current
  let goOnIf := fun (condition : Bool) =>
    if condition then state.goOn current.step else .fail state
  match instruction with
  | .take set =>
      if (text[current.index]?.map set.contains).getD false then
        state.goOn (current.moveTo (current.index + 1))
      else .fail state
  | .pass automaton =>
      match automaton.matchAt text current.index with
      | some index => state.goOn (current.moveTo index)
      | none => .fail state
  | .require anchor => goOnIf (anchor.holdsAt text current.index)
  | .split first second => state.remember (current.goTo first) (current.goTo second)
  | .jump target => state.goOn (current.goTo target)
  | .mark slot => state.goOn (current.write slot current.index).step
  | .clear slot => state.goOn (current.write slot 0).step
  | .restore slot => state.goOn (current.moveTo ((current.slot? slot).getD current.index))
  | .count greedy least most leave slot =>
      let count := (current.slot? slot).getD 0
      if most = some count then state.goOn (current.goTo leave)
      else enterLoop state greedy least count leave (current.write slot (count + 1))
  | .countAdvancing greedy least leave slot placeSlot =>
      let count := (current.slot? slot).getD 0
      if 0 < count ∧ current.slot? placeSlot = some current.index then .fail state
      else
        let counted := current.write slot (count + 1)
        let counted := if least ≤ count then counted.write placeSlot current.index else counted
        enterLoop state greedy least count leave counted
  | .failLook =>
      let (ways, wayCount) := forgetTo (current.place + 1) state.ways state.wayCount
      .fail { state with ways, wayCount }
  | .goBack count =>
      if count ≤ current.index then state.goOn (current.moveTo (current.index - count))
      else .fail state
  | .repeatGroup group =>
      match current.slot? (2 * group), current.slot? (2 * group + 1) with
      | some first, some last =>
          if comesAgain text first last current.index then
            state.goOn (current.moveTo (current.index + (last - first)))
          else .fail state
      | _, _ => .fail state
  | .requireGroup group => goOnIf (current.slot? (2 * group)).isSome
  | .beginAtomic =>
      state.goOn { current.step with atomics := state.wayCount :: current.atomics }
  | .endAtomic =>
      match current.atomics with
      | [] => .fail state
      | count :: atomics =>
          .next
            { state with
              current := { current.step with atomics }
              ways := state.ways.drop (state.wayCount - count)
              wayCount := min count state.wayCount }
  | .requireSearchStart => goOnIf (current.index == 0)
  | .succeed => .matched

/-- Take the way that was remembered last. -/
def goBack (state : State) : Progress :=
  match state.ways with
  | [] => .abandoned
  | way :: ways =>
      if limit ≤ state.returns then .abandoned
      else
        .next
          { current := way
            ways
            wayCount := state.wayCount - 1
            returns := state.returns + 1 }

/-- Run a program for a number of steps. -/
def run (program : Program) (text : Array Char) : (fuel : Nat) → State → Bool
  | 0, _ => false
  | fuel + 1, state =>
      match program.instructions[state.current.place]? with
      | none => false
      | some instruction =>
          match carryOut text state instruction with
          | .next state => run program text fuel state
          | .matched => true
          | .abandoned => false
          | .fail state =>
              match goBack state with
              | .next state => run program text fuel state
              | _ => false

/-- More steps than any run takes before it succeeds or gives up. -/
def maxSteps : Nat := Nat.pow 2 60

/-- A program matches somewhere in a text. -/
def matchesIn (program : Program) (text : Array Char) : Bool :=
  run program text maxSteps
    { current :=
        { place := 0, index := 0, slots := Array.replicate program.slots none, atomics := [] } }

end Machine

end ToolGate.Pattern
