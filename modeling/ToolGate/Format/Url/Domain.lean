import ToolGate.Format.Url.DomainTable
import ToolGate.Format.Url.Punycode
import ToolGate.Text.Category
import ToolGate.Text.Composition

/-!
# Domain names

A domain name is brought to one form: characters are replaced or left out,
the result is composed, labels that write others in ASCII are decoded.  The
labels must then keep some rules, which concern joiners, marks, and texts
that are written in both directions.
-/

namespace ToolGate.Format.Url.Domain

open ToolGate.Text

/-! ## Replacement -/

/-- An entry of the table of replacements. -/
structure Replacement where
  /-- The least code that is replaced. -/
  first : Nat
  /-- The greatest code that is replaced. -/
  last : Nat
  /-- The step between codes that are replaced. -/
  step : Nat
  /-- What stands for the least code. -/
  target : List Nat

/-- The number that hexadecimal digits write. -/
def number (digits : List Char) : Nat :=
  Composition.hexNumber digits

/-- The parts of a text between the occurrences of a mark. -/
def partsAt (mark : Char) (text : List Char) : List (List Char) :=
  Composition.splitWhere (· == mark) text

/-- The entry of a text. -/
def readReplacement? (entry : List Char) : Option Replacement :=
  match partsAt '=' entry with
  | [codes, target] =>
      let target := (partsAt ',' target).map number
      match partsAt '-' codes with
      | [code] => some ⟨number code, number code, 1, target⟩
      | [first, last] =>
          match partsAt '/' last with
          | [last, step] => some ⟨number first, number last, number step, target⟩
          | _ => some ⟨number first, number last, 1, target⟩
      | _ => none
  | _ => none

/-- All replacements, in ascending order. -/
def replacements : Array Replacement :=
  ((Composition.splitWhere (fun c => c == ' ' || c == '\n')
    DomainTable.replacementTable.toList).filterMap readReplacement?).toArray

/-- The replacement of a code by an entry, if the entry is about it. -/
def Replacement.apply? (entry : Replacement) (code : Nat) : Option (List Nat) :=
  if entry.first ≤ code ∧ code ≤ entry.last ∧ (code - entry.first) % entry.step = 0 then
    match entry.target with
    | [target] => some [target + (code - entry.first)]
    | target => some target
  else none

/-- What a character is replaced by: nothing if it may not stand in a domain name. -/
def replace? (c : Char) : Option (List Char) :=
  if c.toNat < 128 then some [c.toLower]
  else if DomainTable.disallowed.contains c then none
  else if DomainTable.ignored.contains c then some []
  else
    match replacements.findSome? fun entry => entry.apply? c.toNat with
    | some target => some (target.map Char.ofNat)
    | none => some [c]

/-- The form of a text with all replacements made, composed. -/
def canonical? (text : List Char) : Option (List Char) := do
  some (Composition.normalize (← text.mapM replace?).flatten)

/-! ## Labels -/

/-- The label that another one writes in ASCII, if it writes one in its own form. -/
def decoded? (label : List Char) : Option (List Char) := do
  let text ← Punycode.decode? label
  if text.all fun c => c.toNat < 128 then none
  else if (← canonical? text) = text then some text
  else none

/-- A label as it is read, be it written in ASCII or not. -/
def readLabel? (label : List Char) : Option (List Char) :=
  match label with
  | 'x' :: 'n' :: '-' :: '-' :: rest => decoded? rest
  | label => some label

/-- Marks that join what stands before and behind them. -/
def joiningMarks : CharSet :=
  ((Composition.classTable.lookup 9).getD .empty)

/-- The character next to a joiner, but for transparent ones, is of a set. -/
def reaches (set : CharSet) (characters : List Char) : Bool :=
  match characters.dropWhile DomainTable.transparent.contains with
  | c :: _ => set.contains c
  | [] => false

/-- A joiner stands where it may; `before` holds what stands before it, the last one first. -/
def isJoinerAllowed (zeroWidth : Bool) (before behind : List Char) : Bool :=
  (before.head?.map joiningMarks.contains).getD false
    || !zeroWidth
      && reaches (DomainTable.joinsLeft.union DomainTable.joinsBoth) before
      && reaches (DomainTable.joinsRight.union DomainTable.joinsBoth) behind

/-- All joiners stand where they may. -/
def hasGoodJoiners : (before : List Char) → List Char → Bool
  | _, [] => true
  | before, c :: rest =>
      (if c.toNat = 0x200C then isJoinerAllowed false before rest
        else if c.toNat = 0x200D then isJoinerAllowed true before rest
        else true)
      && hasGoodJoiners (c :: before) rest

/-- Marks, which need a character before them. -/
def marks : CharSet :=
  Category.ofNames ["m"]

/-- A label keeps the rules for single labels. -/
def isLabel (label : List Char) : Bool :=
  !(label.head?.map marks.contains).getD false && hasGoodJoiners [] label

/-! ## Direction -/

/-- The direction of a character. -/
inductive Direction where
  | left
  | right
  | arabicNumber
  | europeanNumber
  | neutral
  | attached
deriving DecidableEq, Repr

/-- The direction of a character. -/
def directionOf (c : Char) : Direction :=
  if c.isAlpha then .left
  else if DomainTable.rightToLeft.contains c then .right
  else if DomainTable.arabicNumbers.contains c then .arabicNumber
  else if DomainTable.europeanNumbers.contains c then .europeanNumber
  else if DomainTable.neutrals.contains c then .neutral
  else if DomainTable.attached.contains c then .attached
  else .left

/-- The directions of a label without the attached marks at its end, the last one first. -/
def fromEnd (directions : List Direction) : List Direction :=
  directions.reverse.dropWhile (· == .attached)

/-- A label written from left to right has only what goes with it, and ends well. -/
def isLeftLabel (directions : List Direction) : Bool :=
  directions.all (fun d => d != .right && d != .arabicNumber)
    && match fromEnd directions with
      | last :: _ => last == .left || last == .europeanNumber
      | [] => true

/-- A label written from right to left has only what goes with it, and ends well. -/
def isRightLabel (directions : List Direction) : Bool :=
  directions.all (· != .left)
    && !(directions.contains .arabicNumber && directions.contains .europeanNumber)
    && match fromEnd directions with
      | last :: _ => last != .neutral && last != .attached
      | [] => true

/-- A label may stand in a name that has characters written from right to left. -/
def isDirectedLabel (label : List Char) : Bool :=
  let directions := label.map directionOf
  match directions.head? with
  | none => true
  | some .left => isLeftLabel directions
  | some .right => isRightLabel directions
  | some _ => false

/-- A label has characters written from right to left. -/
def hasRightToLeft (label : List Char) : Bool :=
  label.any fun c =>
    DomainTable.rightToLeft.contains c || DomainTable.arabicNumbers.contains c

/-! ## Names -/

/-- ASCII characters that have another meaning around a domain name. -/
def isForbidden (c : Char) : Bool :=
  c.toNat ≤ 32 || c.toNat == 127 || "%#/:<>?@[\\]^|".toList.contains c

/-- Labels longer than this one are not treated. -/
def maxLabelLength : Nat := 1000

/-- The labels of a domain name, if it is one. -/
def labels? (name : List Char) : Option (List (List Char)) := do
  let text ← canonical? name
  let labels ← (partsAt '.' text).mapM readLabel?
  if text.any isForbidden then none
  else if labels.any fun label =>
      label.any (fun c => 128 ≤ c.toNat) && maxLabelLength < label.length then none
  else if !labels.all isLabel then none
  else if labels.any hasRightToLeft && !labels.all isDirectedLabel then none
  else some labels

end ToolGate.Format.Url.Domain
