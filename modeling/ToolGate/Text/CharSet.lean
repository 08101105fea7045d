/-!
# Sets of characters

A set of characters is an array of ranges of codes in ascending order, with
a gap between any two of them, so that membership is found by halving.
Codes that no character has may lie in a range; they are never asked for.

Tables of sets are written as texts: ranges in hexadecimal digits, apart by
blanks.
-/

namespace ToolGate

/-- A range of codes, both ends included. -/
structure CodeRange where
  /-- The least code. -/
  first : Nat
  /-- The greatest code. -/
  last : Nat
deriving DecidableEq, Repr

/-- A set of characters. -/
structure CharSet where
  /-- The ranges, in ascending order and apart from each other. -/
  ranges : Array CodeRange
deriving DecidableEq, Repr

namespace CharSet

/-- The greatest code of a character. -/
def maxCode : Nat := 0x10FFFF

/-- The set without characters. -/
def empty : CharSet := ⟨#[]⟩

/-- The set of all characters. -/
def all : CharSet := ⟨#[⟨0, maxCode⟩]⟩

/-- The set of one character. -/
def singleton (c : Char) : CharSet := ⟨#[⟨c.toNat, c.toNat⟩]⟩

/-- The set of the characters from one to another. -/
def range (first last : Char) : CharSet := ⟨#[⟨first.toNat, last.toNat⟩]⟩

/-- No character is in the set. -/
def isEmpty (set : CharSet) : Bool := set.ranges.isEmpty

/-- The code lies in one of the ranges whose index is from `low` up to but not `high`. -/
def containsBetween (ranges : Array CodeRange) (code low high : Nat) : Bool :=
  if low < high then
    let middle := (low + high) / 2
    match ranges[middle]? with
    | none => false
    | some range =>
        if code < range.first then containsBetween ranges code low middle
        else if range.last < code then containsBetween ranges code (middle + 1) high
        else true
  else false
termination_by high - low

/-- A code is in the set. -/
def containsCode (set : CharSet) (code : Nat) : Bool :=
  containsBetween set.ranges code 0 set.ranges.size

/-- A character is in the set. -/
def contains (set : CharSet) (c : Char) : Bool :=
  set.containsCode c.toNat

/-- Add a range that begins no earlier than the ranges so far. -/
def pushRange (ranges : Array CodeRange) (range : CodeRange) : Array CodeRange :=
  match ranges.back? with
  | none => ranges.push range
  | some last =>
      if range.first ≤ last.last + 1 then
        ranges.pop.push ⟨last.first, max last.last range.last⟩
      else ranges.push range

/-- The set of all codes in some ranges, given in any order. -/
def ofRanges (ranges : List CodeRange) : CharSet :=
  let sorted := ranges.mergeSort fun a b => decide (a.first ≤ b.first)
  ⟨sorted.foldl pushRange #[]⟩

/-- The characters of either set. -/
def union (a b : CharSet) : CharSet :=
  if a.isEmpty then b
  else if b.isEmpty then a
  else ofRanges (a.ranges.toList ++ b.ranges.toList)

/-- The characters of any of the sets. -/
def unions (sets : List CharSet) : CharSet :=
  ofRanges (sets.flatMap fun set => set.ranges.toList)

/-- The gaps between ranges, from a code on. -/
def gaps (start : Nat) : List CodeRange → List CodeRange
  | [] => if start ≤ maxCode then [⟨start, maxCode⟩] else []
  | range :: rest =>
      if start < range.first then ⟨start, range.first - 1⟩ :: gaps (range.last + 1) rest
      else gaps (range.last + 1) rest

/-- The characters that are not in the set. -/
def complement (set : CharSet) : CharSet :=
  ⟨(gaps 0 set.ranges.toList).toArray⟩

/-- The characters of both sets. -/
def intersection (a b : CharSet) : CharSet :=
  (a.complement.union b.complement).complement

/-- The characters of the first set that are not in the second. -/
def difference (a b : CharSet) : CharSet :=
  a.intersection b.complement

/-- The characters of exactly one of the sets. -/
def symmetricDifference (a b : CharSet) : CharSet :=
  (a.union b).difference (a.intersection b)

/-- What is read of a table text: the ranges so far, an open range, and the code being read. -/
structure TableState where
  ranges : Array CodeRange := #[]
  first : Option Nat := none
  code : Option Nat := none

/-- The value of a hexadecimal digit in lower case. -/
def hexValue? (c : Char) : Option Nat :=
  if '0' ≤ c ∧ c ≤ '9' then some (c.toNat - '0'.toNat)
  else if 'a' ≤ c ∧ c ≤ 'f' then some (c.toNat - 'a'.toNat + 10)
  else none

/-- Close the range that has been read, if there is one. -/
def TableState.close (state : TableState) : TableState :=
  match state.first, state.code with
  | none, none => state
  | none, some code => { ranges := state.ranges.push ⟨code, code⟩ }
  | some first, none => { ranges := state.ranges.push ⟨first, first⟩ }
  | some first, some code => { ranges := state.ranges.push ⟨first, code⟩ }

/-- Read one character of a table text. -/
def TableState.next (state : TableState) (c : Char) : TableState :=
  match hexValue? c with
  | some digit => { state with code := some (state.code.getD 0 * 16 + digit) }
  | none => if c = '-' then { state with first := state.code, code := none } else state.close

/-- The set that a table text writes, its ranges in ascending order. -/
def ofTable (text : String) : CharSet :=
  ⟨(text.foldl TableState.next {}).close.ranges⟩

end CharSet

end ToolGate
