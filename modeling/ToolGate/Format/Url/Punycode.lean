/-!
# Punycode

A label with characters beyond ASCII is written in ASCII: first the ASCII
characters of the label and a hyphen, then one number for each other
character, which says how far to count in order to find its code and its
place.  The numbers have digits of varying weight, which adapt to the
numbers before.
-/

namespace ToolGate.Format.Url.Punycode

/-- The value of a digit. -/
def digit? (c : Char) : Option Nat :=
  if 'a' ≤ c ∧ c ≤ 'z' then some (c.toNat - 'a'.toNat)
  else if 'A' ≤ c ∧ c ≤ 'Z' then some (c.toNat - 'A'.toNat)
  else if '0' ≤ c ∧ c ≤ '9' then some (c.toNat - '0'.toNat + 26)
  else none

/-- The least digit that does not end a number, at a place. -/
def threshold (place bias : Nat) : Nat :=
  if place ≤ bias then 1 else if bias + 26 ≤ place then 26 else place - bias

/-- Divide until the number is small, and count the divisions. -/
def reduce (delta : Nat) : Nat × Nat :=
  if 455 < delta then
    let (rest, count) := reduce (delta / 35)
    (rest, count + 1)
  else (delta, 0)
termination_by delta
decreasing_by omega

/-- The bias for the next number. -/
def adapt (delta length : Nat) (isFirst : Bool) : Nat :=
  let delta := if isFirst then delta / 700 else delta / 2
  let (delta, count) := reduce (delta + delta / length)
  36 * count + 36 * delta / (delta + 38)

/-- Numbers beyond this one are not read. -/
def greatest : Nat := UInt32.size - 1

/-- Read a number and add it to another one. -/
def readNumber (bias : Nat) : (sum weight place : Nat) → List Char → Option (Nat × List Char)
  | _, _, _, [] => none
  | sum, weight, place, c :: rest => do
      let digit ← digit? c
      let sum := sum + digit * weight
      if greatest < sum then none
      else if digit < threshold place bias then some (sum, rest)
      else
        let weight := weight * (36 - threshold place bias)
        if greatest < weight then none else readNumber bias sum weight (place + 36) rest

/-- Where decoding stands. -/
structure State where
  /-- The code that characters have from here on. -/
  code : Nat := 128
  /-- The place of the next character. -/
  index : Nat := 0
  /-- How digits are weighed. -/
  bias : Nat := 72
  /-- The characters so far. -/
  text : List Char

/-- Put a character into a text at a place. -/
def insertAt (c : Char) (index : Nat) (text : List Char) : List Char :=
  text.take index ++ c :: text.drop index

/-- Take in the number that was read. -/
def State.insert (state : State) (sum : Nat) : Option State :=
  let length := state.text.length + 1
  let code := state.code + sum / length
  if code.isValidChar then
    some
      { code
        index := sum % length + 1
        bias := adapt (sum - state.index) length (state.index == 0)
        text := insertAt (Char.ofNat code) (sum % length) state.text }
  else none

/-- Decode numbers. -/
def decodeFrom : (fuel : Nat) → State → List Char → Option (List Char)
  | 0, _, _ => none
  | _ + 1, state, [] => some state.text
  | fuel + 1, state, digits => do
      let (sum, rest) ← readNumber state.bias state.index 1 36 digits
      decodeFrom fuel (← state.insert sum) rest

/-- The parts before and behind the last hyphen; without one, or if it comes first, all is behind. -/
def split (text : List Char) : List Char × List Char :=
  match text.reverse.span (· != '-') with
  | (_, []) => ([], text)
  | (_, [_]) => ([], text)
  | (behind, _ :: before) => (before.reverse, behind.reverse)

/-- The label that a text writes. -/
def decode? (text : List Char) : Option (List Char) :=
  let (plain, digits) := split text
  if plain.all fun c => c.toNat < 128 then
    decodeFrom (digits.length + 1) { text := plain } digits
  else none

end ToolGate.Format.Url.Punycode
