import ToolGate.Format.Form
import ToolGate.Text.Digit

/-!
# Internet addresses

An address of four bytes is written as decimal numbers joined by points, and
one of sixteen bytes as hexadecimal groups joined by colons.  In the longer
form one run of zero groups may be left out, and the last two groups may be
written in the shorter form.

A text must be readable as an address, and besides it must have the form of
one: in the form of the shorter address a digit may be of any script where
none in particular is asked for, and the longer address has a colon.
-/

namespace ToolGate.Format.IpAddress

open Text

/-- The value of a hexadecimal digit. -/
def hexDigit? (c : Char) : Option Nat :=
  if c.isDigit then some (c.toNat - '0'.toNat)
  else if 'a' ≤ c ∧ c ≤ 'f' then some (c.toNat - 'a'.toNat + 10)
  else if 'A' ≤ c ∧ c ≤ 'F' then some (c.toNat - 'A'.toNat + 10)
  else none

/-- Read a byte in decimal: at most three digits, and no zero before another digit. -/
def readByte (text : List Char) : Option (Nat × List Char) :=
  match spanDigits text with
  | ([], _) => none
  | (digits, rest) =>
      let value := decimalValue digits
      if digits.length ≤ 3 ∧ value ≤ 255 ∧ (digits.head? ≠ some '0' ∨ digits.length = 1) then
        some (value, rest)
      else none

/-- Read bytes joined by points. -/
def readBytes : (count : Nat) → List Char → Option (List Nat × List Char)
  | 0, text => some ([], text)
  | 1, text => (readByte text).map fun (byte, rest) => ([byte], rest)
  | count + 1, text =>
      match readByte text with
      | some (byte, '.' :: rest) =>
          (readBytes count rest).map fun (bytes, rest) => (byte :: bytes, rest)
      | _ => none

/-- The address of four bytes that a whole text gives. -/
def version4? (text : List Char) : Option (List Nat) :=
  match readBytes 4 text with
  | some (bytes, []) => some bytes
  | _ => none

/-- Read a group: one to four hexadecimal digits, and no further one behind them. -/
def readGroup (text : List Char) : Option (List Char) :=
  match text.span fun c => (hexDigit? c).isSome with
  | (digits, rest) => if 1 ≤ digits.length ∧ digits.length ≤ 4 then some rest else none

/-- Take the colon before every group but the first. -/
def readSeparator (first : Bool) (text : List Char) : Option (List Char) :=
  if first then some text
  else
    match text with
    | ':' :: rest => some rest
    | _ => none

/--
Read groups while at most `limit` of them fit.  The result is their number,
whether the shorter form made up the last two, and the rest of the text.
-/
def readGroups : (limit : Nat) → (first : Bool) → List Char → Nat × Bool × List Char
  | 0, _, text => (0, false, text)
  | limit + 1, first, text =>
      let short :=
        if limit = 0 then none else (readSeparator first text).bind (readBytes 4)
      match short with
      | some (_, rest) => (2, true, rest)
      | none =>
          match (readSeparator first text).bind readGroup with
          | some rest =>
              let (count, short, rest) := readGroups limit false rest
              (count + 1, short, rest)
          | none => (0, false, text)

/-- The whole text is an address of eight groups. -/
def isVersion6 (text : List Char) : Bool :=
  match readGroups 8 true text with
  | (8, _, rest) => rest.isEmpty
  | (count, false, ':' :: ':' :: rest) => (readGroups (7 - count) true rest).2.2.isEmpty
  | _ => false

/-- A decimal digit of any script. -/
def digit : Form :=
  .one Text.isDecimalDigit

/-- A number up to 255. -/
def byte : Form :=
  .choice
    [.sequence [.char '2', .char '5', .range '0' '5'],
      .sequence [.char '2', .range '0' '4', digit],
      .sequence [.char '1', digit, digit]]
    (.sequence [.optional (.range '1' '9'), digit])

/-- Four numbers joined by points. -/
def version4Form : Form :=
  .sequence [(Form.sequence [byte, .char '.']).times 3, byte]

/-- The text is an address of four bytes. -/
def acceptsVersion4 (text : String) : Bool :=
  version4Form.admits text.toList && (version4? text.toList).isSome

/-- The text is an address of sixteen bytes. -/
def acceptsVersion6 (text : String) : Bool :=
  text.toList.contains ':' && isVersion6 text.toList

end ToolGate.Format.IpAddress
