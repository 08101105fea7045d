import ToolGate.Format.IpAddress
import ToolGate.Format.Url.Domain

/-!
# Hosts

A host is a domain name, an address of four bytes, or an address of sixteen
bytes in brackets.  A domain name whose last label is a number must be an
address of four bytes; its numbers may be written in three bases, and the
last one stands for all bytes that are left.
-/

namespace ToolGate.Format.Url

/-- A host. -/
inductive Host where
  /-- A name. -/
  | domain (labels : List (List Char))
  /-- An address of four bytes, as a number. -/
  | address4 (value : Nat)
  /-- An address of sixteen bytes. -/
  | address6
deriving DecidableEq, Repr

namespace Host

/-! ## Numbers -/

/-- The value of a digit in a base. -/
def digitIn? (base : Nat) (c : Char) : Option Nat :=
  (IpAddress.hexDigit? c).filter (· < base)

/-- The number that digits write in a base; no digit at all writes zero. -/
def numberIn? (base : Nat) (digits : List Char) : Option Nat :=
  (digits.mapM (digitIn? base)).map fun digits =>
    digits.foldl (fun value digit => value * base + digit) 0

/-- The number that a label writes, in a base that its first characters give. -/
def number? : List Char → Option Nat
  | [] => none
  | '0' :: 'x' :: digits => numberIn? 16 digits
  | '0' :: 'X' :: digits => numberIn? 16 digits
  | ['0'] => some 0
  | '0' :: digits => numberIn? 8 digits
  | digits => numberIn? 10 digits

/-- The labels of a name, without an empty one at the end. -/
def withoutEmptyEnd (labels : List (List Char)) : List (List Char) :=
  if labels.getLast? = some [] then labels.dropLast else labels

/-- The last label is a number, or looks like one. -/
def endsInNumber (labels : List (List Char)) : Bool :=
  match (withoutEmptyEnd labels).getLast? with
  | some last => !last.isEmpty && last.all Char.isDigit || (number? last).isSome
  | none => false

/-- The address that numbers give: all but the last one are bytes. -/
def addressOf? (bytes : List Nat) (last : Nat) : Option Nat :=
  let free := Nat.pow 256 (4 - bytes.length)
  if bytes.length ≤ 3 ∧ bytes.all (· ≤ 255) ∧ last < free then
    some (bytes.foldl (fun value byte => value * 256 + byte) 0 * free + last)
  else none

/-- The address of four bytes that labels write. -/
def address4? (labels : List (List Char)) : Option Nat := do
  let numbers ← (withoutEmptyEnd labels).mapM number?
  addressOf? numbers.dropLast (← numbers.getLast?)

/-! ## Texts -/

/-- The host of an address in brackets. -/
def bracketed? (text : List Char) : Option Host :=
  match text.getLast? with
  | some ']' => if IpAddress.isVersion6 text.dropLast then some .address6 else none
  | _ => none

/-- The bytes of a text, where a percent sign before two digits gives a byte by its number. -/
def percentDecode : List Char → List UInt8
  | [] => []
  | '%' :: high :: low :: rest =>
      match IpAddress.hexDigit? high, IpAddress.hexDigit? low with
      | some h, some l => UInt8.ofNat (h * 16 + l) :: percentDecode rest
      | _, _ => 37 :: percentDecode (high :: low :: rest)
  | c :: rest => (String.singleton c).toUTF8.toList ++ percentDecode rest
termination_by text => text.length

/-- The host of labels. -/
def ofLabels? (labels : List (List Char)) : Option Host :=
  if labels = [[]] then none
  else if endsInNumber labels then (address4? labels).map .address4
  else some (.domain labels)

/-- The host that a text writes under a scheme with a fixed form of hosts. -/
def ofText? (text : List Char) : Option Host :=
  match text with
  | '[' :: rest => bracketed? rest
  | text => do
      let decoded ← String.fromUTF8? ⟨(percentDecode text).toArray⟩
      ofLabels? (← Domain.labels? decoded.toList)

/-- A character that may not stand in a host of any form. -/
def isForbidden (c : Char) : Bool :=
  "\x00\t\n\r #/:<>?@[\\]^|".toList.contains c

/-- The host that a text writes under any other scheme, where it may be empty. -/
def ofOpaqueText? (text : List Char) : Option Host :=
  match text with
  | '[' :: rest => bracketed? rest
  | text => if text.any isForbidden then none else some (.domain [text])

/-- The host is the name that is nothing. -/
def isEmpty (host : Host) : Bool :=
  host == .domain [[]]

end Host

end ToolGate.Format.Url
