import ToolGate.Json.Basic

/-!
# Reading JSON text

The reader takes one value, blanks around it, and nothing else.  A fault is
reported with its cause and its place: a line, and a column counted in bytes
from the start of that line.  The place is that of the last byte taken, or of
the byte looked at if that byte was refused without being taken.

Containers nest at most 127 deep.  Of equal keys in an object the last value
counts, at the place of the first.
-/

namespace ToolGate

/-- Why a text is not a JSON value. -/
inductive JsonFault where
  /-- The text ends inside a list. -/
  | endInList
  /-- The text ends inside an object. -/
  | endInObject
  /-- The text ends inside a string. -/
  | endInString
  /-- The text ends where a value is due. -/
  | endInValue
  /-- No colon follows a key. -/
  | colonExpected
  /-- An element is followed by neither a comma nor the end of the list. -/
  | listCommaExpected
  /-- A member is followed by neither a comma nor the end of the object. -/
  | objectCommaExpected
  /-- A literal name is misspelt. -/
  | identExpected
  /-- No value starts here. -/
  | valueExpected
  /-- An unknown escape. -/
  | invalidEscape
  /-- A number that does not follow the grammar. -/
  | invalidNumber
  /-- A number beyond the finite range. -/
  | numberOutOfRange
  /-- The bytes of a string are no text. -/
  | invalidText
  /-- A control character inside a string. -/
  | controlCharacter
  /-- A key that is not a string. -/
  | keyNotString
  /-- A trailing surrogate without a leading one. -/
  | loneSurrogate
  /-- A comma before the closing bracket. -/
  | trailingComma
  /-- Something follows the value. -/
  | trailingCharacters
  /-- A leading surrogate without a trailing one. -/
  | surrogateUnpaired
  /-- Too many containers inside one another. -/
  | tooDeep
deriving DecidableEq, Repr

/-- The wording of a fault. -/
def JsonFault.message : JsonFault → String
  | .endInList => "EOF while parsing a list"
  | .endInObject => "EOF while parsing an object"
  | .endInString => "EOF while parsing a string"
  | .endInValue => "EOF while parsing a value"
  | .colonExpected => "expected \x60:\x60"
  | .listCommaExpected => "expected \x60,\x60 or \x60]\x60"
  | .objectCommaExpected => "expected \x60,\x60 or \x60\x7d\x60"
  | .identExpected => "expected ident"
  | .valueExpected => "expected value"
  | .invalidEscape => "invalid escape"
  | .invalidNumber => "invalid number"
  | .numberOutOfRange => "number out of range"
  | .invalidText => "invalid unicode code point"
  | .controlCharacter => "control character (\\u0000-\\u001F) found while parsing a string"
  | .keyNotString => "key must be a string"
  | .loneSurrogate => "lone leading surrogate in hex escape"
  | .trailingComma => "trailing comma"
  | .trailingCharacters => "trailing characters"
  | .surrogateUnpaired => "unexpected end of hex escape"
  | .tooDeep => "recursion limit exceeded"

/-- A fault and its place. -/
structure JsonError where
  /-- What is wrong. -/
  fault : JsonFault
  /-- The line, counted from one. -/
  line : Nat
  /-- The number of bytes of the line up to the place. -/
  column : Nat
deriving DecidableEq, Repr

/-- The wording of an error. -/
def JsonError.message (error : JsonError) : String :=
  error.fault.message ++ " at line " ++ toString error.line ++ " column " ++ toString error.column

namespace Json.Reader

/-- What a step of the reader gives: a value and the index of the next byte. -/
abbrev Result (α : Type) := Except JsonError (α × Nat)

/-- Go on from a step that succeeded. -/
def Result.next {α β : Type} (result : Result α) (continue_ : α → Nat → Result β) : Result β :=
  match result with
  | .ok (value, index) => continue_ value index
  | .error error => .error error

/-- The line and the column of an index. -/
def place (bytes : ByteArray) (index : Nat) : Nat × Nat :=
  (bytes.toList.take index).foldl
    (fun at_ byte => if byte = 10 then (at_.1 + 1, 0) else (at_.1, at_.2 + 1)) (1, 0)

/-- A fault at an index, all bytes before which are taken. -/
def faultAt (bytes : ByteArray) (index : Nat) (fault : JsonFault) : JsonError :=
  let (line, column) := place bytes index
  ⟨fault, line, column⟩

/-- A fault at the byte that is looked at. -/
def faultAhead (bytes : ByteArray) (index : Nat) (fault : JsonFault) : JsonError :=
  faultAt bytes (min bytes.size (index + 1)) fault

/-- The index of the first byte, from `index` on, that is not in the class. -/
def skipWhile (bytes : ByteArray) (inClass : UInt8 → Bool) (index : Nat) : Nat :=
  if h : index < bytes.size then
    if inClass bytes[index] then skipWhile bytes inClass (index + 1) else index
  else index
termination_by bytes.size - index

/-- A blank between tokens. -/
def isBlank (byte : UInt8) : Bool :=
  byte == 32 || byte == 10 || byte == 9 || byte == 13

/-- A decimal digit. -/
def isDigit (byte : UInt8) : Bool :=
  48 ≤ byte && byte ≤ 57

/-- The value of a decimal digit. -/
def digitValue (byte : UInt8) : Nat :=
  byte.toNat - 48

/-- Skip blanks. -/
def skipBlanks (bytes : ByteArray) (index : Nat) : Nat :=
  skipWhile bytes isBlank index

/-- The byte at an index is in a class. -/
def byteIs (bytes : ByteArray) (index : Nat) (inClass : UInt8 → Bool) : Bool :=
  match bytes[index]? with
  | some byte => inClass byte
  | none => false

/-! ## Numbers -/

/-- Take digits into a significand as long as it fits a word of 64 bits. -/
def takeDigits (bytes : ByteArray) (significand index : Nat) : Nat × Nat :=
  if h : index < bytes.size then
    let byte := bytes[index]
    let next := significand * 10 + digitValue byte
    if isDigit byte && next < UInt64.size then takeDigits bytes next (index + 1)
    else (significand, index)
  else (significand, index)
termination_by bytes.size - index

/-- The double-precision number nearest to a power of ten. -/
def powerOfTen (exponent : Nat) : Binary64 :=
  Binary64.ofNat (Nat.pow 10 exponent)

/--
Scale by a negative power of ten, in steps of `10 ^ 308` as long as the
exponent is greater than that.
-/
def scaleDown : (fuel : Nat) → Binary64 → (exponent : Nat) → Binary64
  | 0, x, _ => x
  | fuel + 1, x, exponent =>
      if exponent ≤ 308 then (x.div? (powerOfTen exponent)).getD x
      else if x.isZero then x
      else scaleDown fuel ((x.div? (powerOfTen 308)).getD x) (exponent - 308)

/--
A significand times a power of ten: both are rounded, and then their product
or quotient is.  Nothing if the number is beyond the finite range.
-/
def scale? (significand : Nat) (exponent : Int) : Option Binary64 :=
  let x := Binary64.ofNat significand
  if exponent < 0 then some (scaleDown 8 x exponent.natAbs)
  else if exponent ≤ 308 then x.mul? (powerOfTen exponent.natAbs)
  else if x.isZero then some x
  else none

/-- A number of float form from its parts, all bytes of which are taken. -/
def finishFloat (bytes : ByteArray) (negative : Bool) (significand : Nat) (exponent : Int)
    (index : Nat) : Result JsonNumber :=
  match scale? significand exponent with
  | some x => .ok (.float (if negative then x.neg else x), index)
  | none => .error (faultAt bytes index .numberOutOfRange)

/-- The greatest exponent that is read digit by digit. -/
def exponentLimit : Nat := 2147483647

/-- Take the digits of an exponent; the exponent is missing if it passes the limit. -/
def takeExponent (bytes : ByteArray) (exponent index : Nat) : Option Nat × Nat :=
  if h : index < bytes.size then
    let byte := bytes[index]
    if isDigit byte then
      let next := exponent * 10 + digitValue byte
      if next ≤ exponentLimit then takeExponent bytes next (index + 1) else (none, index + 1)
    else (some exponent, index)
  else (some exponent, index)
termination_by bytes.size - index

/-- Keep an exponent within the range of a 32-bit word. -/
def clampExponent (exponent : Int) : Int :=
  max (-2147483648) (min exponent 2147483647)

/-- Read an exponent, from behind the letter `e`, and finish the number. -/
def readExponent (bytes : ByteArray) (negative : Bool) (significand : Nat) (start : Int)
    (index : Nat) : Result JsonNumber :=
  let hasSign := byteIs bytes index (fun byte => byte == 43 || byte == 45)
  let down := byteIs bytes index (· == 45)
  let index := if hasSign then index + 1 else index
  match bytes[index]? with
  | none => .error (faultAt bytes index .endInValue)
  | some byte =>
      if !isDigit byte then .error (faultAt bytes (index + 1) .invalidNumber)
      else
        match takeExponent bytes 0 index with
        | (some exponent, index) =>
            let total := if down then start - exponent else start + exponent
            finishFloat bytes negative significand (clampExponent total) index
        | (none, index) =>
            if significand != 0 && !down then .error (faultAt bytes index .numberOutOfRange)
            else .ok (.float (.zero negative), skipWhile bytes isDigit index)

/-- Read what follows the digits of a number of float form: an exponent or nothing. -/
def readScale (bytes : ByteArray) (negative : Bool) (significand : Nat) (exponent : Int)
    (index : Nat) : Result JsonNumber :=
  if byteIs bytes index (fun byte => byte == 101 || byte == 69) then
    readExponent bytes negative significand exponent (index + 1)
  else finishFloat bytes negative significand exponent index

/--
Read a fraction, from behind the point.  Digits that no longer fit the
significand are taken and ignored.
-/
def readFraction (bytes : ByteArray) (negative : Bool) (significand : Nat) (exponent : Nat)
    (index : Nat) : Result JsonNumber :=
  if byteIs bytes index isDigit then
    let (significand, stop) := takeDigits bytes significand index
    readScale bytes negative significand ((exponent : Int) - (stop - index : Nat))
      (skipWhile bytes isDigit stop)
  else if index < bytes.size then .error (faultAhead bytes index .invalidNumber)
  else .error (faultAt bytes index .endInValue)

/-- Read what follows the integer digits. -/
def readTail (bytes : ByteArray) (negative : Bool) (significand index : Nat) :
    Result JsonNumber :=
  if byteIs bytes index (· == 46) then readFraction bytes negative significand 0 (index + 1)
  else if byteIs bytes index (fun byte => byte == 101 || byte == 69) then
    readExponent bytes negative significand 0 (index + 1)
  else if negative then
    if significand = 0 ∨ Nat.pow 2 63 < significand then
      .ok (.float (Binary64.ofNat significand).neg, index)
    else .ok (.ofInt (-(significand : Int)), index)
  else .ok (.ofInt significand, index)

/--
Read the digits of a number, from behind its sign.  Integer digits that no
longer fit the significand count as powers of ten.
-/
def readNumber (bytes : ByteArray) (negative : Bool) (index : Nat) : Result JsonNumber :=
  match bytes[index]? with
  | none => .error (faultAt bytes index .endInValue)
  | some byte =>
      if byte = 48 then
        if byteIs bytes (index + 1) isDigit then
          .error (faultAhead bytes (index + 1) .invalidNumber)
        else readTail bytes negative 0 (index + 1)
      else if isDigit byte then
        let (significand, stop) := takeDigits bytes 0 index
        let index := skipWhile bytes isDigit stop
        if index = stop then readTail bytes negative significand index
        else if byteIs bytes index (· == 46) then
          readFraction bytes negative significand (index - stop) (index + 1)
        else readScale bytes negative significand (index - stop : Nat) index
      else .error (faultAt bytes (index + 1) .invalidNumber)

/-! ## Strings -/

/-- The value of a hexadecimal digit. -/
def hexValue? (byte : UInt8) : Option Nat :=
  if isDigit byte then some (digitValue byte)
  else if 97 ≤ byte && byte ≤ 102 then some (byte.toNat - 87)
  else if 65 ≤ byte && byte ≤ 70 then some (byte.toNat - 55)
  else none

/-- Read the four hexadecimal digits of an escape. -/
def readHex (bytes : ByteArray) (index : Nat) : Result Nat :=
  match bytes[index]?, bytes[index + 1]?, bytes[index + 2]?, bytes[index + 3]? with
  | some a, some b, some c, some d =>
      match hexValue? a, hexValue? b, hexValue? c, hexValue? d with
      | some a, some b, some c, some d => .ok (((a * 16 + b) * 16 + c) * 16 + d, index + 4)
      | _, _, _, _ => .error (faultAt bytes (index + 4) .invalidEscape)
  | _, _, _, _ => .error (faultAt bytes bytes.size .endInString)

/-- A surrogate that comes first in a pair. -/
def isLeading (unit : Nat) : Bool :=
  0xD800 ≤ unit && unit ≤ 0xDBFF

/-- A surrogate that comes second in a pair. -/
def isTrailing (unit : Nat) : Bool :=
  0xDC00 ≤ unit && unit ≤ 0xDFFF

/-- Read an escape by number, from behind the letter `u`: one unit or a pair of surrogates. -/
def readUnicode (bytes : ByteArray) (index : Nat) : Result Char :=
  (readHex bytes index).next fun unit index =>
  if isTrailing unit then .error (faultAt bytes index .loneSurrogate)
  else if !isLeading unit then .ok (Char.ofNat unit, index)
  else
    match bytes[index]? with
    | none => .error (faultAt bytes index .endInString)
    | some backslash =>
        if backslash ≠ 92 then .error (faultAt bytes (index + 1) .surrogateUnpaired)
        else
          match bytes[index + 1]? with
          | none => .error (faultAt bytes (index + 1) .endInString)
          | some letter =>
              if letter ≠ 117 then .error (faultAt bytes (index + 2) .surrogateUnpaired)
              else
                (readHex bytes (index + 2)).next fun second index =>
                if isTrailing second then
                  .ok (Char.ofNat (0x10000 + (unit - 0xD800) * 1024 + (second - 0xDC00)), index)
                else .error (faultAt bytes index .loneSurrogate)

/-- Read an escape, from behind the backslash. -/
def readEscape (bytes : ByteArray) (index : Nat) : Result Char :=
  match bytes[index]? with
  | none => .error (faultAt bytes index .endInString)
  | some byte =>
      if byte = 34 then .ok ('"', index + 1)
      else if byte = 92 then .ok ('\\', index + 1)
      else if byte = 47 then .ok ('/', index + 1)
      else if byte = 98 then .ok (Char.ofNat 8, index + 1)
      else if byte = 102 then .ok (Char.ofNat 12, index + 1)
      else if byte = 110 then .ok ('\n', index + 1)
      else if byte = 114 then .ok ('\r', index + 1)
      else if byte = 116 then .ok ('\t', index + 1)
      else if byte = 117 then readUnicode bytes (index + 1)
      else .error (faultAt bytes (index + 1) .invalidEscape)

/-- A byte that stands for itself inside a string. -/
def isPlain (byte : UInt8) : Bool :=
  32 ≤ byte && byte != 34 && byte != 92

/-- Read the rest of a string, `taken` being the bytes of its text so far. -/
def readStringFrom (bytes : ByteArray) : (fuel : Nat) → (taken : ByteArray) → Nat → Result String
  | 0, _, index => .error (faultAt bytes index .endInString)
  | fuel + 1, taken, index =>
      let stop := skipWhile bytes isPlain index
      let taken := taken ++ bytes.extract index stop
      match bytes[stop]? with
      | none => .error (faultAt bytes stop .endInString)
      | some byte =>
          if byte = 34 then
            match String.fromUTF8? taken with
            | some text => .ok (text, stop + 1)
            | none => .error (faultAt bytes (stop + 1) .invalidText)
          else if byte = 92 then
            match readEscape bytes (stop + 1) with
            | .ok (c, index) =>
                readStringFrom bytes fuel (taken ++ (String.singleton c).toUTF8) index
            | .error error => .error error
          else .error (faultAt bytes (stop + 1) .controlCharacter)

/-- Read a string, from behind its opening quote. -/
def readString (bytes : ByteArray) (index : Nat) : Result String :=
  readStringFrom bytes (bytes.size + 1) ByteArray.empty index

/-! ## Values -/

/-- Read the rest of a literal name. -/
def readIdent (bytes : ByteArray) (value : Json) : List UInt8 → Nat → Result Json
  | [], index => .ok (value, index)
  | expected :: rest, index =>
      match bytes[index]? with
      | none => .error (faultAt bytes index .endInValue)
      | some byte =>
          if byte = expected then readIdent bytes value rest (index + 1)
          else .error (faultAt bytes (index + 1) .identExpected)

/-- Read the elements of a list up to its closing bracket, `read` reading one element. -/
def readElements (bytes : ByteArray) (read : Nat → Result Json) :
    (fuel : Nat) → (taken : List Json) → Nat → Result Json
  | 0, _, index => .error (faultAt bytes index .endInList)
  | fuel + 1, taken, index =>
      let index := skipBlanks bytes index
      match bytes[index]? with
      | none => .error (faultAt bytes index .endInList)
      | some byte =>
          if byte = 93 then .ok (.array taken.reverse, index + 1)
          else if taken.isEmpty then
            (read index).next fun element index => readElements bytes read fuel [element] index
          else if byte ≠ 44 then .error (faultAhead bytes index .listCommaExpected)
          else
            let index := skipBlanks bytes (index + 1)
            match bytes[index]? with
            | none => .error (faultAt bytes index .endInValue)
            | some byte =>
                if byte = 93 then .error (faultAhead bytes index .trailingComma)
                else
                  (read index).next fun element index =>
                    readElements bytes read fuel (element :: taken) index

/-- Read one member, from its opening quote. -/
def readMember (bytes : ByteArray) (read : Nat → Result Json) (index : Nat) :
    Result (String × Json) :=
  (readString bytes (index + 1)).next fun key index =>
  let index := skipBlanks bytes index
  match bytes[index]? with
  | none => .error (faultAt bytes index .endInObject)
  | some byte =>
      if byte ≠ 58 then .error (faultAhead bytes index .colonExpected)
      else (read (index + 1)).next fun value index => .ok ((key, value), index)

/-- Read the members of an object up to its closing brace, `read` reading one value. -/
def readMembers (bytes : ByteArray) (read : Nat → Result Json) :
    (fuel : Nat) → (taken : List (String × Json)) → Nat → Result Json
  | 0, _, index => .error (faultAt bytes index .endInObject)
  | fuel + 1, taken, index =>
      let index := skipBlanks bytes index
      match bytes[index]? with
      | none => .error (faultAt bytes index .endInObject)
      | some byte =>
          if byte = 125 then .ok (.object (Entries.ofList taken.reverse), index + 1)
          else if taken.isEmpty then
            if byte ≠ 34 then .error (faultAhead bytes index .keyNotString)
            else
              (readMember bytes read index).next fun entry index =>
                readMembers bytes read fuel [entry] index
          else if byte ≠ 44 then .error (faultAhead bytes index .objectCommaExpected)
          else
            let index := skipBlanks bytes (index + 1)
            match bytes[index]? with
            | none => .error (faultAt bytes index .endInValue)
            | some byte =>
                if byte = 125 then .error (faultAhead bytes index .trailingComma)
                else if byte ≠ 34 then .error (faultAhead bytes index .keyNotString)
                else
                  (readMember bytes read index).next fun entry index =>
                    readMembers bytes read fuel (entry :: taken) index

/-- Read a value inside which containers may nest less than `depth` deep. -/
def readValue (bytes : ByteArray) : (depth : Nat) → Nat → Result Json
  | depth, index =>
      let index := skipBlanks bytes index
      match bytes[index]? with
      | none => .error (faultAt bytes index .endInValue)
      | some byte =>
          if byte = 110 then readIdent bytes .null [117, 108, 108] (index + 1)
          else if byte = 116 then readIdent bytes (.bool true) [114, 117, 101] (index + 1)
          else if byte = 102 then readIdent bytes (.bool false) [97, 108, 115, 101] (index + 1)
          else if byte = 45 then
            (readNumber bytes true (index + 1)).next fun n index => .ok (.number n, index)
          else if isDigit byte then
            (readNumber bytes false index).next fun n index => .ok (.number n, index)
          else if byte = 34 then
            (readString bytes (index + 1)).next fun text index => .ok (.string text, index)
          else if byte = 91 ∨ byte = 123 then
            match depth with
            | 0 => .error (faultAhead bytes index .tooDeep)
            | depth + 1 =>
                let fuel := bytes.size + 1
                if byte = 91 then readElements bytes (readValue bytes depth) fuel [] (index + 1)
                else readMembers bytes (readValue bytes depth) fuel [] (index + 1)
          else .error (faultAhead bytes index .valueExpected)

end Json.Reader

/-- How deep containers may nest. -/
def Json.maxDepth : Nat := 127

/-- Read a text that holds one JSON value. -/
def Json.read (text : String) : Except JsonError Json := do
  let bytes := text.toUTF8
  let (value, index) ← Json.Reader.readValue bytes Json.maxDepth 0
  let index := Json.Reader.skipBlanks bytes index
  if index < bytes.size then .error (Json.Reader.faultAhead bytes index .trailingCharacters)
  else .ok value

end ToolGate
