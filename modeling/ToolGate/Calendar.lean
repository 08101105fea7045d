import ToolGate.Text.Digit

/-!
# Dates, times of day and timestamps

The calendar is the proleptic Gregorian one.  A timestamp is a date with a
year of four digits, a time of day that may be a leap second, and an offset
from universal time in minutes.

Timestamps are read strictly, every number with all of its digits.  A date
or a time of day that stands alone is read leniently: numbers may be shorter,
blanks may stand before them, and a year may have a sign.
-/

namespace ToolGate

namespace Calendar

open Text

/-- Read a number of a fixed count of digits. -/
def readDigits : (count : Nat) → (value : Nat) → List Char → Option (Nat × List Char)
  | 0, value, rest => some (value, rest)
  | _ + 1, _, [] => none
  | count + 1, value, c :: rest =>
      match digit? c with
      | some digit => readDigits count (value * 10 + digit) rest
      | none => none

/-- Read one of some characters. -/
def readOneOf (choices : List Char) : List Char → Option (List Char)
  | [] => none
  | c :: rest => if choices.contains c then some rest else none

/-- Every fourth year is a leap year, but of the hundredth ones only each fourth. -/
def isLeapYear (year : Int) : Bool :=
  year % 4 == 0 && (year % 100 != 0 || year % 400 == 0)

/-- The number of days of a month. -/
def daysInMonth (year : Int) (month : Nat) : Nat :=
  if month = 2 then if isLeapYear year then 29 else 28
  else if month = 4 ∨ month = 6 ∨ month = 9 ∨ month = 11 then 30
  else 31

/-- A day of the calendar. -/
structure Date where
  year : Int
  month : Nat
  day : Nat
deriving DecidableEq, Repr

/-- The day exists, and its year is within the range of the calendar. -/
def Date.exists (date : Date) : Bool :=
  -262143 ≤ date.year && date.year ≤ 262142 && 1 ≤ date.month && date.month ≤ 12
    && 1 ≤ date.day && date.day ≤ daysInMonth date.year date.month

/-- Read a date as year, month and day, joined by hyphens. -/
def readDate (text : List Char) : Option (Date × List Char) := do
  let (year, text) ← readDigits 4 0 text
  let text ← readOneOf ['-'] text
  let (month, text) ← readDigits 2 0 text
  let text ← readOneOf ['-'] text
  let (day, text) ← readDigits 2 0 text
  let date : Date := ⟨year, month, day⟩
  if date.exists then some (date, text) else none

/-- A time of day. -/
structure TimeOfDay where
  hour : Nat
  minute : Nat
  second : Nat
  nanosecond : Nat
deriving DecidableEq, Repr

/-- The time exists; a minute may have a leap second. -/
def TimeOfDay.exists (time : TimeOfDay) : Bool :=
  time.hour ≤ 23 && time.minute ≤ 59 && time.second ≤ 60

/-- The nanoseconds of the digits of a fraction; digits beyond the ninth do not count. -/
def nanoseconds (digits : List Char) : Nat :=
  let counted := digits.take 9
  decimalValue counted * Nat.pow 10 (9 - counted.length)

/-- Read a fraction of a second, if a point starts one. -/
def readFraction : List Char → Option (Nat × List Char)
  | '.' :: text =>
      match spanDigits text with
      | ([], _) => none
      | (digits, rest) => some (nanoseconds digits, rest)
  | text => some (0, text)

/-- Read a time of day as hours, minutes and seconds, joined by colons, and a fraction. -/
def readTime (text : List Char) : Option (TimeOfDay × List Char) := do
  let (hour, text) ← readDigits 2 0 text
  let text ← readOneOf [':'] text
  let (minute, text) ← readDigits 2 0 text
  let text ← readOneOf [':'] text
  let (second, text) ← readDigits 2 0 text
  let (nanosecond, text) ← readFraction text
  let time : TimeOfDay := ⟨hour, minute, second, nanosecond⟩
  if time.exists then some (time, text) else none

/-- Read an offset: the letter `Z`, or a sign, hours and minutes.  The result is in minutes. -/
def readOffset (minusSigns : List Char) : List Char → Option (Int × List Char)
  | [] => none
  | sign :: text =>
      if sign = 'Z' ∨ sign = 'z' then some (0, text)
      else if sign = '+' ∨ minusSigns.contains sign then do
        let (hour, text) ← readDigits 2 0 text
        let text ← readOneOf [':'] text
        let (minute, text) ← readDigits 2 0 text
        if hour ≤ 23 ∧ minute ≤ 59 then
          let minutes : Int := hour * 60 + minute
          some (if sign = '+' then minutes else -minutes, text)
        else none
      else none

/-- A point in time as it was written. -/
structure Timestamp where
  date : Date
  time : TimeOfDay
  /-- Minutes ahead of universal time. -/
  offset : Int
deriving DecidableEq, Repr

/-- Read a timestamp, the parts of which are separated in one of some ways. -/
def readTimestamp (separators minusSigns : List Char) (text : List Char) :
    Option (Timestamp × List Char) := do
  let (date, text) ← readDate text
  let text ← readOneOf separators text
  let (time, text) ← readTime text
  let (offset, text) ← readOffset minusSigns text
  some (⟨date, time, offset⟩, text)

/--
The timestamp that a whole text gives.  A blank may stand between date and
time, and the typographic minus sign before an offset.
-/
def timestamp? (text : String) : Option Timestamp :=
  match readTimestamp ['T', 't', ' '] ['-', '−'] text.toList with
  | some (timestamp, []) => some timestamp
  | _ => none

/-- A blank character, which may stand before a number that is read leniently. -/
def isBlank (c : Char) : Bool :=
  [(0x9, 0xD), (0x20, 0x20), (0x85, 0x85), (0xA0, 0xA0), (0x1680, 0x1680), (0x2000, 0x200A),
    (0x2028, 0x2029), (0x202F, 0x202F), (0x205F, 0x205F), (0x3000, 0x3000)].any
    fun (first, last) => decide (first ≤ c.toNat ∧ c.toNat ≤ last)

/-- Read a number of one up to some digits. -/
def readNumber (width : Nat) (text : List Char) : Option (Nat × List Char) :=
  match spanDigits (text.take width) with
  | ([], _) => none
  | (digits, rest) => some (decimalValue digits, rest ++ text.drop width)

/-- Read a number of at most two digits, which blanks may precede. -/
def readShort (text : List Char) : Option (Nat × List Char) :=
  readNumber 2 (text.dropWhile isBlank)

/--
Read a year, which blanks may precede: at most four digits, or any number of
them behind a sign.
-/
def readYear (text : List Char) : Option (Int × List Char) :=
  match text.dropWhile isBlank with
  | '-' :: text => (readNumber text.length text).map fun (year, text) => (-(year : Int), text)
  | '+' :: text => (readNumber text.length text).map fun (year, text) => ((year : Int), text)
  | text => (readNumber 4 text).map fun (year, text) => ((year : Int), text)

/-- The day that a whole text gives by year, month and day, joined by hyphens. -/
def date? (text : String) : Option Date := do
  let (year, text) ← readYear text.toList
  let text ← readOneOf ['-'] text
  let (month, text) ← readShort text
  let text ← readOneOf ['-'] text
  let (day, text) ← readShort text
  let date : Date := ⟨year, month, day⟩
  if date.exists && text.isEmpty then some date else none

/-- The time that a whole text gives by hours, minutes and seconds, joined by colons. -/
def timeOfDay? (text : String) : Option TimeOfDay := do
  let (hour, text) ← readShort text.toList
  let text ← readOneOf [':'] text
  let (minute, text) ← readShort text
  let text ← readOneOf [':'] text
  let (second, text) ← readShort text
  let (nanosecond, text) ← readFraction text
  let time : TimeOfDay := ⟨hour, minute, second, nanosecond⟩
  if time.exists && text.isEmpty then some time else none

/-- A number with zeros in front, up to a width. -/
def padded (width n : Nat) : String :=
  let digits := toString n
  String.ofList (List.replicate (width - digits.length) '0') ++ digits

/-- The fraction of a second in the least multiple of three digits that shows all of it. -/
def fractionText (nanosecond : Nat) : String :=
  if nanosecond = 0 then ""
  else if nanosecond % 1000000 = 0 then "." ++ padded 3 (nanosecond / 1000000)
  else if nanosecond % 1000 = 0 then "." ++ padded 6 (nanosecond / 1000)
  else "." ++ padded 9 nanosecond

/-- The text of a timestamp; universal time is written as an offset of zero. -/
def Timestamp.text (timestamp : Timestamp) : String :=
  let ⟨⟨year, month, day⟩, ⟨hour, minute, second, nanosecond⟩, offset⟩ := timestamp
  padded 4 year.toNat ++ "-" ++ padded 2 month ++ "-" ++ padded 2 day ++ "T"
    ++ padded 2 hour ++ ":" ++ padded 2 minute ++ ":" ++ padded 2 second
    ++ fractionText nanosecond
    ++ (if offset < 0 then "-" else "+")
    ++ padded 2 (offset.natAbs / 60) ++ ":" ++ padded 2 (offset.natAbs % 60)

end Calendar

end ToolGate
