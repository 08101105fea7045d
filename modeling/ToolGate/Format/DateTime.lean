import ToolGate.Calendar
import ToolGate.Format.Form
import ToolGate.Text.Digit

/-!
# Dates and times

A text has one of the three formats if it has the form of it and can be read
by the calendar.  Neither implies the other: a digit of a form may be of any
script, and no form knows how long a month is, while the calendar reads dates
and times that are written in other ways, and leap seconds.
-/

namespace ToolGate.Format.DateTime

/-- A decimal digit of any script. -/
def digit : Form :=
  .one Text.isDecimalDigit

/-- Four digits, two and two, joined by hyphens. -/
def dateForm : Form :=
  .sequence [digit.times 4, .char '-', digit.times 2, .char '-', digit.times 2]

/-- A point and digits behind it, or nothing. -/
def fractionForm : Form :=
  .optional (.sequence [.char '.', .atLeast 1 digit])

/-- Two digits up to 23. -/
def hourForm : Form :=
  .either (.sequence [.oneOf ['0', '1'], digit]) (.sequence [.char '2', .range '0' '3'])

/-- Two digits up to 59. -/
def sixtyForm : Form :=
  .sequence [.range '0' '5', digit]

/-- Hours, minutes and seconds, joined by colons, and a fraction. -/
def timeForm : Form :=
  .sequence [hourForm, .char ':', sixtyForm, .char ':', sixtyForm, fractionForm]

/-- The letter `Z`, or a sign and twice two digits joined by a colon. -/
def offsetForm : Form :=
  .either (.oneOf ['Z', 'z'])
    (.sequence [.oneOf ['+', '-'], digit.times 2, .char ':', digit.times 2])

/-- A date, the letter `T`, thrice two digits joined by colons, a fraction and an offset. -/
def dateTimeForm : Form :=
  .sequence
    [dateForm, .oneOf ['T', 't'], digit.times 2, .char ':', digit.times 2, .char ':',
      digit.times 2, fractionForm, offsetForm]

/-- The text is a day of the calendar. -/
def acceptsDate (text : String) : Bool :=
  dateForm.admits text.toList && (Calendar.date? text).isSome

/-- The text is a time of day without offset. -/
def acceptsTime (text : String) : Bool :=
  timeForm.admits text.toList && (Calendar.timeOfDay? text).isSome

/-- The text is a date and a time of day with an offset. -/
def acceptsDateTime (text : String) : Bool :=
  dateTimeForm.admits text.toList && (Calendar.timestamp? text).isSome

end ToolGate.Format.DateTime
