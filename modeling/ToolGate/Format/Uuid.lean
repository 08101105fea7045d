import ToolGate.Format.Form

/-!
# Universally unique identifiers

An identifier is written in five groups of hexadecimal digits.
-/

namespace ToolGate.Format.Uuid

/-- A hexadecimal digit. -/
def isHexDigit (c : Char) : Bool :=
  c.isDigit || ('a' ≤ c && c ≤ 'f') || ('A' ≤ c && c ≤ 'F')

/-- Hexadecimal digits of a given number. -/
def group (count : Nat) : Form :=
  (Form.one isHexDigit).times count

/-- Groups of 8, 4, 4, 4 and 12 digits, joined by hyphens. -/
def form : Form :=
  .sequence
    [group 8, .char '-', group 4, .char '-', group 4, .char '-', group 4, .char '-', group 12]

/-- The text is an identifier. -/
def accepts (text : String) : Bool :=
  form.admits text.toList

end ToolGate.Format.Uuid
