/-!
# Regular forms of texts

A form describes whole texts: one character of a class, forms one after the
other, one of two forms, or a form any number of times.  A text is followed
character by character along all forms that are still possible; each
character turns a form into the forms of what may come next.
-/

namespace ToolGate.Format

/-- A form of texts. -/
inductive Form where
  /-- The empty text. -/
  | empty
  /-- One character of a class. -/
  | one (admitted : Char → Bool)
  /-- A text of the first form, and behind it one of the second. -/
  | join (first second : Form)
  /-- A text of one of two forms. -/
  | either (left right : Form)
  /-- Any number of texts of a form, one behind the other. -/
  | many (form : Form)

namespace Form

/-- One certain character. -/
def char (c : Char) : Form :=
  .one (· == c)

/-- One of some characters. -/
def oneOf (choices : List Char) : Form :=
  .one choices.contains

/-- One of the characters from one to another. -/
def range (first last : Char) : Form :=
  .one fun c => decide (first ≤ c ∧ c ≤ last)

/-- Texts of several forms, one behind the other. -/
def sequence (forms : List Form) : Form :=
  forms.foldr .join .empty

/-- A text of one of several forms, the last of which is given apart. -/
def choice (forms : List Form) (last : Form) : Form :=
  forms.foldr .either last

/-- A text of the form, or none. -/
def optional (form : Form) : Form :=
  .either form .empty

/-- So many texts of a form, one behind the other. -/
def times (form : Form) : Nat → Form
  | 0 => .empty
  | count + 1 => .join form (form.times count)

/-- At least so many texts of a form. -/
def atLeast (count : Nat) (form : Form) : Form :=
  .join (form.times count) (.many form)

/-- The empty text has the form. -/
def admitsEmpty : Form → Bool
  | .empty => true
  | .one _ => false
  | .join first second => first.admitsEmpty && second.admitsEmpty
  | .either left right => left.admitsEmpty || right.admitsEmpty
  | .many _ => true

/-- The forms of what may follow a first character. -/
def after (c : Char) : Form → List Form
  | .empty => []
  | .one admitted => if admitted c then [.empty] else []
  | .join first second =>
      (first.after c).map (.join · second)
        ++ if first.admitsEmpty then second.after c else []
  | .either left right => left.after c ++ right.after c
  | .many form => (form.after c).map (.join · (.many form))

/-- The whole text has one of some forms. -/
def anyAdmits : List Form → List Char → Bool
  | forms, [] => forms.any admitsEmpty
  | forms, c :: rest => anyAdmits (forms.flatMap (after c)) rest

/-- The whole text has the form. -/
def admits (form : Form) (text : List Char) : Bool :=
  anyAdmits [form] text

end Form

end ToolGate.Format
