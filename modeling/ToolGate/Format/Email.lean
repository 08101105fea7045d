import ToolGate.Format.Form

/-!
# Email addresses

An address has a local part and a domain with one `@` between them.  Only
ASCII letters, digits and a few marks are admitted.  Where points may stand
is said in part by the form of the whole text, and in part by two conditions
of their own.
-/

namespace ToolGate.Format.Email

/-- An ASCII letter or digit. -/
def isAlnum (c : Char) : Bool :=
  c.isAlpha || c.isDigit

/-- A character that may end the local part. -/
def isLocalEnd (c : Char) : Bool :=
  isAlnum c || c == '_' || c == '+' || c == '-'

/-- A character of the local part. -/
def isLocalChar (c : Char) : Bool :=
  isLocalEnd c || c == '\'' || c == '.'

/-- A character of a label of the domain, other than its first. -/
def isLabelChar (c : Char) : Bool :=
  isAlnum c || c == '-'

/-- A label of the domain and the point behind it. -/
def label : Form :=
  .sequence [.one isAlnum, .many (.one isLabelChar), .char '.']

/-- The local part, the mark, some labels with points, and a last label of two letters or more. -/
def form : Form :=
  .sequence
    [.many (.one isLocalChar), .one isLocalEnd, .char '@', .atLeast 1 label,
      .atLeast 2 (.one Char.isAlpha)]

/-- The text before the first mark, or all of it. -/
def localPart (text : List Char) : List Char :=
  text.takeWhile (· != '@')

/-- Two points stand side by side. -/
def hasDoublePoint : List Char → Bool
  | '.' :: '.' :: _ => true
  | _ :: rest => hasDoublePoint rest
  | [] => false

/-- The text is an address. -/
def accepts (text : String) : Bool :=
  let chars := text.toList
  form.admits chars && (localPart chars).head? != some '.' && !hasDoublePoint chars

end ToolGate.Format.Email
