import ToolGate.Pattern.Machine
import ToolGate.Pattern.Reader

/-!
# Patterns

A pattern is a regular expression that has been read and made ready to
match.  A regular one is matched in one pass; any other one is matched by
trying, within limits beyond which a text counts as no match.
-/

namespace ToolGate

/-- How a pattern is matched. -/
inductive Pattern.Matcher where
  /-- In one pass. -/
  | automaton (automaton : Pattern.Automaton)
  /-- By trying. -/
  | program (program : Pattern.Machine.Program)

/-- A regular expression together with its source. -/
structure Pattern where
  /-- The source as it was given. -/
  source : String
  /-- The way to match it. -/
  matcher : Pattern.Matcher

namespace Pattern

/-- The matcher of an expression, if it can be matched at all. -/
def Matcher.ofExpression? (expression : Expression) : Option Matcher :=
  if expression.root.isRegular expression.referenced then
    (Automaton.ofNode? expression.root).map .automaton
  else
    (Machine.Program.ofExpression? expression).map .program

/-- The matcher of a text, if the text is an expression. -/
def Matcher.ofText? (text : String) : Option Matcher :=
  (Expression.ofText? text).bind ofExpression?

/-- The pattern that matches where its source matches some part of a text. -/
def search? (source : String) : Option Pattern :=
  (Matcher.ofText? source).map (Pattern.mk source)

/-- The pattern that matches where its source matches a text from start to end. -/
def whole? (source : String) : Option Pattern :=
  (Matcher.ofText? ("^(?:" ++ source ++ ")$")).map (Pattern.mk source)

/-- The pattern matches a text. -/
def isMatch (pattern : Pattern) (text : String) : Bool :=
  let characters := text.toList.toArray
  match pattern.matcher with
  | .automaton automaton => automaton.matchesIn characters
  | .program program => Machine.matchesIn program characters

end Pattern

end ToolGate
