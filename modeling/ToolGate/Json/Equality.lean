import ToolGate.Json.Basic

/-!
# Equality of JSON values

Two values are equal if they have the same structure up to the order of
object members.  What is left open is when two numbers count as equal, which
gives two notions: equality of values, in which `1` and `1.0` are the same,
and equality of forms, in which they differ.
-/

namespace ToolGate.Json

mutual

/-- Equality up to member order, with the given equality of numbers. -/
def equalBy (numbers : JsonNumber → JsonNumber → Bool) : Json → Json → Bool
  | .null, .null => true
  | .bool a, .bool b => a == b
  | .number x, .number y => numbers x y
  | .string a, .string b => a == b
  | .array xs, .array ys => equalElementsBy numbers xs ys
  | .object xs, .object ys => xs.length == ys.length && equalMembersBy numbers xs ys
  | _, _ => false

/-- Elements are equal one by one. -/
def equalElementsBy (numbers : JsonNumber → JsonNumber → Bool) : List Json → List Json → Bool
  | [], [] => true
  | x :: xs, y :: ys => equalBy numbers x y && equalElementsBy numbers xs ys
  | _, _ => false

/-- Every member has an equal one under its key. -/
def equalMembersBy (numbers : JsonNumber → JsonNumber → Bool) :
    List (String × Json) → List (String × Json) → Bool
  | [], _ => true
  | (key, x) :: rest, ys =>
      (match ys.lookup key with
        | some y => equalBy numbers x y
        | none => false)
      && equalMembersBy numbers rest ys

end

/-- Equality in which numbers are compared as double-precision numbers. -/
def sameValue (a b : Json) : Bool :=
  equalBy JsonNumber.sameValue a b

/-- Equality in which integers and floats never agree. -/
def sameForm (a b : Json) : Bool :=
  equalBy JsonNumber.sameForm a b

end ToolGate.Json
