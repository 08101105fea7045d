import ToolGate.Json.Basic

/-!
# Paths into values

A path leads from the root of a value to one of its parts, by object keys
and array indices.
-/

namespace ToolGate

/-- One step of a path. -/
inductive PathSegment where
  /-- To the member of an object under a key. -/
  | key (name : String)
  /-- To the element of an array at an index. -/
  | index (position : Nat)
deriving DecidableEq, Repr

/-- A path from the root, outermost step first. -/
abbrev FieldPath := List PathSegment

namespace FieldPath

/-- The path to the value itself. -/
def root : FieldPath := []

/-- The path to a member of the value that the path leads to. -/
def key (path : FieldPath) (name : String) : FieldPath :=
  path ++ [.key name]

/-- The path to an element of the value that the path leads to. -/
def index (path : FieldPath) (position : Nat) : FieldPath :=
  path ++ [.index position]

/-- The text of a step that is not the first. -/
def segmentText : PathSegment → String
  | .key name => "." ++ name
  | .index position => "[" ++ toString position ++ "]"

/-- The text of a path: keys joined by points, indices in brackets. -/
def display : FieldPath → String
  | [] => "<root>"
  | .key name :: rest => name ++ String.join (rest.map segmentText)
  | .index position :: rest =>
      segmentText (.index position) ++ String.join (rest.map segmentText)

/-- A step as a JSON value. -/
def segmentJson : PathSegment → Json
  | .key name => .string name
  | .index position => .ofNat position

/-- A path as a JSON value, a list of keys and indices. -/
def toJson (path : FieldPath) : Json :=
  .array (path.map segmentJson)

end FieldPath

namespace Json

/-- The part of a value under one step. -/
def step? : Json → PathSegment → Option Json
  | .object members, .key name => members.lookup name
  | .array elements, .index position => elements[position]?
  | _, _ => none

/-- The part of a value that a path leads to. -/
def at? : Json → FieldPath → Option Json
  | value, [] => some value
  | value, segment :: rest => (value.step? segment).bind (fun part => part.at? rest)

end Json

end ToolGate
