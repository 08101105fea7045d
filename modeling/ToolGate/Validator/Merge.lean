import ToolGate.Json.Equality

/-!
# Merging values

The outputs that the branches of an intersection give for one value are
merged: objects member by member, arrays element by element, and all else
only if the two are the same value, in the form of the first.
-/

namespace ToolGate.Json

mutual

/-- The second value merged into the first, if the two fit together. -/
def mergeInto (left : Json) : (right : Json) → Option Json
  | .object right =>
      match left with
      | .object left => (mergeMembers left right).map .object
      | _ => none
  | .array right =>
      match left with
      | .array left => (mergeElements left right).map .array
      | _ => none
  | right => if left.sameValue right then some left else none

/-- Elements merged one by one. -/
def mergeElements : List Json → List Json → Option (List Json)
  | [], [] => some []
  | left :: lefts, right :: rights =>
      match mergeInto left right with
      | none => none
      | some merged => (mergeElements lefts rights).map (merged :: ·)
  | _, _ => none

/--
Members merged one after the other: each leaves its place among the members
so far, to which the last of them moves, and is written at the end.
-/
def mergeMembers (left : List (String × Json)) :
    (right : List (String × Json)) → Option (List (String × Json))
  | [] => some left
  | (key, value) :: rest =>
      match left.lookup key with
      | none => mergeMembers (left ++ [(key, value)]) rest
      | some present =>
          match mergeInto present value with
          | none => none
          | some merged => mergeMembers (Entries.swapErase key left ++ [(key, merged)]) rest

end

/-- The second value merged into the first, if the two fit together. -/
def merge? (left right : Json) : Option Json :=
  mergeInto left right

/-- All values of a list merged into the first, one after the other. -/
def mergeAll? (first : Json) (others : List Json) : Option Json :=
  others.foldlM mergeInto first

end ToolGate.Json
