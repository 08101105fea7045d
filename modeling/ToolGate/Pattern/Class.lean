import ToolGate.Text.CaseFolding
import ToolGate.Text.Class
import ToolGate.Text.Script

/-!
# Character classes in patterns

A class in brackets holds characters, ranges, escapes, named classes and
further classes in brackets.  Between the parts of a class stand operators:
`&&` for what both sides have, `--` for what the left side has alone, and
`~~` for what one side has alone; all bind equally, to the left.

Where case does not count, every bracket and every side of an operator is
closed under it, before a negation applies.
-/

namespace ToolGate.Pattern.Class

open ToolGate.Text

/-- Whether a set is closed under case. -/
def folded (ignoreCase : Bool) (set : CharSet) : CharSet :=
  if ignoreCase then foldCase set else set

/-- Whether a set is replaced by the characters outside it. -/
def negatedIf (negated : Bool) (set : CharSet) : CharSet :=
  if negated then set.complement else set

/-! ## Properties -/

/-- A name as it is looked up: in lower case, without blanks and marks, without a leading `is`. -/
def normalizedName (name : List Char) : String :=
  let isMark := fun (c : Char) => c == ' ' || c == '_' || c == '-'
  let loose := fun (text : List Char) =>
    (text.filter fun c => !isMark c && c.toNat < 128).map Char.toLower
  match name with
  | i :: s :: rest =>
      if i.toLower == 'i' && s.toLower == 's' then
        let kept := String.ofList (loose rest)
        if kept = "c" then "isc" else kept
      else String.ofList (loose name)
  | _ => String.ofList (loose name)

/-- The characters of a general category, or of one of three groups that have names only. -/
def categoryOf? (name : String) : Option CharSet :=
  match name with
  | "any" => some .all
  | "assigned" => some (Category.ofNames ["cn"]).complement
  | "ascii" => some ⟨#[⟨0, 127⟩]⟩
  | name => Category.ofName? name

/-- The characters of a name that stands alone: of a property, a category or a script. -/
def namedOf? (name : String) : Option CharSet :=
  let property? := if name = "sc" then none else Property.ofName? name
  property? <|> categoryOf? name <|> Script.ofName? name

/-- The characters of a name under a heading. -/
def valueOf? (heading name : String) : Option CharSet :=
  match heading with
  | "gc" => categoryOf? name
  | "generalcategory" => categoryOf? name
  | "sc" => Script.ofName? name
  | "script" => Script.ofName? name
  | "scx" => Script.usedIn? name
  | "scriptextensions" => Script.usedIn? name
  | _ => none

/-- The two sides of the first place where a text stands. -/
def cutAt? (mark : List Char) : List Char → Option (List Char × List Char)
  | [] => none
  | c :: rest =>
      if mark.isPrefixOf (c :: rest) then some ([], (c :: rest).drop mark.length)
      else (cutAt? mark rest).map fun (before, after) => (c :: before, after)

/-- The characters of the text in the braces of a property escape. -/
def propertyOf? (text : List Char) : Option CharSet :=
  let value? := fun (sides : List Char × List Char) =>
    valueOf? (normalizedName sides.1) (normalizedName sides.2)
  match cutAt? ['!', '='] text with
  | some sides => (value? sides).map CharSet.complement
  | none =>
      match cutAt? [':'] text <|> cutAt? ['='] text with
      | some sides => value? sides
      | none => namedOf? (normalizedName text)

/-! ## Parts of a class -/

/-- A part of a class. -/
inductive Item where
  /-- One character, which may begin or end a range. -/
  | literal (c : Char)
  /-- A set that has an escape of its own. -/
  | set (chars : CharSet)

/-- Read the name behind a property escape. -/
def readProperty (ignoreCase negated : Bool) : List Char → Option (CharSet × List Char)
  | '{' :: rest => do
      let (name, rest) ← cutAt? ['}'] rest
      some (negatedIf negated (folded ignoreCase (← propertyOf? name)), rest)
  | '\\' :: _ => none
  | c :: rest => do
      let set ← namedOf? (normalizedName [c])
      some (negatedIf negated (folded ignoreCase set), rest)
  | [] => none

/-- Read what stands behind a backslash. -/
def readEscape (ignoreCase : Bool) : List Char → Option (Item × List Char)
  | [] => none
  | 'd' :: rest => some (.set digits, rest)
  | 'D' :: rest => some (.set digits.complement, rest)
  | 's' :: rest => some (.set blanks, rest)
  | 'S' :: rest => some (.set blanks.complement, rest)
  | 'w' :: rest => some (.set wordCharacters, rest)
  | 'W' :: rest => some (.set wordCharacters.complement, rest)
  | 'p' :: rest => (readProperty ignoreCase false rest).map fun (set, rest) => (.set set, rest)
  | 'P' :: rest => (readProperty ignoreCase true rest).map fun (set, rest) => (.set set, rest)
  | c :: rest => some (.literal c, rest)

/-- Read a character or an escape. -/
def readItem (ignoreCase : Bool) : List Char → Option (Item × List Char)
  | [] => none
  | '\\' :: rest => readEscape ignoreCase rest
  | c :: rest => some (.literal c, rest)

/-- The set of a part that stands alone. -/
def Item.toSet : Item → CharSet
  | .literal c => .singleton c
  | .set chars => chars

/-- A hyphen comes next that does not join the two ends of a range. -/
def endsItem : List Char → Bool
  | '-' :: ']' :: _ => true
  | '-' :: '-' :: _ => true
  | '-' :: _ => false
  | _ => true

/-- Read a character, an escape or a range. -/
def readRange (ignoreCase : Bool) (text : List Char) : Option (CharSet × List Char) := do
  let (first, rest) ← readItem ignoreCase text
  if endsItem rest then some (first.toSet, rest)
  else
    match first, readItem ignoreCase (rest.drop 1) with
    | .literal first, some (.literal last, rest) =>
        if first ≤ last then some (.range first last, rest) else none
    | _, _ => none

/-- The characters of a class that has a name. -/
def asciiClass? (name : String) : Option CharSet :=
  let digit : List CodeRange := [⟨48, 57⟩]
  let upper : List CodeRange := [⟨65, 90⟩]
  let lower : List CodeRange := [⟨97, 122⟩]
  CharSet.ofRanges <$>
    match name with
    | "alnum" => some (digit ++ upper ++ lower)
    | "alpha" => some (upper ++ lower)
    | "ascii" => some [⟨0, 127⟩]
    | "blank" => some [⟨9, 9⟩, ⟨32, 32⟩]
    | "cntrl" => some [⟨0, 31⟩, ⟨127, 127⟩]
    | "digit" => some digit
    | "graph" => some [⟨33, 126⟩]
    | "lower" => some lower
    | "print" => some [⟨32, 126⟩]
    | "punct" => some [⟨33, 47⟩, ⟨58, 64⟩, ⟨91, 96⟩, ⟨123, 126⟩]
    | "space" => some [⟨9, 13⟩, ⟨32, 32⟩]
    | "upper" => some upper
    | "word" => some (digit ++ upper ++ lower ++ [⟨95, 95⟩])
    | "xdigit" => some (digit ++ [⟨65, 70⟩, ⟨97, 102⟩])
    | _ => none

/-- Read a named class between brackets with colons, behind the first bracket. -/
def readNamed (ignoreCase : Bool) : List Char → Option (CharSet × List Char)
  | ':' :: rest => do
      let (negated, rest) := match rest with
        | '^' :: rest => (true, rest)
        | rest => (false, rest)
      let (name, rest) ← cutAt? [':'] rest
      match rest with
      | ']' :: rest =>
          let set ← asciiClass? (String.ofList name)
          some (negatedIf negated (folded ignoreCase set), rest)
      | _ => none
  | _ => none

/-! ## Brackets and operators -/

/-- An operator between parts of a class. -/
inductive Operator where
  | both
  | leftOnly
  | oneOnly
deriving DecidableEq, Repr

/-- The set that an operator makes. -/
def Operator.apply (ignoreCase : Bool) (operator : Operator) (left right : CharSet) : CharSet :=
  let left := folded ignoreCase left
  let right := folded ignoreCase right
  match operator with
  | .both => left.intersection right
  | .leftOnly => left.difference right
  | .oneOnly => left.symmetricDifference right

/-- A bracket that is open: what stands around it and how it began. -/
structure Frame where
  /-- The parts before the bracket. -/
  outer : CharSet := .empty
  /-- The operator before the bracket, with its left side. -/
  outerLeft : Option (Operator × CharSet) := none
  /-- The class is negated. -/
  negated : Bool := false

/-- How far a class has been read. -/
structure State where
  /-- The open brackets but the innermost. -/
  frames : List Frame
  /-- The innermost bracket is negated. -/
  negated : Bool
  /-- An operator in the innermost bracket, with its left side. -/
  left : Option (Operator × CharSet) := none
  /-- The parts behind it. -/
  parts : CharSet := .empty

namespace State

/-- Take a part in. -/
def add (state : State) (set : CharSet) : State :=
  { state with parts := state.parts.union set }

/-- The parts with the operator before them applied. -/
def result (ignoreCase : Bool) (state : State) : CharSet :=
  match state.left with
  | none => state.parts
  | some (operator, left) => operator.apply ignoreCase left state.parts

/-- Begin the right side of an operator. -/
def operate (ignoreCase : Bool) (operator : Operator) (state : State) : State :=
  { state with left := some (operator, state.result ignoreCase), parts := .empty }

/-- The set of the innermost bracket. -/
def closed (ignoreCase : Bool) (state : State) : CharSet :=
  negatedIf state.negated (folded ignoreCase (state.result ignoreCase))

end State

/-- The hyphens at the start of a class, which are literal ones. -/
def leadingHyphens (parts : CharSet) : List Char → CharSet × List Char
  | '-' :: rest => leadingHyphens (.singleton '-') rest
  | rest => (parts, rest)

/-- Read what begins a class: a negation, and characters that stand for themselves there. -/
def opening (text : List Char) : Bool × CharSet × List Char :=
  let (negated, rest) := match text with
    | '^' :: rest => (true, rest)
    | rest => (false, rest)
  match leadingHyphens .empty rest, rest with
  | (_, _), ']' :: rest => (negated, .singleton ']', rest)
  | (parts, rest), _ => (negated, parts, rest)

/-- Open a bracket inside the brackets that are open. -/
def openBracket (state : State) (text : List Char) : State × List Char :=
  let (negated, parts, rest) := opening text
  let frame : Frame := ⟨state.parts, state.left, state.negated⟩
  (⟨frame :: state.frames, negated, none, parts⟩, rest)

/-- Read a class to the bracket that closes it. -/
def readRest (ignoreCase : Bool) : (fuel : Nat) → State → List Char → Option (CharSet × List Char)
  | 0, _, _ => none
  | fuel + 1, state, text =>
      match text with
      | [] => none
      | '[' :: rest =>
          match readNamed ignoreCase rest with
          | some (set, rest) => readRest ignoreCase fuel (state.add set) rest
          | none =>
              let (state, rest) := openBracket state rest
              readRest ignoreCase fuel state rest
      | ']' :: rest =>
          let set := state.closed ignoreCase
          match state.frames with
          | [] => some (set, rest)
          | frame :: frames =>
              let state : State := ⟨frames, frame.negated, frame.outerLeft, frame.outer⟩
              readRest ignoreCase fuel (state.add set) rest
      | '&' :: '&' :: rest => readRest ignoreCase fuel (state.operate ignoreCase .both) rest
      | '-' :: '-' :: rest => readRest ignoreCase fuel (state.operate ignoreCase .leftOnly) rest
      | '~' :: '~' :: rest => readRest ignoreCase fuel (state.operate ignoreCase .oneOnly) rest
      | text =>
          match readRange ignoreCase text with
          | some (set, rest) => readRest ignoreCase fuel (state.add set) rest
          | none => none

/-- The set of a text that is one class, one escape, and nothing else. -/
def ofText? (ignoreCase : Bool) (text : List Char) : Option CharSet :=
  match text with
  | '[' :: rest =>
      let (negated, parts, rest) := opening rest
      match readRest ignoreCase (text.length + 1) ⟨[], negated, none, parts⟩ rest with
      | some (set, []) => some set
      | _ => none
  | text =>
      match readItem ignoreCase text with
      | some (item, []) => some item.toSet
      | _ => none

end ToolGate.Pattern.Class
