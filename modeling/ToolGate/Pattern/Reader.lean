import ToolGate.Pattern.Class
import ToolGate.Pattern.Node

/-!
# Reading patterns

A pattern is read from left to right.  Flags change how the rest of the
group around them is read, and an expression of flags alone keeps them
changed behind it.  Groups are numbered by their opening parentheses.

Groups nest at most sixty-three deep, which bounds the recursion; every
loop takes at least one character in each round, which bounds the loops.
-/

namespace ToolGate.Pattern

/-- The flags under which a part of a pattern is read. -/
structure ReadFlags where
  /-- Letters stand for both of their cases. -/
  ignoreCase : Bool := false
  /-- The line anchors hold at every line. -/
  lines : Bool := false
  /-- The point stands for line ends too. -/
  dotAll : Bool := false
  /-- Repetitions are reluctant unless marked. -/
  swapGreed : Bool := false
  /-- Blanks and comments do not count. -/
  verbose : Bool := false

/-- How far a pattern has been read. -/
structure ReadState where
  /-- The characters that are left. -/
  rest : List Char
  /-- How many characters have been taken. -/
  taken : Nat := 0
  /-- The flags in force. -/
  flags : ReadFlags := {}
  /-- How many groups have been opened. -/
  groups : Nat := 0
  /-- The numbers of named groups; the last group of a name counts. -/
  names : List (String × Nat) := []
  /-- The groups that have been referred to. -/
  referenced : List Nat := []
  /-- A group has been referred to by its number. -/
  numbered : Bool := false

/-- A step of reading, which fails if the text is no pattern. -/
abbrev Read := StateT ReadState Option

namespace Read

/-- The characters that are left. -/
def rest : Read (List Char) :=
  return (← get).rest

/-- The next character, if there is one. -/
def peek? : Read (Option Char) :=
  return (← get).rest.head?

/-- Take some characters. -/
def drop (count : Nat) : Read Unit :=
  modify fun state =>
    { state with rest := state.rest.drop count, taken := state.taken + count }

/-- Take a text if it comes next. -/
def takeIf (text : String) : Read Bool := do
  if text.toList.isPrefixOf (← rest) then
    drop text.toList.length
    return true
  else return false

/-- Take one character that must come next. -/
def expect (c : Char) : Read Unit := do
  if (← peek?) = some c then drop 1 else failure

/-- Take the leading characters of a kind. -/
def takeWhile (test : Char → Bool) : Read (List Char) := do
  let found := (← rest).takeWhile test
  drop found.length
  return found

/-- The flags in force. -/
def flags : Read ReadFlags :=
  return (← get).flags

/-- Change the flags. -/
def setFlags (change : ReadFlags → ReadFlags) : Read Unit :=
  modify fun state => { state with flags := change state.flags }

/-- What is left behind a comment in parentheses, if it is closed. -/
def afterComment? : List Char → Option (List Char)
  | [] => none
  | ')' :: rest => some rest
  | '\\' :: _ :: rest => afterComment? rest
  | _ :: rest => afterComment? rest

/-- What is left behind blanks and comments, if all comments are closed. -/
def afterBlanks? (verbose : Bool) : (fuel : Nat) → List Char → Option (List Char)
  | 0, text => some text
  | fuel + 1, text =>
      match text with
      | '(' :: '?' :: '#' :: rest => (afterComment? rest).bind (afterBlanks? verbose fuel)
      | c :: rest =>
          if !verbose then some text
          else if c = '#' then
            afterBlanks? verbose fuel ((rest.dropWhile fun c => c != '\n').drop 1)
          else if c = ' ' ∨ c = '\r' ∨ c = '\n' ∨ c = '\t' then afterBlanks? verbose fuel rest
          else some text
      | [] => some []

/-- Take blanks and comments. -/
def skipBlanks : Read Unit := do
  let text ← rest
  match afterBlanks? (← flags).verbose (text.length + 1) text with
  | some left => drop (text.length - left.length)
  | none => failure

end Read

open Read

/-! ## Numbers and names -/

/-- A decimal digit. -/
def isDecimal (c : Char) : Bool :=
  '0' ≤ c && c ≤ '9'

/-- The number that digits write, if it fits a word. -/
def decimal? (digits : List Char) : Option Nat :=
  if digits.isEmpty then none
  else
    let value := digits.foldl (fun value c => value * 10 + (c.toNat - '0'.toNat)) 0
    if value < UInt64.size then some value else none

/-- Take a decimal number. -/
def readDecimal : Read Nat := do
  match decimal? (← takeWhile isDecimal) with
  | some value => return value
  | none => failure

/-- A character of a group name. -/
def isNameChar (c : Char) : Bool :=
  Text.alphanumerics.contains c || c == '_'

/-- Take a group name and the text that closes it. -/
def readName (closing : String) : Read String := do
  let name ← takeWhile isNameChar
  if name.isEmpty then failure
  if ← takeIf closing then return String.ofList name else failure

/-- Open the next group and give its number. -/
def openGroup : Read Nat := do
  modify fun state => { state with groups := state.groups + 1 }
  return (← get).groups

/-- Refer to a group, which must have been opened. -/
def reference (group : Nat) : Read Nat := do
  let state ← get
  if state.groups < group then failure
  set { state with referenced := group :: state.referenced }
  return group

/-- Refer to a group by its number, which is less than half of the pattern's length. -/
def readNumberedReference (byteLength : Nat) : Read Nat := do
  let group ← readDecimal
  if byteLength / 2 ≤ group then failure
  modify fun state => { state with numbered := true }
  reference group

/-- The group of a name, or of a number written as a name. -/
def groupOf? (state : ReadState) (name : String) : Option Nat :=
  state.names.lookup name <|>
    if name.toList.all isDecimal then decimal? name.toList else none

/-- Refer to a group by a distance from the last opened one. -/
def readRelativeReference (closing : String) : Read Nat := do
  let state ← get
  if ← takeIf "-" then
    let distance ← readDecimal
    if distance = 0 ∨ state.groups + 1 < distance then failure
    if ← takeIf closing then reference (state.groups + 1 - distance) else failure
  else if ← takeIf "+" then
    let distance ← readDecimal
    if distance = 0 then failure
    if ← takeIf closing then reference (state.groups + distance) else failure
  else failure

/-- Refer to a group by its name. -/
def readNamedReference (closing : String) (mayBeRelative : Bool) : Read Nat := do
  match ← peek? with
  | some c =>
      if mayBeRelative && (c == '-' || c == '+') then readRelativeReference closing
      else
        let name ← readName closing
        match groupOf? (← get) name with
        | some group => reference group
        | none => failure
  | none => failure

/-! ## Escapes -/

/-- What an escape stands for. -/
inductive Escape where
  /-- One character; a flag tells whether the case may count for it. -/
  | literal (c : Char) (folds : Bool)
  /-- A class; a flag tells whether the case may count for it. -/
  | class (text : List Char) (folds : Bool)
  /-- Anything that cannot stand in a class. -/
  | node (node : Node)

/-- A hexadecimal digit. -/
def isHexDigit (c : Char) : Bool :=
  isDecimal c || ('a' ≤ c && c ≤ 'f') || ('A' ≤ c && c ≤ 'F')

/-- The value of a hexadecimal digit. -/
def hexValue (c : Char) : Nat :=
  if isDecimal c then c.toNat - '0'.toNat
  else if 'a' ≤ c then c.toNat - 'a'.toNat + 10
  else c.toNat - 'A'.toNat + 10

/-- The character whose code hexadecimal digits write. -/
def hexChar? (digits : List Char) : Option Char :=
  let code := digits.foldl (fun value c => value * 16 + hexValue c) 0
  if code.isValidChar then some (Char.ofNat code) else none

/-- Take the code of a character: a fixed number of digits, or up to eight in braces. -/
def readHex (count : Nat) : Read Escape := do
  let text ← rest
  let fixed := text.take count
  let digits ←
    if fixed.length = count ∧ fixed.all isHexDigit then
      drop count
      pure fixed
    else
      expect '\x7b'
      let digits ← takeWhile isHexDigit
      if digits.isEmpty ∨ 8 < digits.length then failure
      expect '\x7d'
      pure digits
  match hexChar? digits with
  | some c => return .literal c true
  | none => failure

/-- Take the name of a property, in braces or as one letter. -/
def readPropertyName : Read (List Char) := do
  match ← rest with
  | '\x7b' :: rest =>
      let name := rest.takeWhile fun c => c != '\x7d'
      drop (name.length + 1)
      expect '\x7d'
      return '\x7b' :: name ++ ['\x7d']
  | c :: _ =>
      drop 1
      return [c]
  | [] => failure

/-- An ASCII letter. -/
def isLetter (c : Char) : Bool :=
  ('a' ≤ c && c ≤ 'z') || ('A' ≤ c && c ≤ 'Z')

/-- The character for which an escaped letter stands, if it stands for one. -/
def controlChar? : Char → Option Char
  | 'a' => some '\x07'
  | 'b' => some '\x08'
  | 'f' => some '\x0c'
  | 'n' => some '\n'
  | 'r' => some '\r'
  | 't' => some '\t'
  | 'v' => some '\x0b'
  | 'e' => some '\x1b'
  | _ => none

/-- Take what an escaped character stands for, be it in a class or not. -/
def readPlainEscape (c : Char) : Read Escape := do
  match c with
  | 'h' => return .class "[0-9A-Fa-f]".toList false
  | 'H' => return .class "[^0-9A-Fa-f]".toList false
  | 'x' => readHex 2
  | 'u' => readHex 4
  | 'U' => readHex 8
  | c =>
      if "dDsSwW".toList.contains c then return .class ['\\', c] true
      else if (c = 'p' ∨ c = 'P') ∧ (← peek?).isSome then
        return .class ('\\' :: c :: (← readPropertyName)) true
      else
        match controlChar? c with
        | some c => return .literal c false
        | none =>
            if isLetter c ∧ ¬"kAzBKG".toList.contains c then failure
            else return .literal c false

/-- Take what an escaped character stands for outside a class. -/
def readOuterEscape (c : Char) : Read Escape := do
  match c with
  | 'k' =>
      if ← takeIf "'" then return .node (.backreference (← readNamedReference "'" true))
      else if ← takeIf "<" then return .node (.backreference (← readNamedReference ">" true))
      else failure
  | 'A' => return .node (.anchor .startText)
  | 'z' => return .node (.anchor .endText)
  | 'b' => if (← peek?) = some '\x7b' then failure else return .node (.anchor .wordEdge)
  | 'B' => if (← peek?) = some '\x7b' then failure else return .node (.anchor .noWordEdge)
  | '<' => return .node (.anchor .wordStart)
  | '>' => return .node (.anchor .wordEnd)
  | 'K' => return .node .restart
  | 'G' => return .node .searchStart
  | c => readPlainEscape c

/-- Take an escape, behind its backslash. -/
def readEscape (byteLength : Nat) (inClass : Bool) : Read Escape := do
  match ← peek? with
  | none => failure
  | some c =>
      if isDecimal c then
        if inClass then failure
        else return .node (.backreference (← readNumberedReference byteLength))
      else
        drop 1
        if inClass then readPlainEscape c else readOuterEscape c

/-! ## Atoms -/

/-- A node for one character. -/
def literalNode (ignoreCase : Bool) (c : Char) : Node :=
  .char (Class.folded ignoreCase (.singleton c))

/-- A node for a class that is given as a text. -/
def classNode (ignoreCase : Bool) (text : List Char) : Read Node := do
  match Class.ofText? ignoreCase text with
  | some set => return .char set
  | none => failure

/-- The node of an escape. -/
def Escape.toNode (escape : Escape) : Read Node := do
  let flags ← flags
  match escape with
  | .literal c folds => return literalNode (folds && flags.ignoreCase) c
  | .class text folds => classNode (folds && flags.ignoreCase) text
  | .node other => return other

/-- A character as it is written in a class, escaped if it would mean something there. -/
def quotedChar (c : Char) : List Char :=
  if "\\.+*?()|[]\x7b\x7d^$#&-~".toList.contains c then ['\\', c] else [c]

/-- Take the text of a class up to the bracket that balances the first one. -/
def readClassText (byteLength : Nat) :
    (fuel : Nat) → (depth : Nat) → (text : List Char) → Read (List Char)
  | 0, _, _ => failure
  | fuel + 1, depth, text => do
      match ← peek? with
      | none => failure
      | some '\\' =>
          drop 1
          match ← readEscape byteLength true with
          | .literal c _ => readClassText byteLength fuel depth ((quotedChar c).reverse ++ text)
          | .class inner _ => readClassText byteLength fuel depth (inner.reverse ++ text)
          | .node _ => failure
      | some '[' =>
          drop 1
          readClassText byteLength fuel (depth + 1) ('[' :: text)
      | some ']' =>
          drop 1
          if depth = 0 then return (']' :: text).reverse
          else readClassText byteLength fuel (depth - 1) (']' :: text)
      | some c =>
          drop 1
          readClassText byteLength fuel depth (c :: text)

/-- Take a class, behind its first bracket. -/
def readClass (byteLength : Nat) : Read Node := do
  let start := if ← takeIf "^" then ['^', '['] else ['[']
  let start := if ← takeIf "]" then ']' :: start else start
  let text ← readClassText byteLength ((← rest).length + 1) 0 start
  classNode (← flags).ignoreCase text

/-- Take one atom; `readGroup` takes a group, behind its parenthesis. -/
def readAtom (byteLength : Nat) (readGroup : Read Node) : Read Node := do
  skipBlanks
  let flags ← flags
  match ← peek? with
  | none => return .empty
  | some c =>
      match c with
      | '.' =>
          drop 1
          return .char (if flags.dotAll then .all else (CharSet.singleton '\n').complement)
      | '^' =>
          drop 1
          return .anchor (if flags.lines then .startLine else .startText)
      | '$' =>
          drop 1
          return .anchor (if flags.lines then .endLine else .endText)
      | '(' =>
          drop 1
          readGroup
      | '\\' =>
          drop 1
          (← readEscape byteLength false).toNode
      | '[' =>
          drop 1
          readClass byteLength
      | c =>
          if "+*?|)".toList.contains c then return .empty
          else
            drop 1
            return literalNode flags.ignoreCase c

/-! ## Repetitions -/

/-- Take the bounds in braces, behind the first brace. -/
def readBounds : Read (Nat × Option Nat) := do
  skipBlanks
  let least ← if (← peek?) = some ',' then pure 0 else readDecimal
  skipBlanks
  let most ←
    if ← takeIf "," then
      skipBlanks
      let digits := (← rest).takeWhile isDecimal
      match decimal? digits with
      | some most =>
          drop digits.length
          pure (some most)
      | none => pure none
    else pure (some least)
  skipBlanks
  expect '\x7d'
  return (least, most)

/-- Take the bounds of a repetition, if one comes next. -/
def readRepetition? : Read (Option (Nat × Option Nat)) := do
  match ← peek? with
  | some '?' =>
      drop 1
      return some (0, some 1)
  | some '*' =>
      drop 1
      return some (0, none)
  | some '+' =>
      drop 1
      return some (1, none)
  | some '\x7b' =>
      let state ← get
      match (do drop 1; readBounds : Read _).run state with
      | some (bounds, state) =>
          set state
          return some bounds
      | none => return none
  | _ => return none

/-- Take an atom and its repetition. -/
def readPiece (byteLength : Nat) (readGroup : Read Node) : Read Node := do
  let atom ← readAtom byteLength readGroup
  skipBlanks
  match ← readRepetition? with
  | none => return atom
  | some (least, most) =>
      if !atom.isRepeatable then failure
      skipBlanks
      let reluctant ← takeIf "?"
      let node := Node.repeated least most (reluctant == (← flags).swapGreed) atom
      if ← takeIf "+" then return .atomic node else return node

/-! ## Branches -/

/-- The node of some parts one after the other. -/
def concatenation : List Node → Node
  | [] => .empty
  | [part] => part
  | parts => .concat parts

/-- Take pieces until none is there. -/
def readPieces (readPiece : Read Node) : (fuel : Nat) → Read (List Node)
  | 0 => return []
  | fuel + 1 => do
      let before := (← get).taken
      if (← peek?).isNone then return []
      let piece ← readPiece
      if (← get).taken = before then return []
      let pieces ← readPieces readPiece fuel
      return if piece.isEmpty then pieces else piece :: pieces

/-- Take a branch. -/
def readBranch (byteLength : Nat) (readGroup : Read Node) : Read Node := do
  return concatenation (← readPieces (readPiece byteLength readGroup) ((← rest).length + 1))

/-- Take further branches, each behind a bar. -/
def readBranches (readBranch : Read Node) : (fuel : Nat) → Read (List Node)
  | 0 => return []
  | fuel + 1 => do
      skipBlanks
      if ← takeIf "|" then
        let branch ← readBranch
        return branch :: (← readBranches readBranch fuel)
      else return []

/--
Take an expression.  References by number and names of groups exclude each
other, which is found out at the end of every expression without branches.
-/
def readExpression (byteLength : Nat) (readGroup : Read Node) : Read Node := do
  let branch := readBranch byteLength readGroup
  let first ← branch
  match ← readBranches branch ((← rest).length + 1) with
  | [] =>
      let state ← get
      if state.numbered && !state.names.isEmpty then failure else return first
  | others => return .alternatives (first :: others)

/-! ## Groups -/

/-- Take the parenthesis that closes a group. -/
def closeGroup : Read Unit := do
  skipBlanks
  expect ')'

/-- Give a name to a group. -/
def nameGroup (name : String) (group : Nat) : Read Unit :=
  modify fun state => { state with names := (name, group) :: state.names }

/-- Take the rest of a named group. -/
def readNamedGroup (expression : Read Node) : Read Node := do
  let group ← openGroup
  nameGroup (← readName ">") group
  let inner ← expression
  closeGroup
  return .group group inner

/-- The change of flags for a letter, to a value. -/
def flagChange? (letter : Char) (value : Bool) : Option (ReadFlags → ReadFlags) :=
  match letter with
  | 'i' => some fun flags => { flags with ignoreCase := value }
  | 'm' => some fun flags => { flags with lines := value }
  | 's' => some fun flags => { flags with dotAll := value }
  | 'U' => some fun flags => { flags with swapGreed := value }
  | 'x' => some fun flags => { flags with verbose := value }
  | 'u' => if value then some id else none
  | _ => none

/-- Take flags, and the expression to which they apply if there is one. -/
def readFlagGroup (expression : Read Node) (start : Nat) (outer : ReadFlags) :
    (fuel : Nat) → (value : Bool) → Read Node
  | 0, _ => failure
  | fuel + 1, value => do
      skipBlanks
      let length := (← get).taken - start
      let bare : Bool := !value && length == 1
      match ← peek? with
      | none => failure
      | some ')' =>
          if length = 0 ∨ bare then failure
          drop 1
          return .empty
      | some ':' =>
          if bare then failure
          drop 1
          let inner ← expression
          expect ')'
          setFlags fun _ => outer
          return inner
      | some '-' =>
          if !value then failure
          drop 1
          readFlagGroup expression start outer fuel false
      | some letter =>
          match flagChange? letter value with
          | none => failure
          | some change =>
              setFlags change
              drop 1
              readFlagGroup expression start outer fuel value

/-- Take the condition of a choice. -/
def readCondition (byteLength : Nat) (expression : Read Node) : Read Node := do
  match ← peek? with
  | none => failure
  | some '\'' =>
      drop 1
      return .backreference (← readNamedReference "'" true)
  | some '<' =>
      drop 1
      return .backreference (← readNamedReference ">" true)
  | some c =>
      if isDecimal c then return .backreference (← readNumberedReference byteLength)
      else expression

/-- A condition that is a reference asks whether the group has matched. -/
def asCondition : Node → Node
  | .backreference group => .groupMatched group
  | condition => condition

/-- The two sides of a choice: the first branch, and all others. -/
def sides : Node → Node × Node
  | .alternatives [yes, no] => (yes, no)
  | .alternatives (yes :: others) => (yes, .alternatives others)
  | node => (node, .empty)

/-- Take a choice, behind the parenthesis that opens its condition. -/
def readChoice (byteLength : Nat) (expression : Read Node) : Read Node := do
  let condition ← readCondition byteLength expression
  closeGroup
  let before := (← get).taken
  let body ← expression
  let isBare := (← get).taken = before
  closeGroup
  if isBare then
    match condition with
    | .backreference group => return .groupMatched group
    | _ => failure
  else
    let (yes, no) := sides body
    if yes.isEmpty && no.isEmpty then return asCondition condition
    else return .conditional (asCondition condition) yes no

/-- Take an inner expression and the parenthesis behind it. -/
def readInner (expression : Read Node) (make : Node → Node) : Read Node := do
  let inner ← expression
  closeGroup
  return make inner

/-- Take a group, behind its parenthesis, where groups inside may nest up to a depth. -/
def readGroup (byteLength : Nat) : (depth : Nat) → Read Node
  | 0 => failure
  | depth + 1 => do
      let expression := readExpression byteLength (readGroup byteLength depth)
      skipBlanks
      if ← takeIf "?=" then readInner expression (.look false false)
      else if ← takeIf "?!" then readInner expression (.look false true)
      else if ← takeIf "?<=" then readInner expression (.look true false)
      else if ← takeIf "?<!" then readInner expression (.look true true)
      else if ← takeIf "?<" then readNamedGroup expression
      else if ← takeIf "?P<" then readNamedGroup expression
      else if ← takeIf "?P=" then return .backreference (← readNamedReference ")" false)
      else if ← takeIf "?>" then readInner expression .atomic
      else if ← takeIf "?(" then readChoice byteLength expression
      else if ← takeIf "?" then
        let state ← get
        readFlagGroup expression state.taken state.flags (state.rest.length + 1) true
      else
        let group ← openGroup
        readInner expression (.group group)

/-- How deep groups may nest. -/
def maxGroupDepth : Nat := 63

/-- The expression that a whole text writes. -/
def Expression.ofText? (text : String) : Option Expression := do
  let byteLength := text.utf8ByteSize
  let start : ReadState := { rest := text.toList }
  let (root, state) ←
    (readExpression byteLength (readGroup byteLength maxGroupDepth)).run start
  if state.rest.isEmpty then some ⟨root, state.referenced⟩ else none

end ToolGate.Pattern
