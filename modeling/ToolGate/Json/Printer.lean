import ToolGate.Json.Basic
import ToolGate.Number.Decimal

/-!
# JSON text

Values are written in two layouts: compact, without any blank, and pretty,
with one member or element a line, two spaces for each level, and nothing
between the brackets of an empty container.  Strings escape only what must
be escaped.
-/

namespace ToolGate

namespace Json

/-- The digit of a number below sixteen, in lower case. -/
def hexDigit (n : Nat) : Char :=
  if n < 10 then Char.ofNat (48 + n) else Char.ofNat (87 + n)

/-- The escape of a character by its code in four hexadecimal digits. -/
def hexEscape (code : Nat) : String :=
  "\\u" ++ String.ofList
    [hexDigit (code / 4096 % 16), hexDigit (code / 256 % 16), hexDigit (code / 16 % 16),
      hexDigit (code % 16)]

/-- A character as it stands inside a string. -/
def escapeChar (c : Char) : String :=
  match c with
  | '"' => "\\\""
  | '\\' => "\\\\"
  | '\n' => "\\n"
  | '\r' => "\\r"
  | '\t' => "\\t"
  | c =>
      if c.toNat = 8 then "\\b"
      else if c.toNat = 12 then "\\f"
      else if c.toNat < 32 then hexEscape c.toNat
      else String.singleton c

/-- A string with its quotes. -/
def quote (text : String) : String :=
  text.foldl (fun written c => written ++ escapeChar c) "\"" ++ "\""

/-- The text of a number. -/
def numberText : JsonNumber → String
  | .integer i => toString i.value
  | .float x => x.jsonText

mutual

/-- The text of a value, without blanks. -/
def compact : Json → String
  | .null => "null"
  | .bool true => "true"
  | .bool false => "false"
  | .number n => numberText n
  | .string text => quote text
  | .array elements => "[" ++ ",".intercalate (compactElements elements) ++ "]"
  | .object members => "\x7b" ++ ",".intercalate (compactMembers members) ++ "\x7d"

/-- The texts of the elements. -/
def compactElements : List Json → List String
  | [] => []
  | element :: rest => compact element :: compactElements rest

/-- The texts of the members. -/
def compactMembers : List (String × Json) → List String
  | [] => []
  | (key, value) :: rest => (quote key ++ ":" ++ compact value) :: compactMembers rest

end

/-- A new line, indented to a level. -/
def newLine (level : Nat) : String :=
  "\n" ++ String.ofList (List.replicate (2 * level) ' ')

/-- Items of a container, each on a line of its own, or nothing. -/
def bracketed (level : Nat) (opening : String) (items : List String) (closing : String) : String :=
  match items with
  | [] => opening ++ closing
  | items =>
      opening ++ newLine (level + 1) ++ ("," ++ newLine (level + 1)).intercalate items
        ++ newLine level ++ closing

mutual

/-- The text of a value that starts at a level of indentation, with one item a line. -/
def prettyAt (level : Nat) : Json → String
  | .array elements => bracketed level "[" (prettyElements (level + 1) elements) "]"
  | .object members => bracketed level "\x7b" (prettyMembers (level + 1) members) "\x7d"
  | .null => "null"
  | .bool true => "true"
  | .bool false => "false"
  | .number n => numberText n
  | .string text => quote text

/-- The texts of the elements at a level. -/
def prettyElements (level : Nat) : List Json → List String
  | [] => []
  | element :: rest => prettyAt level element :: prettyElements level rest

/-- The texts of the members at a level. -/
def prettyMembers (level : Nat) : List (String × Json) → List String
  | [] => []
  | (key, value) :: rest =>
      (quote key ++ ": " ++ prettyAt level value) :: prettyMembers level rest

end

/-- The text of a value with one item a line. -/
def pretty (value : Json) : String :=
  prettyAt 0 value

end Json

end ToolGate
