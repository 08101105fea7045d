import ToolGate.Entries
import ToolGate.Number.Binary64

/-!
# JSON values

Values are trees whose objects keep the order of their members.  Numbers
come in two forms, an integer that fits a 64-bit word or a finite
double-precision number; both forms have a common reading as a
double-precision number, through which they are compared.
-/

namespace ToolGate

/-- An integer that fits a signed or an unsigned word of 64 bits. -/
structure WordInt where
  /-- The integer. -/
  value : Int
  /-- It is not below the least signed word. -/
  lower : -9223372036854775808 ≤ value
  /-- It is not above the greatest unsigned word. -/
  upper : value < 18446744073709551616
deriving DecidableEq

namespace WordInt

/-- The integer of an unsigned word. -/
def ofWord (word : UInt64) : WordInt :=
  ⟨word.toNat, by omega, by have := word.toNat_lt; omega⟩

/-- The integer as an unsigned word, if it is not negative. -/
def word? (i : WordInt) : Option UInt64 :=
  if 0 ≤ i.value then some (UInt64.ofNat i.value.toNat) else none

end WordInt

/-- A JSON number. -/
inductive JsonNumber where
  /-- A number written without point and exponent, within a word. -/
  | integer (value : WordInt)
  /-- Any other number. -/
  | float (value : Binary64)
deriving DecidableEq

namespace JsonNumber

/-- The nearest double-precision number. -/
def toBinary64 : JsonNumber → Binary64
  | .integer i => Binary64.ofInt i.value
  | .float x => x

/-- The number of an integer: of integer form as long as it fits a word. -/
def ofInt (i : Int) : JsonNumber :=
  if fits : -9223372036854775808 ≤ i ∧ i < 18446744073709551616 then
    .integer ⟨i, fits.1, fits.2⟩
  else
    .float (Binary64.ofInt i)

/-- The number of an unsigned word. -/
def ofWord (word : UInt64) : JsonNumber :=
  .integer (.ofWord word)

/-- The value as an unsigned word, for numbers of integer form. -/
def word? : JsonNumber → Option UInt64
  | .integer i => i.word?
  | .float _ => none

/-- Equality of the values as double-precision numbers. -/
def sameValue (x y : JsonNumber) : Bool :=
  x.toBinary64.sameValue y.toBinary64

/-- Equality of form and value; the two zeros of the float form are equal. -/
def sameForm : JsonNumber → JsonNumber → Bool
  | .integer i, .integer j => i.value == j.value
  | .float x, .float y => x.sameValue y
  | _, _ => false

end JsonNumber

/-- A JSON value. -/
inductive Json where
  /-- The literal `null`. -/
  | null
  /-- A truth value. -/
  | bool (value : Bool)
  /-- A number. -/
  | number (value : JsonNumber)
  /-- A string. -/
  | string (value : String)
  /-- A list of values. -/
  | array (elements : List Json)
  /-- Members in order. -/
  | object (members : List (String × Json))

namespace Json

instance : Inhabited Json := ⟨.null⟩

/-- The number of an unsigned word. -/
def ofWord (word : UInt64) : Json :=
  .number (.ofWord word)

/-- The number of a natural number. -/
def ofNat (n : Nat) : Json :=
  .number (.ofInt n)

/-- The number of a double-precision number, always of float form. -/
def ofBinary64 (x : Binary64) : Json :=
  .number (.float x)

/-- The name of the value's type. -/
def typeName : Json → String
  | .null => "null"
  | .bool _ => "boolean"
  | .number _ => "number"
  | .string _ => "string"
  | .array _ => "array"
  | .object _ => "object"

/-- The text of a string. -/
def string? : Json → Option String
  | .string text => some text
  | _ => none

/-- The value of a truth value. -/
def bool? : Json → Option Bool
  | .bool value => some value
  | _ => none

/-- The elements of an array. -/
def array? : Json → Option (List Json)
  | .array elements => some elements
  | _ => none

/-- The members of an object. -/
def object? : Json → Option (List (String × Json))
  | .object members => some members
  | _ => none

/-- A number read as a double-precision number. -/
def binary64? : Json → Option Binary64
  | .number n => some n.toBinary64
  | _ => none

/-- A number of integer form that is not negative. -/
def word? : Json → Option UInt64
  | .number n => n.word?
  | _ => none

/-- The value is an object. -/
def isObject : Json → Bool
  | .object _ => true
  | _ => false

/-- The value is `null`. -/
def isNull : Json → Bool
  | .null => true
  | _ => false

/-- The member of an object under a key. -/
def get? (value : Json) (key : String) : Option Json :=
  match value with
  | .object members => members.lookup key
  | _ => none

mutual

/-- Every object in the value has distinct keys. -/
def WellFormed : Json → Prop
  | .array elements => WellFormedElements elements
  | .object members => Entries.Distinct members ∧ WellFormedMembers members
  | _ => True

/-- Every element is well formed. -/
def WellFormedElements : List Json → Prop
  | [] => True
  | element :: rest => WellFormed element ∧ WellFormedElements rest

/-- The value of every member is well formed. -/
def WellFormedMembers : List (String × Json) → Prop
  | [] => True
  | (_, value) :: rest => WellFormed value ∧ WellFormedMembers rest

end

end Json

end ToolGate
