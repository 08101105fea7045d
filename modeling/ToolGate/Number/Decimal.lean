import ToolGate.Number.Binary64

/-!
# Shortest decimal text of binary numbers

A finite binary number is written with the fewest significant digits that
read back as the same number, and of those with the digits nearest to it.
The digits are chosen once, in exact integer arithmetic; a layout then
decides where the point stands and when an exponent is written.
-/

namespace ToolGate

/-- Which of two equally near digit strings is taken. -/
inductive DecimalTie where
  /-- The one whose last digit is even. -/
  | toEven
  /-- The greater one. -/
  | up
deriving DecidableEq, Repr

/-- A positive decimal number `0.digits · 10 ^ point`. -/
structure Decimal where
  /-- The significant digits, as one number. -/
  digits : Nat
  /-- The place of the decimal point, counted from before the first digit. -/
  point : Int
deriving DecidableEq, Repr

namespace Decimal

/-- The digits as text. -/
def digitText (decimal : Decimal) : String :=
  toString decimal.digits

/-- Drop trailing zeros, at most `fuel` of them. -/
def stripZeros : (fuel : Nat) → Nat → Nat
  | 0, digits => digits
  | fuel + 1, digits =>
      if digits % 10 = 0 then stripZeros fuel (digits / 10) else digits

/-- The interval of quarter units that round to one binary number. -/
structure Interval where
  /-- The value itself. -/
  value : Nat
  /-- The lower end. -/
  lower : Nat
  /-- The upper end. -/
  upper : Nat
  /-- Whether the ends belong to the interval. -/
  closed : Bool

/--
The numbers that round to `x`: half a step up and half a step down, the step
below the first number of a grid being half as wide.  The ends round to `x`
exactly if its significand is even.
-/
def Interval.of (x : Binary64) : Interval :=
  let step := Nat.pow 2 x.exponent
  let below := if x.significand = Nat.pow 2 52 ∧ 0 < x.exponent then step else 2 * step
  { value := 4 * x.magnitude
    lower := 4 * x.magnitude - below
    upper := 4 * x.magnitude + 2 * step
    closed := x.significand % 2 == 0 }

/-- A fraction of quarter units lies in the interval. -/
def Interval.contains (interval : Interval) (n d : Nat) : Bool :=
  if interval.closed then
    decide (interval.lower * d ≤ n ∧ n ≤ interval.upper * d)
  else
    decide (interval.lower * d < n ∧ n < interval.upper * d)

/-- `10 ^ e` as a fraction. -/
def powerOfTen (e : Int) : Nat × Nat :=
  if e < 0 then (1, Nat.pow 10 e.natAbs) else (Nat.pow 10 e.natAbs, 1)

/--
The decimal of `count` digits nearest to the value of an interval among the
value's two neighbours on that decimal grid, if one of them lies inside.
-/
def nearestOn (tie : DecimalTie) (interval : Interval) (point : Int) (count : Nat) :
    Option Decimal :=
  let (stepNum, stepDen) := powerOfTen (point - count)
  -- one step of the grid is `step / stepDen` quarter units
  let step := stepNum * (4 * Binary64.unitsPerOne)
  let scaled := interval.value * stepDen
  let low := scaled / step
  let high := low + 1
  let lowInside := interval.contains (low * step) stepDen
  let highInside := interval.contains (high * step) stepDen
  let toLow := scaled - low * step
  let toHigh := high * step - scaled
  let takeLow :=
    lowInside && (!highInside || decide (toLow < toHigh)
      || (toLow == toHigh && tie == .toEven && low % 2 == 0))
  if takeLow then some ⟨low, point⟩
  else if highInside then
    -- ten to the `count` has one digit more, and the point moves with it
    if high = Nat.pow 10 count then some ⟨Nat.pow 10 (count - 1), point + 1⟩
    else some ⟨high, point⟩
  else none

/-- The first grid, from `count` digits on, that holds a decimal of the interval. -/
def firstGrid (tie : DecimalTie) (interval : Interval) (point : Int) :
    (fuel : Nat) → (count : Nat) → Option Decimal
  | 0, _ => none
  | fuel + 1, count =>
      match nearestOn tie interval point count with
      | some decimal => some decimal
      | none => firstGrid tie interval point fuel (count + 1)

/-- An estimate, never too great, of the point of the magnitude `m · 2 ^ e` units. -/
def pointEstimate (x : Binary64) : Int :=
  -- the binary logarithm times 30102/100000, which is just below the decimal logarithm of two
  let log := (x.magnitude.log2 : Int) - 1074
  if log < 0 then Int.fdiv (log * 30103) 100000 else Int.fdiv (log * 30102) 100000

/-- Move the point up until the value is less than ten to the point. -/
def settlePoint (x : Binary64) : (fuel : Nat) → Int → Int
  | 0, point => point
  | fuel + 1, point =>
      let (num, den) := powerOfTen point
      if x.magnitude * den < num * Binary64.unitsPerOne then point
      else settlePoint x fuel (point + 1)

/-- The shortest decimal that reads back as the magnitude of `x`, which is not zero. -/
def shortest (tie : DecimalTie) (x : Binary64) : Decimal :=
  let point := settlePoint x 4 (pointEstimate x)
  match firstGrid tie (.of x) point 17 1 with
  | some decimal => { decimal with digits := stripZeros 17 decimal.digits }
  | none => ⟨0, 0⟩

end Decimal

namespace Binary64

/-- Text made of a sign and of the text of the magnitude. -/
def signed (x : Binary64) (magnitude : String) : String :=
  if x.negative then "-" ++ magnitude else magnitude

/-- A run of zeros. -/
def zeros (count : Nat) : String :=
  String.ofList (List.replicate count '0')

/--
Positional notation: the digits, with zeros up to the point on either side.
A whole number ends in `wholeEnd`.
-/
def positional (decimal : Decimal) (wholeEnd : String) : String :=
  let digits := decimal.digitText
  let count := digits.length
  if decimal.point ≤ 0 then
    "0." ++ zeros decimal.point.natAbs ++ digits
  else if decimal.point.natAbs < count then
    let cut := decimal.point.natAbs
    String.ofList (digits.toList.take cut) ++ "." ++ String.ofList (digits.toList.drop cut)
  else
    digits ++ zeros (decimal.point.natAbs - count) ++ wholeEnd

/-- Exponent notation: one digit before the point, and an exponent that always has its sign. -/
def scientific (decimal : Decimal) : String :=
  let power := decimal.point - 1
  let exponent := (if power < 0 then "e-" else "e+") ++ toString power.natAbs
  match decimal.digitText.toList with
  | [] => exponent
  | [digit] => String.singleton digit ++ exponent
  | digit :: rest => String.singleton digit ++ "." ++ String.ofList rest ++ exponent

/--
The text of a number inside JSON: always with a point or an exponent, and
positional from `1e-5` up to, and without, `1e16`.
-/
def jsonText (x : Binary64) : String :=
  if x.isZero then x.signed "0.0"
  else
    let decimal := Decimal.shortest .toEven x
    x.signed <|
      if -4 ≤ decimal.point ∧ decimal.point ≤ 16 then positional decimal ".0"
      else scientific decimal

/-- The text of a number inside a message: never an exponent, and no point in a whole number. -/
def plainText (x : Binary64) : String :=
  if x.isZero then x.signed "0"
  else x.signed (positional (Decimal.shortest .up x) "")

end Binary64

end ToolGate
