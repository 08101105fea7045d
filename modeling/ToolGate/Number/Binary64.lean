/-!
# Finite binary floating-point numbers

A finite double-precision number is `significand · 2 ^ exponent` units, one
unit being `2 ^ -1074`, the finest step of the format.  The significand has
at most 53 bits, and fewer only on the finest grid, so every value but zero
has one representation; zero has two, one for each sign.

Comparison, wholeness and conversion are stated on the exact number of
units, an integer.  Arithmetic is exact on units and then rounded once, to
the nearest representable number and on a tie to the even significand.
-/

namespace ToolGate

/-- A significand and an exponent that the format writes without loss and in one way. -/
abbrev Binary64.Canonical (significand exponent : Nat) : Prop :=
  significand < Nat.pow 2 53 ∧ exponent ≤ 2045 ∧ (Nat.pow 2 52 ≤ significand ∨ exponent = 0)

/-- A finite double-precision number. -/
structure Binary64 where
  /-- Whether the sign bit is set; it is meaningful for zero too. -/
  negative : Bool
  /-- The leading bits of the magnitude. -/
  significand : Nat
  /-- The binary logarithm of the step between neighbours, counted from the finest one. -/
  exponent : Nat
  /-- The representation is the canonical one. -/
  canonical : Binary64.Canonical significand exponent
deriving DecidableEq

namespace Binary64

/-- How many units make the number one. -/
def unitsPerOne : Nat := Nat.pow 2 1074

/-- The magnitude as an exact number of units. -/
def magnitude (x : Binary64) : Nat :=
  x.significand * Nat.pow 2 x.exponent

/-- The exact value in units. -/
def units (x : Binary64) : Int :=
  if x.negative then -(x.magnitude : Int) else x.magnitude

/-- Zero of either sign. -/
def zero (negative : Bool) : Binary64 :=
  ⟨negative, 0, 0, by decide⟩

/-- The finite number of greatest magnitude, of either sign. -/
def largest (negative : Bool) : Binary64 :=
  ⟨negative, Nat.pow 2 53 - 1, 2045, by decide⟩

instance : Inhabited Binary64 := ⟨zero false⟩

/-- The same number with the other sign. -/
def neg (x : Binary64) : Binary64 :=
  { x with negative := !x.negative }

/-- The number is zero, of either sign. -/
def isZero (x : Binary64) : Bool :=
  x.significand == 0

/-- The number has no fractional part. -/
def isWhole (x : Binary64) : Bool :=
  x.magnitude % unitsPerOne == 0

/-- Equality of values; the two zeros are equal. -/
def sameValue (x y : Binary64) : Bool :=
  x.units == y.units

/-- Strict order of values. -/
def lt (x y : Binary64) : Bool :=
  decide (x.units < y.units)

/-- Order of values. -/
def le (x y : Binary64) : Bool :=
  decide (x.units ≤ y.units)

/-- The binary logarithm of the step on which a magnitude of `n / d` units is rounded. -/
def gridExponent (n d : Nat) : Nat :=
  (n / d).log2 - 52

/-- Division rounded to the nearest integer, a tie going to the even one. -/
def divNearestEven (n d : Nat) : Nat :=
  let quotient := n / d
  let remainder := n % d
  if 2 * remainder > d ∨ (2 * remainder = d ∧ quotient % 2 = 1) then quotient + 1 else quotient

/--
The number nearest to `n / d` units, with the given sign; nothing if the
rounded value lies beyond the finite range.
-/
def roundUnits? (negative : Bool) (n d : Nat) : Option Binary64 :=
  let exponent := gridExponent n d
  let rounded := divNearestEven n (d * Nat.pow 2 exponent)
  let (significand, exponent) :=
    if rounded = Nat.pow 2 53 then (Nat.pow 2 52, exponent + 1) else (rounded, exponent)
  if canonical : Canonical significand exponent then
    some ⟨negative, significand, exponent, canonical⟩
  else
    none

/-- The number nearest to `n / d`; nothing if it lies beyond the finite range. -/
def ofRatio? (negative : Bool) (n d : Nat) : Option Binary64 :=
  roundUnits? negative (n * unitsPerOne) d

/-- The number nearest to a natural number, the largest one standing for all beyond. -/
def ofNat (n : Nat) : Binary64 :=
  (ofRatio? false n 1).getD (largest false)

/-- The number nearest to an integer, the largest ones standing for all beyond. -/
def ofInt (i : Int) : Binary64 :=
  if i < 0 then (ofNat i.natAbs).neg else ofNat i.natAbs

/-- The product, rounded; nothing if it lies beyond the finite range. -/
def mul? (x y : Binary64) : Option Binary64 :=
  roundUnits? (x.negative != y.negative) (x.magnitude * y.magnitude) unitsPerOne

/-- The quotient, rounded; nothing if the divisor is zero or the quotient lies beyond the range. -/
def div? (x y : Binary64) : Option Binary64 :=
  if y.isZero then none
  else roundUnits? (x.negative != y.negative) (x.magnitude * unitsPerOne) y.magnitude

/-- The whole part of the magnitude. -/
def floorMagnitude (x : Binary64) : Nat :=
  x.magnitude / unitsPerOne

/-- The whole part as a 64-bit word: zero for negative numbers, the greatest word for great ones. -/
def toWord (x : Binary64) : UInt64 :=
  if x.negative then 0 else UInt64.ofNat (min x.floorMagnitude (UInt64.size - 1))

end Binary64

end ToolGate
