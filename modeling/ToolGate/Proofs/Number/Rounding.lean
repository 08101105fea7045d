import Mathlib.Algebra.Order.Ring.Nat
import Mathlib.Tactic.Ring
import ToolGate.Json.Basic

/-!
# Rounding to double precision

A JSON number of integer form is read as the nearest double-precision
number.  Between two powers of two the double-precision numbers form a grid,
and a power of two is a point of the grids on both of its sides.  Rounding
is therefore monotone: on one grid because division rounded to the nearest
integer is, and across grids because no rounding passes the power of two
between them.  A number on the grid is its own rounding.
-/

namespace ToolGate

namespace Binary64

/-! ## Nearest multiples -/

section Division

variable {n m k d : Nat}

theorem div_le_divNearestEven : n / d ≤ divNearestEven n d := by
  unfold divNearestEven
  dsimp only
  split <;> omega

theorem divNearestEven_le_div_succ : divNearestEven n d ≤ n / d + 1 := by
  unfold divNearestEven
  dsimp only
  split <;> omega

theorem divNearestEven_mul_self (positive : 0 < d) : divNearestEven (k * d) d = k := by
  unfold divNearestEven
  dsimp only
  rw [Nat.mul_mod_left, Nat.mul_div_cancel _ positive]
  split <;> omega

theorem divNearestEven_mono (ordered : n ≤ m) : divNearestEven n d ≤ divNearestEven m d := by
  rcases (Nat.div_le_div_right ordered : n / d ≤ m / d).lt_or_eq with below | same
  · calc
      divNearestEven n d ≤ n / d + 1 := divNearestEven_le_div_succ
      _ ≤ m / d := below
      _ ≤ divNearestEven m d := div_le_divNearestEven
  · -- with one quotient the remainders are ordered, and a greater one rounds up sooner
    have remainders : n % d ≤ m % d := by
      have first := Nat.div_add_mod n d
      have second := Nat.div_add_mod m d
      rw [same] at first
      omega
    unfold divNearestEven
    dsimp only
    rw [same]
    split <;> split <;> omega

end Division

/-! ## Rounded magnitudes -/

/-- A magnitude on the grid of its own size, as if the range had no end. -/
def roundedMagnitude (n : Nat) : Nat :=
  divNearestEven n (2 ^ gridExponent n 1) * 2 ^ gridExponent n 1

section Magnitude

variable {n m : Nat}

theorem gridExponent_one : gridExponent n 1 = n.log2 - 52 := by
  rw [gridExponent, Nat.div_one]

theorem lt_of_gridExponent : n < 2 ^ (gridExponent n 1 + 53) := by
  rw [gridExponent_one]
  exact Nat.lt_of_lt_of_le Nat.lt_log2_self (Nat.pow_le_pow_right (by decide) (by omega))

theorem le_of_gridExponent (coarse : gridExponent n 1 ≠ 0) :
    2 ^ (gridExponent n 1 + 52) ≤ n := by
  rw [gridExponent_one] at *
  have nonzero : n ≠ 0 := by
    rintro rfl
    exact coarse (by simp)
  have same : n.log2 - 52 + 52 = n.log2 := by omega
  rw [same]
  exact Nat.log2_self_le nonzero

theorem gridExponent_le_of_lt {exponent : Nat} (bounded : n < 2 ^ (exponent + 53)) :
    gridExponent n 1 ≤ exponent := by
  by_contra coarser
  have reached : 2 ^ (gridExponent n 1 + 52) < 2 ^ (exponent + 53) :=
    (le_of_gridExponent (by omega)).trans_lt bounded
  have := (Nat.pow_lt_pow_iff_right (by decide)).mp reached
  omega

theorem gridExponent_mono (ordered : n ≤ m) : gridExponent n 1 ≤ gridExponent m 1 :=
  gridExponent_le_of_lt (ordered.trans_lt lt_of_gridExponent)

/-- A point of the grid is its own rounding. -/
theorem roundedMagnitude_of_dvd (point : 2 ^ gridExponent n 1 ∣ n) : roundedMagnitude n = n := by
  unfold roundedMagnitude
  generalize gridExponent n 1 = grid at point ⊢
  obtain ⟨count, rfl⟩ := point
  rw [Nat.mul_comm (2 ^ grid) count, divNearestEven_mul_self (Nat.two_pow_pos _)]

/-- A number that the format writes without loss is a point of its grid. -/
theorem roundedMagnitude_of_canonical {significand exponent : Nat}
    (fits : significand < 2 ^ 53) :
    roundedMagnitude (significand * 2 ^ exponent) = significand * 2 ^ exponent := by
  have finer : gridExponent (significand * 2 ^ exponent) 1 ≤ exponent := by
    apply gridExponent_le_of_lt
    rw [Nat.pow_add, Nat.mul_comm]
    exact Nat.mul_lt_mul_of_pos_left fits (Nat.two_pow_pos _)
  exact roundedMagnitude_of_dvd ((Nat.pow_dvd_pow 2 finer).mul_left _)

/-- A multiple of a power of two is a point of its grid or rounded to a point of a coarser one. -/
theorem two_pow_dvd_roundedMagnitude {exponent : Nat} (multiple : 2 ^ exponent ∣ n) :
    2 ^ exponent ∣ roundedMagnitude n := by
  rcases Nat.le_total exponent (gridExponent n 1) with coarser | finer
  · exact (Nat.pow_dvd_pow 2 coarser).mul_left _
  · rwa [roundedMagnitude_of_dvd ((Nat.pow_dvd_pow 2 finer).trans multiple)]

/-- The significand of a rounded magnitude has 53 bits, or is the power of two above. -/
theorem divNearestEven_grid_le : divNearestEven n (2 ^ gridExponent n 1) ≤ 2 ^ 53 := by
  have below : n ≤ 2 ^ 53 * 2 ^ gridExponent n 1 := by
    rw [← Nat.pow_add, Nat.add_comm]
    exact lt_of_gridExponent.le
  have := divNearestEven_mono (d := 2 ^ gridExponent n 1) below
  rwa [divNearestEven_mul_self (Nat.two_pow_pos _)] at this

theorem le_divNearestEven_grid (coarse : gridExponent n 1 ≠ 0) :
    2 ^ 52 ≤ divNearestEven n (2 ^ gridExponent n 1) := by
  have above : 2 ^ 52 * 2 ^ gridExponent n 1 ≤ n := by
    rw [← Nat.pow_add, Nat.add_comm]
    exact le_of_gridExponent coarse
  have := divNearestEven_mono (d := 2 ^ gridExponent n 1) above
  rwa [divNearestEven_mul_self (Nat.two_pow_pos _)] at this

theorem roundedMagnitude_mono (ordered : n ≤ m) : roundedMagnitude n ≤ roundedMagnitude m := by
  rcases (gridExponent_mono ordered).eq_or_lt with same | finer
  · unfold roundedMagnitude
    rw [same]
    exact Nat.mul_le_mul_right _ (divNearestEven_mono ordered)
  · calc
      roundedMagnitude n ≤ 2 ^ 53 * 2 ^ gridExponent n 1 :=
        Nat.mul_le_mul_right _ divNearestEven_grid_le
      _ = 2 ^ 52 * 2 ^ (gridExponent n 1 + 1) := by ring
      _ ≤ 2 ^ 52 * 2 ^ gridExponent m 1 :=
        Nat.mul_le_mul_left _ (Nat.pow_le_pow_right (by decide) finer)
      _ ≤ roundedMagnitude m :=
        Nat.mul_le_mul_right _ (le_divNearestEven_grid (by omega))

/-- Below the topmost grid rounding gives a number, and that of the rounded magnitude. -/
theorem roundUnits?_eq_some (negative : Bool) (grid : gridExponent n 1 ≤ 2044) :
    ∃ x : Binary64, roundUnits? negative n 1 = some x ∧ x.negative = negative ∧
      x.magnitude = roundedMagnitude n := by
  have least : gridExponent n 1 ≠ 0 → 2 ^ 52 ≤ divNearestEven n (2 ^ gridExponent n 1) :=
    le_divNearestEven_grid
  have most : divNearestEven n (2 ^ gridExponent n 1) ≤ 2 ^ 53 := divNearestEven_grid_le
  -- the power of two above a grid is written on the next one
  obtain ⟨significand, exponent, adjusted, canonical, value⟩ :
      ∃ significand exponent,
        (if divNearestEven n (2 ^ gridExponent n 1) = 2 ^ 53 then (2 ^ 52, gridExponent n 1 + 1)
          else (divNearestEven n (2 ^ gridExponent n 1), gridExponent n 1)) =
          (significand, exponent) ∧
        Canonical significand exponent ∧ significand * 2 ^ exponent = roundedMagnitude n := by
    unfold roundedMagnitude
    by_cases full : divNearestEven n (2 ^ gridExponent n 1) = 2 ^ 53
    · refine ⟨_, _, if_pos full, ⟨by decide, by omega, .inl le_rfl⟩, ?_⟩
      rw [full]
      ring
    · refine ⟨_, _, if_neg full, ⟨lt_of_le_of_ne most full, by omega, ?_⟩, rfl⟩
      by_cases finest : gridExponent n 1 = 0
      · exact .inr finest
      · exact .inl (least finest)
  refine ⟨⟨negative, significand, exponent, canonical⟩, ?_, rfl, value⟩
  simp only [roundUnits?, Nat.one_mul, Nat.pow_eq, adjusted]
  exact dif_pos canonical

end Magnitude

/-! ## Rounded values -/

/-- One is a power of two; its exponent is named here, since its value is too long to write. -/
theorem exists_unitsPerOne_eq : ∃ scale ≤ 1074, unitsPerOne = Nat.pow 2 scale := by
  refine ⟨1074, le_rfl, ?_⟩
  unfold unitsPerOne
  with_reducible rfl

theorem unitsPerOne_pos : 0 < unitsPerOne := by
  obtain ⟨scale, _, same⟩ := exists_unitsPerOne_eq
  rw [same]
  exact Nat.two_pow_pos scale

/-- An exact number of units, rounded on the grid of its own size. -/
def roundedUnits (units : Int) : Int :=
  if units < 0 then -(roundedMagnitude units.natAbs : Int) else roundedMagnitude units.natAbs

theorem roundedUnits_mono {u v : Int} (ordered : u ≤ v) : roundedUnits u ≤ roundedUnits v := by
  unfold roundedUnits
  split <;> split
  · have := roundedMagnitude_mono (n := v.natAbs) (m := u.natAbs) (by omega)
    omega
  · omega
  · omega
  · have := roundedMagnitude_mono (n := u.natAbs) (m := v.natAbs) (by omega)
    omega

theorem roundedMagnitude_magnitude (x : Binary64) :
    roundedMagnitude x.magnitude = x.magnitude :=
  roundedMagnitude_of_canonical x.canonical.1

/-- A whole number is rounded to a whole number. -/
theorem unitsPerOne_dvd_roundedUnits {u : Int} (whole : (unitsPerOne : Int) ∣ u) :
    (unitsPerOne : Int) ∣ roundedUnits u := by
  have magnitude : (unitsPerOne : Int) ∣ roundedMagnitude u.natAbs := by
    obtain ⟨scale, _, same⟩ := exists_unitsPerOne_eq
    rw [same, Nat.pow_eq] at whole ⊢
    exact Int.natCast_dvd_natCast.mpr
      (two_pow_dvd_roundedMagnitude (Int.natCast_dvd.mp whole))
  unfold roundedUnits
  split
  · exact Int.dvd_neg.mpr magnitude
  · exact magnitude

/-- A double-precision number is its own rounding. -/
theorem roundedUnits_units (x : Binary64) : roundedUnits x.units = x.units := by
  have magnitude := roundedMagnitude_magnitude x
  unfold roundedUnits units
  cases x.negative with
  | false => simp [magnitude]
  | true =>
      rcases Nat.eq_zero_or_pos x.magnitude with zero | positive
      · simpa [zero] using magnitude
      · simp [positive, magnitude]

/-- Up to 53 bits every integer is a double-precision number. -/
theorem roundedUnits_of_natAbs_le {i : Int} (small : i.natAbs ≤ 2 ^ 53) :
    roundedUnits (i * unitsPerOne) = i * unitsPerOne := by
  have magnitude : roundedMagnitude (i * unitsPerOne).natAbs = (i * unitsPerOne).natAbs := by
    obtain ⟨scale, _, same⟩ := exists_unitsPerOne_eq
    rw [Int.natAbs_mul, Int.natAbs_natCast, same, Nat.pow_eq]
    rcases small.lt_or_eq with fits | full
    · exact roundedMagnitude_of_canonical fits
    · have next : 2 ^ 53 * 2 ^ scale = 2 ^ 52 * 2 ^ (scale + 1) := by ring
      rw [full, next]
      exact roundedMagnitude_of_canonical (by decide)
  unfold roundedUnits
  rw [magnitude]
  split <;> omega

/-- Below 53 bits an integer shares its rounding with no other one. -/
theorem eq_of_roundedUnits_eq {i j : Int} (small : i.natAbs < 2 ^ 53)
    (same : roundedUnits (i * unitsPerOne) = roundedUnits (j * unitsPerOne)) : i = j := by
  have positive : (0 : Int) < unitsPerOne := Int.natCast_pos.mpr unitsPerOne_pos
  rw [roundedUnits_of_natAbs_le small.le] at same
  by_cases smallToo : j.natAbs ≤ 2 ^ 53
  · rw [roundedUnits_of_natAbs_le smallToo] at same
    exact Int.eq_of_mul_eq_mul_right positive.ne' same
  -- the rounding of a longer integer does not fall below 53 bits
  · rcases Int.lt_or_le j 0 with negative | natural
    · have reached := roundedUnits_mono
        (Int.mul_le_mul_of_nonneg_right (show j ≤ -2 ^ 53 by omega) positive.le)
      rw [← same, roundedUnits_of_natAbs_le (i := -2 ^ 53) (by decide)] at reached
      have := Int.le_of_mul_le_mul_right reached positive
      omega
    · have reached := roundedUnits_mono
        (Int.mul_le_mul_of_nonneg_right (show 2 ^ 53 ≤ j by omega) positive.le)
      rw [← same, roundedUnits_of_natAbs_le (i := 2 ^ 53) (by decide)] at reached
      have := Int.le_of_mul_le_mul_right reached positive
      omega

theorem units_neg (x : Binary64) : x.neg.units = -x.units := by
  cases h : x.negative <;> simp [units, neg, magnitude, h]

theorem units_ofNat {n : Nat} (inRange : n < 2 ^ 65) :
    (ofNat n).units = roundedMagnitude (n * unitsPerOne) := by
  have grid : gridExponent (n * unitsPerOne) 1 ≤ 2044 := by
    obtain ⟨scale, scale_le, same⟩ := exists_unitsPerOne_eq
    have bounded : n * unitsPerOne < 2 ^ (scale + 12 + 53) :=
      calc
        n * unitsPerOne < 2 ^ 65 * unitsPerOne :=
          Nat.mul_lt_mul_of_pos_right inRange unitsPerOne_pos
        _ = 2 ^ (scale + 12 + 53) := by rw [same, Nat.pow_eq]; ring
    have := gridExponent_le_of_lt bounded
    omega
  obtain ⟨x, rounded, positive, magnitude⟩ := roundUnits?_eq_some false grid
  simp [ofNat, ofRatio?, rounded, units, positive, magnitude]

/-- The number nearest to an integer has the rounded value. -/
theorem units_ofInt {i : Int} (inRange : i.natAbs < 2 ^ 65) :
    (ofInt i).units = roundedUnits (i * unitsPerOne) := by
  have magnitude : (i * unitsPerOne).natAbs = i.natAbs * unitsPerOne := by
    rw [Int.natAbs_mul, Int.natAbs_natCast]
  have sign : i * unitsPerOne < 0 ↔ i < 0 := by
    have := Int.mul_lt_mul_right (b := i) (c := 0) (Int.natCast_pos.mpr unitsPerOne_pos)
    rwa [Int.zero_mul] at this
  unfold ofInt roundedUnits
  simp only [magnitude, sign]
  split
  · rw [units_neg, units_ofNat inRange]
  · exact units_ofNat inRange

end Binary64

namespace JsonNumber

/-- The exact value in units, before any rounding. -/
def units : JsonNumber → Int
  | .integer i => i.value * Binary64.unitsPerOne
  | .float x => x.units

variable {x y : JsonNumber}

/-- The exact value has no fractional part. -/
def IsWhole (x : JsonNumber) : Prop :=
  (Binary64.unitsPerOne : Int) ∣ x.units

/-- A number is read as a double-precision number by rounding its exact value. -/
theorem units_toBinary64 (x : JsonNumber) : x.toBinary64.units = Binary64.roundedUnits x.units := by
  cases x with
  | integer i =>
      have := i.lower
      have := i.upper
      exact Binary64.units_ofInt (by omega)
  | float x => exact (Binary64.roundedUnits_units x).symm

theorem isWhole_toBinary64 (whole : x.IsWhole) :
    (Binary64.unitsPerOne : Int) ∣ x.toBinary64.units := by
  rw [units_toBinary64]
  exact Binary64.unitsPerOne_dvd_roundedUnits whole

/-- Reading numbers as double-precision numbers keeps their order. -/
theorem toBinary64_mono (ordered : x.units ≤ y.units) :
    x.toBinary64.units ≤ y.toBinary64.units := by
  rw [units_toBinary64, units_toBinary64]
  exact Binary64.roundedUnits_mono ordered

theorem lt_of_toBinary64_lt (less : x.toBinary64.units < y.toBinary64.units) :
    x.units < y.units := by
  by_contra ordered
  exact absurd (toBinary64_mono (not_lt.mp ordered)) (not_le.mpr less)

/-- Integers below 53 bits stay apart from all others as double-precision numbers. -/
theorem eq_of_toBinary64_eq {i j : WordInt} (small : i.value.natAbs < 2 ^ 53)
    (same : (integer i).toBinary64.units = (integer j).toBinary64.units) : i = j := by
  rw [units_toBinary64, units_toBinary64] at same
  have values := Binary64.eq_of_roundedUnits_eq small same
  cases i
  cases j
  cases values
  rfl

end JsonNumber

end ToolGate
