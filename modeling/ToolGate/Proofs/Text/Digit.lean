import Mathlib.Algebra.Order.Ring.Nat
import Mathlib.Data.List.Basic
import Mathlib.Data.List.Induction
import Mathlib.Data.List.TakeDrop
import Mathlib.Data.List.TakeWhile
import ToolGate.Text.Digit

/-!
# Numerals

The decimal digits of a number, with zeros in front up to a width, are the
only digits of that width that write it.  A reader of numerals can therefore
be described by the numbers it reads, without a word about digits.
-/

namespace ToolGate.Text

variable {c : Char} {digits rest text : List Char} {n width : Nat}

/-! ## Digits -/

theorem digit?_of_isDigit (given : c.isDigit = true) : digit? c = some (c.toNat - '0'.toNat) :=
  if_pos given

@[simp]
theorem isSome_digit? : (digit? c).isSome = c.isDigit := by
  unfold digit?
  split <;> simp_all

theorem digit?_lt {digit : Nat} (given : digit? c = some digit) : digit < 10 := by
  unfold digit? at given
  split at given
  · rename_i isDigit
    have bounds := Char.isDigit_iff_toNat.mp isDigit
    cases given
    have zero : '0'.toNat = 48 := rfl
    have nine : '9'.toNat = 57 := rfl
    omega
  · cases given

/-- What holds of the ten digits from each zero on holds of every decimal digit. -/
theorem of_isDecimalDigit (holds : Char → Bool)
    (check : (zeros.all fun first =>
      (List.range 10).all fun digit => holds (Char.ofNat (first + digit))) = true)
    (given : isDecimalDigit c = true) : holds c = true := by
  simp only [isDecimalDigit, List.any_eq_true, decide_eq_true_iff] at given
  obtain ⟨first, member, above, below⟩ := given
  have holds := List.all_eq_true.mp (List.all_eq_true.mp check first member) (c.toNat - first)
    (List.mem_range.mpr (by omega))
  rwa [Nat.add_sub_cancel' above, Char.ofNat_toNat] at holds

/-- The first zero is that of ASCII. -/
theorem isDecimalDigit_of_isDigit (given : c.isDigit = true) : isDecimalDigit c = true := by
  obtain ⟨above, below⟩ := Char.isDigit_iff_toNat.mp given
  refine List.any_eq_true.mpr ⟨'0'.toNat, by decide, decide_eq_true ⟨above, ?_⟩⟩
  exact Nat.lt_succ_of_le below

/-! ## Values -/

theorem decimalValue_concat :
    decimalValue (digits ++ [c]) = decimalValue digits * 10 + (digit? c).getD 0 := by
  simp [decimalValue]

theorem decimalValue_eq_ofDigitChars (all : ∀ c ∈ digits, c.isDigit = true) :
    decimalValue digits = Nat.ofDigitChars 10 digits 0 := by
  rw [Nat.ofDigitChars_eq_foldl, decimalValue]
  refine List.foldl_ext _ _ _ fun value c member => ?_
  rw [digit?_of_isDigit (all c member), Option.getD_some, Nat.mul_comm]

theorem decimalValue_lt : decimalValue digits < 10 ^ digits.length := by
  induction digits using List.reverseRecOn with
  | nil => exact Nat.one_pos
  | append_singleton digits c ih =>
      have digit : (digit? c).getD 0 < 10 := by
        cases given : digit? c with
        | none => exact Nat.succ_pos 9
        | some digit => exact digit?_lt given
      rw [decimalValue_concat, List.length_append, List.length_singleton, Nat.pow_succ]
      omega

/-- Digits of one width that write the same number are the same. -/
theorem eq_of_decimalValue_eq {left right : List Char}
    (allLeft : ∀ c ∈ left, c.isDigit = true) (allRight : ∀ c ∈ right, c.isDigit = true)
    (width : left.length = right.length) (same : decimalValue left = decimalValue right) :
    left = right := by
  induction left using List.reverseRecOn generalizing right with
  | nil => exact (List.length_eq_zero_iff.mp width.symm).symm
  | append_singleton left c ih =>
      cases right using List.reverseRecOn with
      | nil => simp at width
      | append_singleton right d =>
          simp only [List.forall_mem_append, List.forall_mem_singleton] at allLeft allRight
          have first := digit?_of_isDigit allLeft.2
          have second := digit?_of_isDigit allRight.2
          have firstBound := digit?_lt first
          have secondBound := digit?_lt second
          rw [decimalValue_concat, decimalValue_concat, first, second, Option.getD_some,
            Option.getD_some] at same
          have last : c.toNat = d.toNat := by
            have above := (Char.isDigit_iff_toNat.mp allLeft.2).1
            have above' := (Char.isDigit_iff_toNat.mp allRight.2).1
            omega
          rw [ih allLeft.1 allRight.1 (by simpa using width) (by omega), Char.toNat_inj.mp last]

/-! ## Numerals of a width -/

/-- The decimal digits of a number, with zeros in front up to a width. -/
def numeral (width n : Nat) : List Char :=
  List.replicate (width - (Nat.toDigits 10 n).length) '0' ++ Nat.toDigits 10 n

theorem isDigit_of_mem_toDigits (member : c ∈ Nat.toDigits 10 n) : c.isDigit = true :=
  Nat.isDigit_of_mem_toDigits (by decide) (by decide) member

theorem isDigit_of_mem_numeral (member : c ∈ numeral width n) : c.isDigit = true := by
  rcases List.mem_append.mp member with zero | digit
  · rw [List.eq_of_mem_replicate zero]
    rfl
  · exact isDigit_of_mem_toDigits digit

@[simp]
theorem decimalValue_numeral : decimalValue (numeral width n) = n := by
  rw [decimalValue_eq_ofDigitChars fun _ => isDigit_of_mem_numeral, numeral,
    Nat.ofDigitChars_append, Nat.ofDigitChars_replicate_zero, Nat.mul_zero,
    Nat.ofDigitChars_ten_toDigits]

@[simp]
theorem numeral_zero : numeral 0 n = Nat.toDigits 10 n := by
  simp [numeral]

@[simp]
theorem decimalValue_toDigits : decimalValue (Nat.toDigits 10 n) = n := by
  rw [← numeral_zero, decimalValue_numeral]

theorem length_numeral (positive : 0 < width) (fits : n < 10 ^ width) :
    (numeral width n).length = width := by
  have short := (Nat.length_toDigits_le_iff (by decide) positive).mpr fits
  rw [numeral, List.length_append, List.length_replicate]
  omega

/-- Digits are the numeral of their width and value. -/
theorem numeral_decimalValue (nonempty : digits ≠ []) (all : ∀ c ∈ digits, c.isDigit = true) :
    numeral digits.length (decimalValue digits) = digits :=
  eq_of_decimalValue_eq (fun _ => isDigit_of_mem_numeral) all
    (length_numeral (List.length_pos_iff.mpr nonempty) decimalValue_lt) decimalValue_numeral

/-- Without a zero in front of other digits they are those of their value. -/
theorem toDigits_decimalValue (nonempty : digits ≠ []) (all : ∀ c ∈ digits, c.isDigit = true)
    (shortest : digits.head? ≠ some '0' ∨ digits.length = 1) :
    Nat.toDigits 10 (decimalValue digits) = digits := by
  have written := numeral_decimalValue nonempty all
  have positive : 0 < (Nat.toDigits 10 (decimalValue digits)).length := Nat.length_toDigits_pos
  rw [numeral] at written
  cases zeros : digits.length - (Nat.toDigits 10 (decimalValue digits)).length with
  | zero => rwa [zeros, List.replicate_zero, List.nil_append] at written
  | succ count =>
      rcases shortest with first | single
      · rw [zeros, List.replicate_succ, List.cons_append] at written
        exact absurd (by rw [← written]; rfl) first
      · omega

/-- The digits of a number have no zero in front of others. -/
theorem head?_toDigits (positive : 0 < n) : (Nat.toDigits 10 n).head? ≠ some '0' := by
  induction n using Nat.strongRecOn with
  | ind n ih =>
      rcases Nat.lt_or_ge n 10 with small | large
      · rw [Nat.toDigits_of_lt_base small, List.head?_cons, Ne, Option.some.injEq,
          Nat.digitChar_eq_zero]
        exact positive.ne'
      · rw [Nat.toDigits_of_base_le (by decide) large,
          List.head?_append_of_ne_nil _ Nat.toDigits_ne_nil]
        exact ih (n / 10) (by omega) (by omega)

/-! ## Leading digits -/

/-- Digits are taken up to the first character that is none. -/
theorem spanDigits_eq_iff :
    spanDigits text = (digits, rest) ↔
      text = digits ++ rest ∧ (∀ c ∈ digits, c.isDigit = true) ∧
        ∀ c ∈ rest.head?, c.isDigit = false := by
  simp only [spanDigits, isSome_digit?, List.span_eq_takeWhile_dropWhile, Prod.mk.injEq]
  constructor
  · rintro ⟨rfl, rfl⟩
    refine ⟨List.takeWhile_append_dropWhile.symm, fun _ => List.mem_takeWhile_imp,
      fun c first => ?_⟩
    have stops := List.head?_dropWhile_not Char.isDigit text
    rwa [Option.mem_def.mp first] at stops
  · rintro ⟨rfl, all, stops⟩
    rw [List.takeWhile_append_of_pos all, List.dropWhile_append_of_pos all]
    cases rest with
    | nil => simp
    | cons c rest => simp [stops c rfl]

end ToolGate.Text
