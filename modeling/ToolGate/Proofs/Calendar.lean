import Mathlib.Tactic.IntervalCases
import ToolGate.Calendar
import ToolGate.Proofs.Text.Digit

/-!
# What the calendar reads

Every reader of the calendar is described by what it reads: numerals of a
width, joined by certain characters, that name a day or a time.  The days are
those of the standard library's calendar.

The lenient readers see numerals of any width up to their own.  Where as many
digits stand as they could take, and they stop at something that is no digit,
they have read exactly these digits, and so they agree with the strict ones.
-/

namespace ToolGate.Calendar

open Text

variable {text rest tail digits fraction : List Char} {width n year month day second : Nat}

/-! ## Days -/

theorem isLeap_eq (year : Std.Time.Year.Offset) : year.isLeap = isLeapYear year.toInt := by
  rw [Bool.eq_iff_iff]
  simp only [Std.Time.Year.Offset.isLeap, isLeapYear, decide_eq_true_iff, Bool.and_eq_true,
    Bool.or_eq_true, bne_iff_ne, beq_iff_eq, ne_eq, ← Int.dvd_iff_tmod_eq_zero,
    ← Int.dvd_iff_emod_eq_zero]

theorem days_eq (year : Int) (month : Std.Time.Month.Ordinal) :
    (Std.Time.Month.Ordinal.days (isLeapYear year) month).val =
      daysInMonth year month.val.toNat := by
  unfold daysInMonth
  generalize isLeapYear year = leap
  obtain ⟨month, low, high⟩ := month
  interval_cases month <;> cases leap <;> rfl

theorem daysInMonth_le (year : Int) (month : Nat) : daysInMonth year month ≤ 31 := by
  unfold daysInMonth
  grind

theorem lt_of_exists {date : Date} (given : date.exists = true) :
    date.month < 10 ^ 2 ∧ date.day < 10 ^ 2 := by
  simp only [Date.exists, Bool.and_eq_true, decide_eq_true_iff] at given
  have bound := daysInMonth_le date.year date.month
  omega

/-- The standard library has the days that exist, each month with as many as the year gives it. -/
theorem valid_iff {year : Std.Time.Year.Offset} {month : Std.Time.Month.Ordinal}
    {day : Std.Time.Day.Ordinal} :
    year.Valid month day ↔ day.val ≤ daysInMonth year.toInt month.val.toNat := by
  rw [← days_eq, ← isLeap_eq]
  exact Iff.rfl

/-- The days of a year of four digits are those of the standard library's calendar. -/
theorem exists_iff (small : year ≤ 9999) :
    (⟨year, month, day⟩ : Date).exists = true ↔
      ∃ date : Std.Time.PlainDate,
        date.year.toInt = year ∧ date.month.val = month ∧ date.day.val = day := by
  simp only [Date.exists, Bool.and_eq_true, decide_eq_true_iff]
  constructor
  · rintro ⟨⟨⟨⟨-, firstMonth⟩, lastMonth⟩, firstDay⟩, lastDay⟩
    have bound := daysInMonth_le year month
    exact ⟨⟨(year : Int), ⟨month, by omega, by omega⟩, ⟨day, by omega, by omega⟩,
      valid_iff.mpr (Int.ofNat_le.mpr lastDay)⟩, rfl, rfl, rfl⟩
  · rintro ⟨date, sameYear, sameMonth, sameDay⟩
    have valid := valid_iff.mp date.valid
    have months := date.month.property
    have days := date.day.property
    rw [sameYear, sameMonth, sameDay, Int.toNat_natCast] at valid
    rw [sameMonth] at months
    rw [sameDay] at days
    omega

/-! ## Characters and digits -/

theorem readOneOf_eq_some_iff {choices : List Char} :
    readOneOf choices text = some rest ↔ ∃ c ∈ choices, text = c :: rest := by
  cases text with
  | nil => simp [readOneOf]
  | cons c text =>
      simp only [readOneOf, Option.ite_none_right_eq_some, List.contains_iff_mem,
        Option.some.injEq, List.cons.injEq]
      constructor
      · rintro ⟨listed, rfl⟩
        exact ⟨c, listed, rfl, rfl⟩
      · rintro ⟨_, listed, rfl, rfl⟩
        exact ⟨listed, rfl⟩

theorem readDigits_append {value : Nat} (all : ∀ c ∈ digits, c.isDigit = true) :
    readDigits digits.length value (digits ++ rest) =
      some (digits.foldl (fun value c => value * 10 + (digit? c).getD 0) value, rest) := by
  induction digits generalizing value with
  | nil => rfl
  | cons c digits ih =>
      rw [List.forall_mem_cons] at all
      simp [readDigits, digit?_of_isDigit all.1, ih all.2]

theorem exists_of_readDigits {value : Nat} (read : readDigits width value text = some (n, rest)) :
    ∃ digits, digits.length = width ∧ (∀ c ∈ digits, c.isDigit = true) ∧
      text = digits ++ rest := by
  fun_induction readDigits width value text with
  | case1 value text =>
      cases read
      exact ⟨[], rfl, by simp, rfl⟩
  | case2 => cases read
  | case3 value width c text digit given ih =>
      obtain ⟨digits, length, all, rfl⟩ := ih read
      have isDigit : c.isDigit = true := by rw [← isSome_digit?, given, Option.isSome_some]
      exact ⟨c :: digits, congrArg Nat.succ length, List.forall_mem_cons.mpr ⟨isDigit, all⟩, rfl⟩
  | case4 => cases read

/-- A number of a fixed width is read from its numeral. -/
theorem readDigits_eq_some_iff (positive : 0 < width) :
    readDigits width 0 text = some (n, rest) ↔
      n < 10 ^ width ∧ text = numeral width n ++ rest := by
  constructor
  · intro read
    obtain ⟨digits, rfl, all, rfl⟩ := exists_of_readDigits read
    rw [readDigits_append all, ← decimalValue] at read
    cases read
    exact ⟨decimalValue_lt, by rw [numeral_decimalValue (List.length_pos_iff.mp positive) all]⟩
  · rintro ⟨fits, rfl⟩
    have read : readDigits (numeral width n).length 0 (numeral width n ++ rest) = _ :=
      readDigits_append fun _ => isDigit_of_mem_numeral
    rwa [length_numeral positive fits, ← decimalValue, decimalValue_numeral] at read

/-! ## What is written -/

/-- The text names a day that exists: a year, a month and a day, joined by hyphens. -/
def IsDate (text : List Char) : Prop :=
  ∃ year month day : Nat, year < 10 ^ 4 ∧ (⟨year, month, day⟩ : Date).exists = true ∧
    text = numeral 4 year ++ '-' :: (numeral 2 month ++ '-' :: numeral 2 day)

/-- The text is a fraction of a second, or empty. -/
def IsFraction (text : List Char) : Prop :=
  text = [] ∨ ∃ digits, digits ≠ [] ∧ (∀ c ∈ digits, c.isDigit = true) ∧ text = '.' :: digits

/-- Hours and minutes, joined by a colon. -/
def IsClock (text : List Char) : Prop :=
  ∃ hour minute, hour ≤ 23 ∧ minute ≤ 59 ∧ text = numeral 2 hour ++ ':' :: numeral 2 minute

/-- Hours, minutes and seconds up to a last one, joined by colons, and a fraction. -/
def IsTime (latest : Nat) (text : List Char) : Prop :=
  ∃ clock second fraction, IsClock clock ∧ second ≤ latest ∧ IsFraction fraction ∧
    text = clock ++ ':' :: (numeral 2 second ++ fraction)

/-- The letter `Z`, or one of some signs with hours and minutes. -/
def IsOffset (signs text : List Char) : Prop :=
  text = ['Z'] ∨ text = ['z'] ∨ ∃ sign ∈ signs, ∃ clock, IsClock clock ∧ text = sign :: clock

/-- The text goes on neither with a digit nor with a point. -/
def EndsFraction (text : List Char) : Prop :=
  ∀ c ∈ text.head?, c.isDigit = false ∧ c ≠ '.'

/-- A day of the standard library's calendar as its year, month and day, joined by hyphens. -/
def dayText (day : Std.Time.PlainDate) : List Char :=
  numeral 4 day.year.toInt.toNat ++ '-' ::
    (numeral 2 day.month.val.toNat ++ '-' :: numeral 2 day.day.val.toNat)

/-- The days that can be written are those of the standard library with years of four digits. -/
theorem isDate_iff :
    IsDate text ↔
      ∃ day : Std.Time.PlainDate, (0 ≤ day.year.toInt ∧ day.year.toInt ≤ 9999) ∧
        text = dayText day := by
  constructor
  · rintro ⟨year, month, day, small, given, rfl⟩
    obtain ⟨date, sameYear, sameMonth, sameDay⟩ := (exists_iff (by omega)).mp given
    refine ⟨date, by omega, ?_⟩
    rw [dayText, sameYear, sameMonth, sameDay]
    rfl
  · rintro ⟨date, years, rfl⟩
    have months := date.month.property
    have days := date.day.property
    exact ⟨_, _, _, by omega, (exists_iff (by omega)).mpr ⟨date, by omega, by omega, by omega⟩, rfl⟩

theorem IsDate.length (isDate : IsDate text) : text.length = 10 := by
  obtain ⟨year, month, day, small, given, rfl⟩ := isDate
  have fits := lt_of_exists given
  rw [List.length_append, List.length_cons, List.length_append, List.length_cons,
    length_numeral (by decide) small, length_numeral (by decide) fits.1,
    length_numeral (by decide) fits.2]

theorem IsClock.length (isClock : IsClock text) : text.length = 5 := by
  obtain ⟨hour, minute, hours, minutes, rfl⟩ := isClock
  rw [List.length_append, List.length_cons, length_numeral (by decide) (by omega),
    length_numeral (by decide) (by omega)]

/-- Five characters in front of the seconds are the hours and minutes. -/
theorem isTime_append_iff {latest : Nat} {clock : List Char} (length : clock.length = 5)
    (bound : second ≤ latest) (fits : latest < 10 ^ 2) :
    IsTime latest (clock ++ ':' :: (numeral 2 second ++ rest)) ↔
      IsClock clock ∧ IsFraction rest := by
  constructor
  · rintro ⟨others, last, fraction, isClock, small, isFraction, same⟩
    obtain ⟨rfl, sameTail⟩ := List.append_inj same (length.trans isClock.length.symm)
    have width : (numeral 2 second).length = (numeral 2 last).length := by
      rw [length_numeral (by decide) (by omega), length_numeral (by decide) (by omega)]
    obtain ⟨-, rfl⟩ := List.append_inj (List.cons.inj sameTail).2 width
    exact ⟨isClock, isFraction⟩
  · rintro ⟨isClock, isFraction⟩
    exact ⟨clock, second, rest, isClock, bound, isFraction, rfl⟩

/-! ## Strict readers -/

theorem reads_date :
    (∃ date, readDate text = some (date, rest)) ↔
      ∃ written, IsDate written ∧ text = written ++ rest := by
  simp only [readDate, Option.bind_eq_bind, Option.bind_eq_some_iff, Prod.exists,
    readOneOf_eq_some_iff, Nat.succ_pos, readDigits_eq_some_iff, List.mem_singleton,
    exists_eq_left, Option.ite_none_right_eq_some, Option.some.injEq, Prod.mk.injEq]
  constructor
  · rintro ⟨_, year, _, ⟨small, rfl⟩, _, rfl, month, _, ⟨-, rfl⟩, _, rfl, day, _, ⟨-, rfl⟩, given,
      -, rfl⟩
    exact ⟨_, ⟨year, month, day, small, given, rfl⟩, by simp⟩
  · rintro ⟨_, ⟨year, month, day, small, given, rfl⟩, rfl⟩
    have fits := lt_of_exists given
    exact ⟨_, year, _, ⟨small, by simp⟩, _, rfl, month, _, ⟨fits.1, rfl⟩, _, rfl, day, _,
      ⟨fits.2, rfl⟩, given, rfl, rfl⟩

theorem reads_fraction (ends : EndsFraction rest) :
    (∃ n, readFraction text = some (n, rest)) ↔
      ∃ written, IsFraction written ∧ text = written ++ rest := by
  constructor
  · rintro ⟨n, read⟩
    unfold readFraction at read
    split at read
    · split at read
      · cases read
      · rename_i digits tail nonempty taken
        obtain ⟨rfl, all, -⟩ := spanDigits_eq_iff.mp taken
        cases read
        exact ⟨'.' :: digits, .inr ⟨digits, nonempty, all, rfl⟩, rfl⟩
    · cases read
      exact ⟨[], .inl rfl, rfl⟩
  · rintro ⟨_, rfl | ⟨digits, nonempty, all, rfl⟩, rfl⟩
    · refine ⟨0, ?_⟩
      unfold readFraction
      split
      · exact absurd rfl (ends '.' rfl).2
      · rfl
    · have taken := spanDigits_eq_iff.mpr ⟨rfl, all, fun c first => (ends c first).1⟩
      refine ⟨nanoseconds digits, ?_⟩
      obtain ⟨d, digits, rfl⟩ := List.exists_cons_of_ne_nil nonempty
      simp only [List.cons_append] at taken ⊢
      simp only [readFraction, taken]

theorem reads_time (ends : EndsFraction rest) :
    (∃ time, readTime text = some (time, rest)) ↔
      ∃ written, IsTime 60 written ∧ text = written ++ rest := by
  simp only [readTime, Option.bind_eq_bind, Option.bind_eq_some_iff, Prod.exists,
    readOneOf_eq_some_iff, Nat.succ_pos, readDigits_eq_some_iff, List.mem_singleton,
    exists_eq_left, Option.ite_none_right_eq_some, Option.some.injEq, Prod.mk.injEq,
    TimeOfDay.exists, Bool.and_eq_true, decide_eq_true_iff]
  constructor
  · rintro ⟨_, hour, _, ⟨-, rfl⟩, _, rfl, minute, _, ⟨-, rfl⟩, _, rfl, second, _, ⟨-, rfl⟩, n, _,
      read, given, -, rfl⟩
    obtain ⟨fraction, isFraction, rfl⟩ := (reads_fraction ends).mp ⟨n, read⟩
    exact ⟨_, ⟨_, second, fraction, ⟨hour, minute, given.1.1, given.1.2, rfl⟩, given.2, isFraction,
      rfl⟩, by simp⟩
  · rintro ⟨_, ⟨_, second, fraction, ⟨hour, minute, hours, minutes, rfl⟩, seconds, isFraction, rfl⟩,
      rfl⟩
    obtain ⟨n, read⟩ := (reads_fraction ends).mpr ⟨fraction, isFraction, rfl⟩
    exact ⟨_, hour, _, ⟨by omega, by simp⟩, _, rfl, minute, _, ⟨by omega, rfl⟩, _, rfl, second, _,
      ⟨by omega, rfl⟩, n, _, read, ⟨⟨hours, minutes⟩, seconds⟩, rfl, rfl⟩

theorem reads_offset :
    (∃ offset, readOffset ['-', '−'] text = some (offset, rest)) ↔
      ∃ written, IsOffset ['+', '-', '−'] written ∧ text = written ++ rest := by
  constructor
  · rintro ⟨offset, read⟩
    unfold readOffset at read
    split at read
    · cases read
    · rename_i sign tail
      split at read
      · rename_i universal
        cases read
        exact ⟨[sign], universal.imp (by rintro rfl; rfl) (by rintro rfl; exact .inl rfl), rfl⟩
      · obtain ⟨signed, read⟩ := Option.ite_none_right_eq_some.mp read
        simp only [Option.bind_eq_bind, Option.bind_eq_some_iff, Prod.exists,
          readOneOf_eq_some_iff, Nat.succ_pos, readDigits_eq_some_iff, List.mem_singleton,
          exists_eq_left, Option.ite_none_right_eq_some, Option.some.injEq, Prod.mk.injEq] at read
        obtain ⟨hour, _, ⟨-, rfl⟩, _, rfl, minute, _, ⟨-, rfl⟩, ⟨hours, minutes⟩, -, rfl⟩ := read
        exact ⟨_, .inr (.inr ⟨sign, by simpa using signed, _, ⟨hour, minute, hours, minutes, rfl⟩,
          rfl⟩), by simp⟩
  · rintro ⟨_, rfl | rfl | ⟨sign, listed, _, ⟨hour, minute, hours, minutes, rfl⟩, rfl⟩, rfl⟩
    · exact ⟨0, rfl⟩
    · exact ⟨0, rfl⟩
    · have letter : ¬ (sign = 'Z' ∨ sign = 'z') := by
        rintro (rfl | rfl) <;> exact absurd listed (by decide)
      have signed : sign = '+' ∨ ['-', '−'].contains sign = true := by simpa using listed
      simp only [List.cons_append, readOffset, if_neg letter, if_pos signed, Option.bind_eq_bind,
        Option.bind_eq_some_iff, Prod.exists, readOneOf_eq_some_iff, Nat.succ_pos,
        readDigits_eq_some_iff, List.mem_singleton, exists_eq_left, Option.ite_none_right_eq_some,
        Option.some.injEq, Prod.mk.injEq]
      exact ⟨_, hour, _, ⟨by omega, by simp⟩, _, rfl, minute, _, ⟨by omega, rfl⟩,
        ⟨hours, minutes⟩, rfl, rfl⟩

/-- Of the signs of an offset only those that occur in it matter. -/
theorem IsOffset.of_signs {signs others : List Char} (isOffset : IsOffset signs text)
    (signed : ∀ c ∈ text, c ∈ signs → c ∈ others) : IsOffset others text := by
  refine isOffset.imp id (Or.imp id ?_)
  rintro ⟨sign, listed, clock, isClock, rfl⟩
  exact ⟨sign, signed sign List.mem_cons_self listed, clock, isClock, rfl⟩

theorem IsOffset.endsFraction {signs : List Char} (isOffset : IsOffset signs text)
    (marks : (signs.all fun sign => !sign.isDigit && sign != '.') = true) : EndsFraction text := by
  rintro c first
  rcases isOffset with rfl | rfl | ⟨sign, listed, clock, -, rfl⟩
  · cases first
    decide
  · cases first
    decide
  · cases first
    simpa using List.all_eq_true.mp marks c listed

/-- A timestamp is a date, a separator, a time that may be a leap second, and an offset. -/
theorem isSome_timestamp?_iff {text : String} :
    (timestamp? text).isSome = true ↔
      ∃ date separator time offset, IsDate date ∧ separator ∈ ['T', 't', ' '] ∧ IsTime 60 time ∧
        IsOffset ['+', '-', '−'] offset ∧ text.toList = date ++ separator :: (time ++ offset) := by
  have read : (timestamp? text).isSome = true ↔
      ∃ timestamp, readTimestamp ['T', 't', ' '] ['-', '−'] text.toList = some (timestamp, []) := by
    unfold timestamp?
    split
    · rename_i timestamp read
      simp [read]
    · rename_i other
      simp only [Option.isSome_none, Bool.false_eq_true, false_iff]
      rintro ⟨timestamp, read⟩
      exact other timestamp read
  rw [read]
  simp only [readTimestamp, Option.bind_eq_bind, Option.bind_eq_some_iff, Prod.exists,
    readOneOf_eq_some_iff, Option.some.injEq, Prod.mk.injEq]
  constructor
  · rintro ⟨_, day, _, readDay, _, ⟨separator, listed, rfl⟩, clock, _, readClock, offset, _,
      readOffset, -, rfl⟩
    -- from the end on: what follows a fraction must be known to bound it
    obtain ⟨written, isOffset, rfl⟩ := reads_offset.mp ⟨offset, readOffset⟩
    rw [List.append_nil] at readClock
    obtain ⟨time, isTime, rfl⟩ :=
      (reads_time (isOffset.endsFraction (by decide))).mp ⟨clock, readClock⟩
    obtain ⟨date, isDate, same⟩ := reads_date.mp ⟨day, readDay⟩
    exact ⟨date, separator, time, written, isDate, listed, isTime, isOffset, same⟩
  · rintro ⟨date, separator, time, written, isDate, listed, isTime, isOffset, same⟩
    obtain ⟨day, readDay⟩ := reads_date.mpr ⟨date, isDate, same⟩
    obtain ⟨clock, readClock⟩ :=
      (reads_time (isOffset.endsFraction (by decide))).mpr ⟨time, isTime, rfl⟩
    obtain ⟨offset, readOffset⟩ := reads_offset.mpr ⟨written, isOffset, (List.append_nil _).symm⟩
    exact ⟨_, day, _, readDay, _, ⟨separator, listed, rfl⟩, clock, _, readClock, offset, _,
      readOffset, rfl, rfl⟩

/-! ## Lenient readers -/

/-- So many decimal digits, of whatever scripts. -/
def AreDigits (width : Nat) (digits : List Char) : Prop :=
  digits.length = width ∧ ∀ c ∈ digits, isDecimalDigit c = true

/-- The text does not go on with a digit of any script. -/
def EndsDigits (text : List Char) : Prop :=
  ∀ c ∈ text.head?, isDecimalDigit c = false

theorem areDigits_numeral (positive : 0 < width) (fits : n < 10 ^ width) :
    AreDigits width (numeral width n) :=
  ⟨length_numeral positive fits, fun _ member =>
    isDecimalDigit_of_isDigit (isDigit_of_mem_numeral member)⟩

/-- Where digits are asked for there is at least one, and it is no blank and no sign. -/
theorem AreDigits.exists_cons (areDigits : AreDigits (width + 1) digits) :
    ∃ c others, digits = c :: others ∧ isDecimalDigit c = true := by
  obtain ⟨c, others, rfl⟩ := List.exists_cons_of_length_eq_add_one areDigits.1
  exact ⟨c, others, rfl, areDigits.2 c List.mem_cons_self⟩

theorem endsDigits_nil : EndsDigits [] := by
  simp [EndsDigits]

theorem endsDigits_cons {c : Char} (noDigit : isDecimalDigit c = false) :
    EndsDigits (c :: rest) := by
  simpa [EndsDigits] using noDigit

theorem IsFraction.endsDigits (isFraction : IsFraction text) : EndsDigits text := by
  rcases isFraction with rfl | ⟨digits, -, -, rfl⟩
  · exact endsDigits_nil
  · exact endsDigits_cons (by decide)

theorem isBlank_eq_false {c : Char} (given : isDecimalDigit c = true) : isBlank c = false := by
  have check := of_isDecimalDigit (fun c => !isBlank c) (by decide +kernel) given
  simpa using check

theorem AreDigits.dropWhile_isBlank (areDigits : AreDigits (width + 1) digits) :
    (digits ++ tail).dropWhile isBlank = digits ++ tail := by
  obtain ⟨c, others, rfl, isDecimal⟩ := areDigits.exists_cons
  rw [List.cons_append, List.dropWhile_cons_of_neg]
  simp [isBlank_eq_false isDecimal]

/--
Where as many digits stand as a number may have, and none is left of them,
all of them have been read, and they are digits of ASCII.
-/
theorem readNumber_eq_some_iff (areDigits : AreDigits (width + 1) digits)
    (ends : EndsDigits rest) :
    readNumber (width + 1) (digits ++ tail) = some (n, rest) ↔
      rest = tail ∧ n < 10 ^ (width + 1) ∧ digits = numeral (width + 1) n := by
  obtain ⟨length, decimal⟩ := areDigits
  have nonempty : digits ≠ [] := List.ne_nil_of_length_eq_add_one length
  rw [← length, readNumber, List.take_left, List.drop_left]
  constructor
  · intro read
    split at read
    · cases read
    · rename_i taken left some taking
      obtain ⟨same, all, -⟩ := spanDigits_eq_iff.mp taking
      cases read
      cases left with
      | nil =>
          rw [List.append_nil] at same
          subst same
          exact ⟨rfl, decimalValue_lt, (numeral_decimalValue nonempty all).symm⟩
      | cons c left =>
          -- a digit that is left would be the first character behind the number
          have isDecimal := decimal c (by simp [same])
          rw [ends c rfl] at isDecimal
          cases isDecimal
  · rintro ⟨rfl, -, same⟩
    have all : ∀ c ∈ digits, c.isDigit = true := fun c member =>
      isDigit_of_mem_numeral (same ▸ member)
    have value : decimalValue digits = n := by rw [same, decimalValue_numeral]
    have taking : spanDigits digits = (digits, []) :=
      spanDigits_eq_iff.mpr ⟨(List.append_nil digits).symm, all, by simp⟩
    obtain ⟨d, others, rfl⟩ := List.exists_cons_of_ne_nil nonempty
    simp only [taking, value, List.nil_append]

theorem readShort_eq_some_iff (areDigits : AreDigits 2 digits) (ends : EndsDigits rest) :
    readShort (digits ++ tail) = some (n, rest) ↔
      rest = tail ∧ n < 10 ^ 2 ∧ digits = numeral 2 n := by
  rw [readShort, areDigits.dropWhile_isBlank, readNumber_eq_some_iff areDigits ends]

theorem readYear_eq_some_iff {year : Int} (areDigits : AreDigits 4 digits)
    (ends : EndsDigits rest) :
    readYear (digits ++ tail) = some (year, rest) ↔
      ∃ n : Nat, (rest = tail ∧ n < 10 ^ 4 ∧ digits = numeral 4 n) ∧ year = n := by
  have unsigned {sign : Char} {others : List Char} (noDigit : isDecimalDigit sign = false) :
      digits ++ tail ≠ sign :: others := by
    obtain ⟨c, digits, rfl, isDecimal⟩ := areDigits.exists_cons
    intro same
    cases same
    exact Bool.false_ne_true (noDigit.symm.trans isDecimal)
  rw [readYear, areDigits.dropWhile_isBlank]
  split
  · rename_i same
    exact absurd same (unsigned (by decide))
  · rename_i same
    exact absurd same (unsigned (by decide))
  · simp only [Option.map_eq_some_iff, Prod.exists, Prod.mk.injEq]
    constructor
    · rintro ⟨n, _, read, rfl, rfl⟩
      exact ⟨n, (readNumber_eq_some_iff areDigits ends).mp read, rfl⟩
    · rintro ⟨n, given, rfl⟩
      exact ⟨n, rest, (readNumber_eq_some_iff areDigits ends).mpr given, rfl, rfl⟩

/-- Digits joined by hyphens are read as a day exactly if they name one in digits of ASCII. -/
theorem isSome_date?_iff {text : String} {years months days : List Char}
    (same : text.toList = years ++ '-' :: (months ++ '-' :: days))
    (areYears : AreDigits 4 years) (areMonths : AreDigits 2 months) (areDays : AreDigits 2 days) :
    (date? text).isSome = true ↔
      ∃ year month day : Nat, year < 10 ^ 4 ∧ (⟨year, month, day⟩ : Date).exists = true ∧
        years = numeral 4 year ∧ months = numeral 2 month ∧ days = numeral 2 day := by
  have hyphen {others : List Char} : EndsDigits ('-' :: others) := endsDigits_cons (by decide)
  simp only [Option.isSome_iff_exists, date?, same, Option.bind_eq_bind, Option.bind_eq_some_iff,
    Prod.exists, readOneOf_eq_some_iff, List.mem_singleton, exists_eq_left,
    Option.ite_none_right_eq_some, Option.some.injEq, Bool.and_eq_true, List.isEmpty_iff]
  constructor
  · rintro ⟨_, year, _, readYears, afterYears, rfl, month, _, readMonths, afterMonths, rfl, day, _,
      readDays, ⟨given, rfl⟩, rfl⟩
    -- a hyphen follows each number, so none of its digits has been left over
    obtain ⟨year, ⟨tails, small, rfl⟩, rfl⟩ := (readYear_eq_some_iff areYears hyphen).mp readYears
    cases tails
    obtain ⟨tails, -, rfl⟩ := (readShort_eq_some_iff areMonths hyphen).mp readMonths
    cases tails
    rw [← List.append_nil days] at readDays
    obtain ⟨-, -, rfl⟩ := (readShort_eq_some_iff areDays endsDigits_nil).mp readDays
    exact ⟨year, month, day, small, given, rfl, rfl, rfl⟩
  · rintro ⟨year, month, day, small, given, rfl, rfl, rfl⟩
    have fits := lt_of_exists given
    refine ⟨_, year, _, (readYear_eq_some_iff areYears hyphen).mpr ⟨year, ⟨rfl, small, rfl⟩, rfl⟩,
      _, rfl, month, _, (readShort_eq_some_iff areMonths hyphen).mpr ⟨rfl, fits.1, rfl⟩, _, rfl,
      day, [], ?_, ⟨given, rfl⟩, rfl⟩
    rw [← List.append_nil (numeral 2 day)]
    exact (readShort_eq_some_iff areDays endsDigits_nil).mpr ⟨rfl, fits.2, rfl⟩

/-- Digits joined by colons are read as a time exactly if they give one in digits of ASCII. -/
theorem isSome_timeOfDay?_iff {text : String} {hours minutes seconds fraction : List Char}
    (same : text.toList = hours ++ ':' :: (minutes ++ ':' :: (seconds ++ fraction)))
    (areHours : AreDigits 2 hours) (areMinutes : AreDigits 2 minutes)
    (areSeconds : AreDigits 2 seconds) :
    (timeOfDay? text).isSome = true ↔
      ∃ hour minute second, hour ≤ 23 ∧ minute ≤ 59 ∧ second ≤ 60 ∧ IsFraction fraction ∧
        hours = numeral 2 hour ∧ minutes = numeral 2 minute ∧ seconds = numeral 2 second := by
  have colon {others : List Char} : EndsDigits (':' :: others) := endsDigits_cons (by decide)
  have ends : EndsFraction [] := by simp [EndsFraction]
  simp only [Option.isSome_iff_exists, timeOfDay?, same, Option.bind_eq_bind,
    Option.bind_eq_some_iff, Prod.exists, readOneOf_eq_some_iff, List.mem_singleton,
    exists_eq_left, Option.ite_none_right_eq_some, Option.some.injEq, Bool.and_eq_true,
    List.isEmpty_iff, TimeOfDay.exists, decide_eq_true_iff]
  constructor
  · rintro ⟨_, hour, _, readHours, afterHours, rfl, minute, _, readMinutes, afterMinutes, rfl,
      second, afterSeconds, readSeconds, n, _, read, ⟨given, rfl⟩, rfl⟩
    obtain ⟨written, isFraction, rfl⟩ := (reads_fraction ends).mp ⟨n, read⟩
    rw [List.append_nil] at readSeconds
    obtain ⟨tails, -, rfl⟩ := (readShort_eq_some_iff areHours colon).mp readHours
    cases tails
    obtain ⟨tails, -, rfl⟩ := (readShort_eq_some_iff areMinutes colon).mp readMinutes
    cases tails
    obtain ⟨rfl, -, rfl⟩ := (readShort_eq_some_iff areSeconds isFraction.endsDigits).mp readSeconds
    exact ⟨hour, minute, second, given.1.1, given.1.2, given.2, isFraction, rfl, rfl, rfl⟩
  · rintro ⟨hour, minute, second, hours, minutes, seconds, isFraction, rfl, rfl, rfl⟩
    obtain ⟨n, read⟩ := (reads_fraction ends).mpr ⟨fraction, isFraction, (List.append_nil _).symm⟩
    exact ⟨_, hour, _, (readShort_eq_some_iff areHours colon).mpr ⟨rfl, by omega, rfl⟩, _, rfl,
      minute, _, (readShort_eq_some_iff areMinutes colon).mpr ⟨rfl, by omega, rfl⟩, _, rfl,
      second, _, (readShort_eq_some_iff areSeconds isFraction.endsDigits).mpr ⟨rfl, by omega, rfl⟩,
      n, _, read, ⟨⟨⟨hours, minutes⟩, seconds⟩, rfl⟩, rfl⟩

end ToolGate.Calendar
