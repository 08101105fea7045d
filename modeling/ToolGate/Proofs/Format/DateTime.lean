import ToolGate.Format.DateTime
import ToolGate.Proofs.Calendar
import ToolGate.Proofs.Format.Form

/-!
# Which texts are dates and times

Form and calendar disagree on digits, lengths of months and leap seconds, on
blanks and signs.  What both admit is written in digits of ASCII: days that
exist, times up to the last second of a minute, and both together with a
separator and an offset, where a minute may have a leap second.
-/

namespace ToolGate.Format.DateTime

open Text Calendar

variable {text rest : List Char} {width n : Nat}

/-! ## Forms -/

theorem mem_digits_iff : text ∈ (digit.times width).language ↔ AreDigits width text :=
  Form.mem_times_one_iff

theorem mem_dateForm_iff :
    text ∈ dateForm.language ↔
      ∃ years months days, AreDigits 4 years ∧ AreDigits 2 months ∧ AreDigits 2 days ∧
        text = years ++ '-' :: (months ++ '-' :: days) := by
  simp only [dateForm, Form.mem_sequence_cons_iff, Form.mem_sequence_nil_iff, mem_digits_iff,
    Form.mem_char_iff, exists_eq_left, List.append_nil, List.singleton_append]
  constructor
  · rintro ⟨years, areYears, _, ⟨_, ⟨months, areMonths, _, ⟨_, ⟨days, areDays, rfl⟩, rfl⟩, rfl⟩,
      rfl⟩, rfl⟩
    exact ⟨years, months, days, areYears, areMonths, areDays, rfl⟩
  · rintro ⟨years, months, days, areYears, areMonths, areDays, rfl⟩
    exact ⟨years, areYears, _, ⟨_, ⟨months, areMonths, _, ⟨_, ⟨days, areDays, rfl⟩, rfl⟩, rfl⟩,
      rfl⟩, rfl⟩

theorem mem_timeForm_iff :
    text ∈ timeForm.language ↔
      ∃ hours ∈ hourForm.language, ∃ minutes ∈ sixtyForm.language, ∃ seconds ∈ sixtyForm.language,
        ∃ fraction ∈ fractionForm.language,
          text = hours ++ ':' :: (minutes ++ ':' :: (seconds ++ fraction)) := by
  simp only [timeForm, Form.mem_sequence_cons_iff, Form.mem_sequence_nil_iff, Form.mem_char_iff,
    exists_eq_left, List.append_nil, List.singleton_append]
  constructor
  · rintro ⟨hours, isHours, _, ⟨_, ⟨minutes, isMinutes, _, ⟨_, ⟨seconds, isSeconds, _,
      ⟨fraction, isFraction, rfl⟩, rfl⟩, rfl⟩, rfl⟩, rfl⟩, rfl⟩
    exact ⟨hours, isHours, minutes, isMinutes, seconds, isSeconds, fraction, isFraction, rfl⟩
  · rintro ⟨hours, isHours, minutes, isMinutes, seconds, isSeconds, fraction, isFraction, rfl⟩
    exact ⟨hours, isHours, _, ⟨_, ⟨minutes, isMinutes, _, ⟨_, ⟨seconds, isSeconds, _,
      ⟨fraction, isFraction, rfl⟩, rfl⟩, rfl⟩, rfl⟩, rfl⟩, rfl⟩

theorem isDecimalDigit_of_range {c last : Char} (bound : last ≤ '9') (given : '0' ≤ c ∧ c ≤ last) :
    isDecimalDigit c = true := by
  have above : c ≤ '9' := Char.le_trans given.2 bound
  exact isDecimalDigit_of_isDigit (by simpa [Char.isDigit] using ⟨given.1, above⟩)

theorem areDigits_of_mem_sixtyForm (member : text ∈ sixtyForm.language) : AreDigits 2 text := by
  simp only [sixtyForm, digit, Form.mem_sequence_cons_iff, Form.mem_sequence_nil_iff,
    Form.mem_range_iff, Form.mem_one_iff] at member
  obtain ⟨_, ⟨c, range, rfl⟩, _, ⟨_, ⟨d, decimal, rfl⟩, _, rfl, rfl⟩, rfl⟩ := member
  exact ⟨rfl, by simp [isDecimalDigit_of_range (by decide) range, decimal]⟩

theorem areDigits_of_mem_hourForm (member : text ∈ hourForm.language) : AreDigits 2 text := by
  simp only [hourForm, digit, Form.mem_either_iff, Form.mem_sequence_cons_iff,
    Form.mem_sequence_nil_iff, Form.mem_oneOf_iff, Form.mem_char_iff, Form.mem_range_iff,
    Form.mem_one_iff] at member
  rcases member with ⟨_, ⟨c, listed, rfl⟩, _, ⟨_, ⟨d, decimal, rfl⟩, _, rfl, rfl⟩, rfl⟩ |
    ⟨_, rfl, _, ⟨_, ⟨d, range, rfl⟩, _, rfl, rfl⟩, rfl⟩
  · have early : ['0', '1'].all isDecimalDigit = true := by decide
    exact ⟨rfl, by simp [List.all_eq_true.mp early c listed, decimal]⟩
  · have two : isDecimalDigit '2' = true := by decide
    exact ⟨rfl, by simp [two, isDecimalDigit_of_range (by decide) range]⟩

/-- A form of two digits admits the numerals up to a last one if it does so one by one. -/
theorem numeral_mem_iff {form : Form} {last : Nat} (fits : n < 10 ^ 2)
    (check : ((List.range 100).all fun n =>
      form.admits (numeral 2 n) == decide (n ≤ last)) = true) :
    numeral 2 n ∈ form.language ↔ n ≤ last := by
  have same := List.all_eq_true.mp check n (List.mem_range.mpr fits)
  rw [← Form.admits_iff, beq_iff_eq.mp same, decide_eq_true_iff]

theorem numeral_mem_hourForm_iff (fits : n < 10 ^ 2) :
    numeral 2 n ∈ hourForm.language ↔ n ≤ 23 :=
  numeral_mem_iff fits (by decide +kernel)

theorem numeral_mem_sixtyForm_iff (fits : n < 10 ^ 2) :
    numeral 2 n ∈ sixtyForm.language ↔ n ≤ 59 :=
  numeral_mem_iff fits (by decide +kernel)

theorem fraction_mem (isFraction : IsFraction text) : text ∈ fractionForm.language := by
  rw [fractionForm, Form.mem_optional_iff]
  rcases isFraction with rfl | ⟨digits, nonempty, all, rfl⟩
  · exact .inr rfl
  · have written := Form.mem_atLeast_one_iff.mpr
      ⟨List.length_pos_iff.mpr nonempty, fun c member => isDecimalDigit_of_isDigit (all c member)⟩
    exact .inl (Form.cons_mem_sequence (by decide) (Form.mem_sequence_singleton written))

theorem date_mem (isDate : IsDate text) : text ∈ dateForm.language := by
  obtain ⟨year, month, day, small, given, rfl⟩ := isDate
  have fits := lt_of_exists given
  exact mem_dateForm_iff.mpr ⟨_, _, _, areDigits_numeral (by decide) small,
    areDigits_numeral (by decide) fits.1, areDigits_numeral (by decide) fits.2, rfl⟩

theorem offset_mem (isOffset : IsOffset ['+', '-'] text) : text ∈ offsetForm.language := by
  rw [offsetForm, Form.mem_either_iff, Form.mem_oneOf_iff]
  rcases isOffset with rfl | rfl | ⟨sign, listed, _, ⟨hour, minute, hours, minutes, rfl⟩, rfl⟩
  · exact .inl ⟨'Z', by decide, rfl⟩
  · exact .inl ⟨'z', by decide, rfl⟩
  · have areHours : AreDigits 2 (numeral 2 hour) := areDigits_numeral (by decide) (by omega)
    have areMinutes : AreDigits 2 (numeral 2 minute) := areDigits_numeral (by decide) (by omega)
    exact .inr (Form.cons_mem_sequence (List.contains_iff_mem.mpr listed)
      (Form.append_mem_sequence (mem_digits_iff.mpr areHours)
        (Form.cons_mem_sequence (by decide)
          (Form.mem_sequence_singleton (mem_digits_iff.mpr areMinutes)))))

/-- The form of both together leaves the second to the calendar. -/
theorem dateTime_mem {date time offset : List Char} {separator : Char} (isDate : IsDate date)
    (listed : separator ∈ ['T', 't']) (isTime : IsTime 60 time)
    (isOffset : IsOffset ['+', '-'] offset) :
    date ++ separator :: (time ++ offset) ∈ dateTimeForm.language := by
  obtain ⟨_, second, fraction, ⟨hour, minute, hours, minutes, rfl⟩, seconds, isFraction, rfl⟩ :=
    isTime
  have areHours : AreDigits 2 (numeral 2 hour) := areDigits_numeral (by decide) (by omega)
  have areMinutes : AreDigits 2 (numeral 2 minute) := areDigits_numeral (by decide) (by omega)
  have areSeconds : AreDigits 2 (numeral 2 second) := areDigits_numeral (by decide) (by omega)
  have behindSeconds : fraction ++ offset ∈ (Form.sequence [fractionForm, offsetForm]).language :=
    Form.append_mem_sequence (fraction_mem isFraction)
      (Form.mem_sequence_singleton (offset_mem isOffset))
  simp only [List.append_assoc, List.cons_append]
  exact Form.append_mem_sequence (date_mem isDate)
    (Form.cons_mem_sequence (List.contains_iff_mem.mpr listed)
      (Form.append_mem_sequence (mem_digits_iff.mpr areHours)
        (Form.cons_mem_sequence (by decide)
          (Form.append_mem_sequence (mem_digits_iff.mpr areMinutes)
            (Form.cons_mem_sequence (by decide)
              (Form.append_mem_sequence (mem_digits_iff.mpr areSeconds) behindSeconds))))))

/-! ## Dates and times -/

/-- A text is accepted as a date exactly if it names a day that exists. -/
theorem acceptsDate_iff {text : String} : acceptsDate text = true ↔ IsDate text.toList := by
  rw [acceptsDate, Bool.and_eq_true, Form.admits_iff, mem_dateForm_iff]
  constructor
  · rintro ⟨⟨years, months, days, areYears, areMonths, areDays, same⟩, read⟩
    obtain ⟨year, month, day, small, given, rfl, rfl, rfl⟩ :=
      (isSome_date?_iff same areYears areMonths areDays).mp read
    exact ⟨year, month, day, small, given, same⟩
  · rintro ⟨year, month, day, small, given, same⟩
    have fits := lt_of_exists given
    have areYears := areDigits_numeral (by decide : 0 < 4) small
    have areMonths := areDigits_numeral (by decide : 0 < 2) fits.1
    have areDays := areDigits_numeral (by decide : 0 < 2) fits.2
    exact ⟨⟨_, _, _, areYears, areMonths, areDays, same⟩,
      (isSome_date?_iff same areYears areMonths areDays).mpr
        ⟨year, month, day, small, given, rfl, rfl, rfl⟩⟩

/-- A text is accepted as a time exactly if it gives one, and its second is none of a leap. -/
theorem acceptsTime_iff {text : String} : acceptsTime text = true ↔ IsTime 59 text.toList := by
  rw [acceptsTime, Bool.and_eq_true, Form.admits_iff, mem_timeForm_iff]
  constructor
  · rintro ⟨⟨hours, isHours, minutes, isMinutes, seconds, isSeconds, fraction, -, same⟩, read⟩
    obtain ⟨hour, minute, second, lastHour, lastMinute, lastSecond, isFraction, rfl, rfl, rfl⟩ :=
      (isSome_timeOfDay?_iff same (areDigits_of_mem_hourForm isHours)
        (areDigits_of_mem_sixtyForm isMinutes) (areDigits_of_mem_sixtyForm isSeconds)).mp read
    exact ⟨_, second, fraction, ⟨hour, minute, lastHour, lastMinute, rfl⟩,
      (numeral_mem_sixtyForm_iff (by omega)).mp isSeconds, isFraction, by simp [same]⟩
  · rintro ⟨_, second, fraction, ⟨hour, minute, lastHour, lastMinute, rfl⟩, lastSecond, isFraction,
      same⟩
    rw [List.append_assoc, List.cons_append] at same
    have isHours := (numeral_mem_hourForm_iff (by omega)).mpr lastHour
    have isMinutes := (numeral_mem_sixtyForm_iff (by omega)).mpr lastMinute
    have isSeconds := (numeral_mem_sixtyForm_iff (by omega)).mpr lastSecond
    exact ⟨⟨_, isHours, _, isMinutes, _, isSeconds, fraction, fraction_mem isFraction, same⟩,
      (isSome_timeOfDay?_iff same (areDigits_of_mem_hourForm isHours)
        (areDigits_of_mem_sixtyForm isMinutes) (areDigits_of_mem_sixtyForm isSeconds)).mpr
        ⟨hour, minute, second, lastHour, lastMinute, by omega, isFraction, rfl, rfl, rfl⟩⟩

/--
A text is accepted as a date and a time exactly if it is made up of both, a
separator and an offset.
-/
theorem acceptsDateTime_iff {text : String} :
    acceptsDateTime text = true ↔
      ∃ date separator time offset, IsDate date ∧ separator ∈ ['T', 't'] ∧ IsTime 60 time ∧
        IsOffset ['+', '-'] offset ∧ text.toList = date ++ separator :: (time ++ offset) := by
  rw [acceptsDateTime, Bool.and_eq_true, Form.admits_iff, isSome_timestamp?_iff]
  constructor
  · rintro ⟨member, date, separator, time, offset, isDate, listed, isTime, isOffset, same⟩
    -- the calendar reads a blank and a typographic sign too, but the form mentions neither
    have blank : ' ' ∉ text.toList := Form.notMem_of_mem member (by decide)
    have sign : '−' ∉ text.toList := Form.notMem_of_mem member (by decide)
    rw [same] at blank sign
    refine ⟨date, separator, time, offset, isDate, ?_, isTime, isOffset.of_signs ?_, same⟩
    · have other : separator ≠ ' ' := by
        rintro rfl
        exact blank (by simp)
      simpa [other] using listed
    · intro c occurs listed
      have other : c ≠ '−' := by
        rintro rfl
        exact sign (by simp [occurs])
      simpa [other] using listed
  · rintro ⟨date, separator, time, offset, isDate, listed, isTime, isOffset, same⟩
    rw [same]
    exact ⟨dateTime_mem isDate listed isTime isOffset, date, separator, time, offset, isDate,
      List.mem_append_left [' '] listed, isTime,
      isOffset.of_signs fun _ _ signed => List.mem_append_left ['−'] signed, rfl⟩

end ToolGate.Format.DateTime
