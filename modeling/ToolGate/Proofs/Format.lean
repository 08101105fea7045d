import ToolGate.Format
import ToolGate.Proofs.Format.DateTime
import ToolGate.Proofs.Format.Email
import ToolGate.Proofs.Format.IpAddress

/-!
# Formats and their grammars

Formats are decided by a form and a reader that know nothing of each other.
Here each is given by one grammar: days are those of the standard library's
calendar, numbers are written as they usually are, and a date with a time is
accepted exactly if it is put together from an accepted date, an accepted
time and an offset, leap seconds apart.
-/

namespace ToolGate

open Text Calendar Format

namespace StringFormat

/-- The seconds are 60, and with 59 in their place the text is a time. -/
def HasLeapSecond (time : String) : Prop :=
  ∃ clock fraction, clock.length = 5 ∧ time = clock ++ ":60" ++ fraction ∧
    StringFormat.time.accepts (clock ++ ":59" ++ fraction) = true

/-- A time is accepted, or it has a leap second. -/
theorem isTime_iff {time : String} :
    IsTime 60 time.toList ↔ StringFormat.time.accepts time = true ∨ HasLeapSecond time := by
  have accepted (time : String) : StringFormat.time.accepts time = true ↔ IsTime 59 time.toList :=
    DateTime.acceptsTime_iff
  have sixty : ":60".toList = ':' :: numeral 2 60 := by decide
  have fiftyNine : ":59".toList = ':' :: numeral 2 59 := by decide
  simp only [HasLeapSecond, accepted, String.toList_append, fiftyNine, List.append_assoc,
    List.cons_append]
  constructor
  · rintro ⟨clock, second, fraction, isClock, seconds, isFraction, same⟩
    rcases Nat.lt_or_ge second 60 with early | late
    · exact .inl ⟨clock, second, fraction, isClock, by omega, isFraction, same⟩
    · obtain rfl : second = 60 := by omega
      refine .inr ⟨String.ofList clock, String.ofList fraction, by simpa using isClock.length, ?_,
        ?_⟩
      · rw [← String.toList_inj, same]
        simp [sixty]
      · simp only [String.toList_ofList]
        exact (isTime_append_iff isClock.length le_rfl (by decide)).mpr ⟨isClock, isFraction⟩
  · rintro (⟨clock, second, fraction, isClock, seconds, isFraction, same⟩ |
      ⟨clock, fraction, length, rfl, given⟩)
    · exact ⟨clock, second, fraction, isClock, by omega, isFraction, same⟩
    · simp only [String.toList_append, sixty, List.append_assoc, List.cons_append]
      exact (isTime_append_iff length le_rfl (by decide)).mpr
        ((isTime_append_iff length le_rfl (by decide)).mp given)

/--
A date is a day of the calendar with a year of four digits.  A text is a date
with a time exactly if it is made up of a date, the letter `T`, a time that
may have a leap second, and an offset.
-/
theorem date_and_time_formats_agree (text : String) :
    (StringFormat.date.accepts text = true ↔
      ∃ day : Std.Time.PlainDate, (0 ≤ day.year.toInt ∧ day.year.toInt ≤ 9999) ∧
        text.toList = dayText day) ∧
    (StringFormat.dateTime.accepts text = true ↔
      ∃ date separator time offset, text = date ++ separator ++ time ++ offset ∧
        (date.length = 10 ∧ StringFormat.date.accepts date = true) ∧
        (separator = "T" ∨ separator = "t") ∧
        (StringFormat.time.accepts time = true ∨ HasLeapSecond time) ∧
        IsOffset ['+', '-'] offset.toList) := by
  have dates (text : String) : StringFormat.date.accepts text = true ↔ IsDate text.toList :=
    DateTime.acceptsDate_iff
  simp only [dates, ← isDate_iff, ← isTime_iff, true_and, iff_self]
  refine DateTime.acceptsDateTime_iff.trans ?_
  constructor
  · rintro ⟨date, separator, time, offset, isDate, listed, isTime, isOffset, same⟩
    refine ⟨String.ofList date, String.singleton separator, String.ofList time,
      String.ofList offset, ?_, ⟨by simpa using isDate.length, by simpa using isDate⟩, ?_,
      by simpa using isTime, by simpa using isOffset⟩
    · rw [← String.toList_inj, same]
      simp
    · simpa [← String.toList_inj] using listed
  · rintro ⟨date, separator, time, offset, rfl, ⟨-, isDate⟩, listed, isTime, isOffset⟩
    rcases listed with rfl | rfl
    · exact ⟨_, 'T', _, _, isDate, by decide, isTime, isOffset, by simp⟩
    · exact ⟨_, 't', _, _, isDate, by decide, isTime, isOffset, by simp⟩

/--
An email address is one by its grammar, and an address of four bytes is four
numbers up to 255 joined by points.  No text is an address of both lengths,
so those of either are told apart.
-/
theorem address_formats_accept_their_grammars (text : String) :
    (StringFormat.email.accepts text = true ↔
      ∃ name domain, Email.IsAddress text.toList name domain) ∧
    (StringFormat.ipv4.accepts text = true ↔
      ∃ numbers : List Nat, (numbers.length = 4 ∧ ∀ n ∈ numbers, n ≤ 255) ∧
        text = ".".intercalate (numbers.map toString)) ∧
    (StringFormat.ip.accepts text = true ↔
      StringFormat.ipv4.accepts text = true ∨ StringFormat.ipv6.accepts text = true) ∧
    ¬ (StringFormat.ipv4.accepts text = true ∧ StringFormat.ipv6.accepts text = true) := by
  refine ⟨Email.accepts_iff, IpAddress.acceptsVersion4_iff.trans ?_, Bool.or_eq_true _ _ ▸ Iff.rfl,
    fun both => IpAddress.not_acceptsVersion6_of_acceptsVersion4 both.1 both.2⟩
  simp only [IpAddress.joined_eq_toList, String.toList_inj, IpAddress.Fits]

end StringFormat

end ToolGate
