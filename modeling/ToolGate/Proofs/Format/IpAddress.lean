import ToolGate.Format.IpAddress
import ToolGate.Proofs.Format.Form
import ToolGate.Proofs.Text.Digit

/-!
# Addresses of four bytes

The reader of an address and its form disagree on what a digit is, and the
form bounds numbers by their digits while the reader bounds their values.
Both admit the numbers up to 255 as they are usually written.
-/

namespace ToolGate.Format.IpAddress

open Text

variable {n count : Nat} {bytes : List Nat} {text rest : List Char}

/-- Numbers joined by points. -/
def joined (bytes : List Nat) : List Char :=
  ['.'].intercalate (bytes.map (Nat.toDigits 10))

@[simp]
theorem joined_singleton : joined [n] = Nat.toDigits 10 n :=
  List.intercalate_singleton

theorem joined_cons (nonempty : bytes ≠ []) :
    joined (n :: bytes) = Nat.toDigits 10 n ++ '.' :: joined bytes := by
  rw [joined, List.map_cons, List.intercalate_cons_of_ne_nil (by simpa using nonempty)]
  simp [joined]

theorem joined_eq_toList :
    joined bytes = (".".intercalate (bytes.map toString)).toList := by
  have point : ".".toList = ['.'] := by decide
  have digits : String.toList ∘ toString = Nat.toDigits 10 := by
    funext n
    rw [Function.comp_apply, Nat.toString_eq_ofList_toDigits, String.toList_ofList]
  rw [String.toList_intercalate, List.map_map, digits, point, joined]

/-! ## Reading -/

/-- A byte is read from its digits, as long as no further digit follows. -/
theorem readByte_eq_some_iff :
    readByte text = some (n, rest) ↔
      n ≤ 255 ∧ text = Nat.toDigits 10 n ++ rest ∧ ∀ c ∈ rest.head?, c.isDigit = false := by
  constructor
  · intro read
    unfold readByte at read
    split at read
    · cases read
    · rename_i digits tail nonempty taken
      obtain ⟨rfl, all, stops⟩ := spanDigits_eq_iff.mp taken
      obtain ⟨⟨-, bound, shortest⟩, same⟩ := Option.ite_none_right_eq_some.mp read
      cases same
      exact ⟨bound, by rw [toDigits_decimalValue nonempty all shortest], stops⟩
  · rintro ⟨bound, rfl, stops⟩
    have taken := spanDigits_eq_iff.mpr ⟨rfl, fun _ => isDigit_of_mem_toDigits (n := n), stops⟩
    have short : (Nat.toDigits 10 n).length ≤ 3 :=
      (Nat.length_toDigits_le_iff (by decide) (by decide)).mpr (by omega)
    have shortest : (Nat.toDigits 10 n).head? ≠ some '0' ∨ (Nat.toDigits 10 n).length = 1 := by
      rcases Nat.eq_zero_or_pos n with rfl | positive
      · exact .inr rfl
      · exact .inl (head?_toDigits positive)
    unfold readByte
    rw [taken]
    split
    · rename_i empty
      exact absurd (congrArg Prod.fst empty) Nat.toDigits_ne_nil
    · rename_i same
      cases same
      simp [short, bound, shortest]

theorem readBytes_one : readBytes 1 text = some (bytes, rest) ↔
    ∃ n, readByte text = some (n, rest) ∧ [n] = bytes := by
  simp [readBytes]

theorem readBytes_more : readBytes (count + 2) text = some (bytes, rest) ↔
    ∃ n tail, readByte text = some (n, '.' :: tail) ∧
      ∃ others, readBytes (count + 1) tail = some (others, rest) ∧ n :: others = bytes := by
  rw [readBytes]
  · split
    · rename_i read
      simp [read]
    · rename_i other
      simp only [reduceCtorEq, false_iff]
      rintro ⟨n, tail, read, -⟩
      exact other n tail read
  · simp

/-- Bytes are read from the numbers joined by points. -/
theorem readBytes_eq_some_iff :
    readBytes (count + 1) text = some (bytes, rest) ↔
      (bytes.length = count + 1 ∧ ∀ n ∈ bytes, n ≤ 255) ∧ text = joined bytes ++ rest ∧
        ∀ c ∈ rest.head?, c.isDigit = false := by
  induction count generalizing text bytes with
  | zero =>
      simp only [Nat.zero_add, readBytes_one, readByte_eq_some_iff]
      constructor
      · rintro ⟨n, ⟨bound, rfl, stops⟩, rfl⟩
        simpa [bound] using stops
      · rintro ⟨⟨single, bounds⟩, rfl, stops⟩
        obtain ⟨n, rfl⟩ := List.length_eq_one_iff.mp single
        exact ⟨n, ⟨bounds n (List.mem_singleton_self n), by rw [joined_singleton], stops⟩, rfl⟩
  | succ count ih =>
      simp only [readBytes_more, readByte_eq_some_iff, ih]
      constructor
      · rintro ⟨n, tail, ⟨bound, rfl, -⟩, others, ⟨⟨length, bounds⟩, rfl, stops⟩, rfl⟩
        have nonempty : others ≠ [] := List.ne_nil_of_length_eq_add_one length
        exact ⟨⟨congrArg Nat.succ length, List.forall_mem_cons.mpr ⟨bound, bounds⟩⟩,
          by simp [joined_cons nonempty], stops⟩
      · rintro ⟨⟨length, bounds⟩, rfl, stops⟩
        obtain ⟨n, others, rfl⟩ := List.exists_cons_of_length_eq_add_one length
        have length := Nat.succ.inj length
        have nonempty : others ≠ [] := List.ne_nil_of_length_eq_add_one length
        rw [List.forall_mem_cons] at bounds
        exact ⟨n, joined others ++ rest, ⟨bounds.1, by simp [joined_cons nonempty], by simp⟩,
          others, ⟨⟨length, bounds.2⟩, rfl, stops⟩, rfl⟩

/-- Four numbers up to 255 make up an address. -/
def Fits (bytes : List Nat) : Prop :=
  bytes.length = 4 ∧ ∀ n ∈ bytes, n ≤ 255

theorem version4?_eq_some_iff :
    version4? text = some bytes ↔ Fits bytes ∧ text = joined bytes := by
  have read : version4? text = some bytes ↔ readBytes 4 text = some (bytes, []) := by
    unfold version4?
    split
    · rename_i read
      simp [read]
    · rename_i other
      simp only [reduceCtorEq, false_iff]
      exact other bytes
  rw [read, readBytes_eq_some_iff]
  simp [Fits]

/-! ## Form -/

/-- The number up to 255 is written as the form of a byte asks for. -/
theorem toDigits_mem_byte (bound : n ≤ 255) : Nat.toDigits 10 n ∈ byte.language := by
  have all : (List.range 256).all (fun n => byte.admits (Nat.toDigits 10 n)) = true := by
    decide +kernel
  rw [← Form.admits_iff]
  exact List.all_eq_true.mp all n (List.mem_range.mpr (Nat.lt_succ_of_le bound))

theorem joined_mem_language (length : bytes.length = count + 1) (bounds : ∀ n ∈ bytes, n ≤ 255) :
    joined bytes ∈
      (Form.sequence [(Form.sequence [byte, .char '.']).times count, byte]).language := by
  induction count generalizing bytes with
  | zero =>
      obtain ⟨n, rfl⟩ := List.length_eq_one_iff.mp length
      rw [joined_singleton, ← List.nil_append (Nat.toDigits 10 n)]
      have digits := toDigits_mem_byte (bounds n (List.mem_singleton_self n))
      exact Form.append_mem_sequence (Form.mem_empty_iff.mpr rfl)
        (Form.mem_sequence_singleton digits)
  | succ count ih =>
      obtain ⟨n, others, rfl⟩ := List.exists_cons_of_length_eq_add_one length
      have length := Nat.succ.inj length
      rw [List.forall_mem_cons] at bounds
      obtain ⟨head, numbers, tail, last, same⟩ :=
        Form.mem_sequence_cons_iff.mp (ih length bounds.2)
      have number : Nat.toDigits 10 n ++ ['.'] ∈ (Form.sequence [byte, .char '.']).language :=
        Form.append_mem_sequence (toDigits_mem_byte bounds.1)
          (Form.mem_sequence_singleton (Form.mem_char_iff.mpr rfl))
      have regrouped : joined (n :: others) = ((Nat.toDigits 10 n ++ ['.']) ++ head) ++ tail := by
        rw [joined_cons (List.ne_nil_of_length_eq_add_one length), ← same]
        simp
      rw [regrouped]
      exact Form.append_mem_sequence (Form.mem_join_iff.mpr ⟨_, number, head, numbers, rfl⟩) last

/-- An address of four bytes is accepted as its numbers joined by points, and only so. -/
theorem acceptsVersion4_iff {text : String} :
    acceptsVersion4 text = true ↔ ∃ bytes, Fits bytes ∧ text.toList = joined bytes := by
  rw [acceptsVersion4, Bool.and_eq_true, Option.isSome_iff_exists, Form.admits_iff]
  simp only [version4?_eq_some_iff]
  constructor
  · rintro ⟨-, bytes, fits, same⟩
    exact ⟨bytes, fits, same⟩
  · rintro ⟨bytes, fits, same⟩
    rw [same]
    exact ⟨joined_mem_language fits.1 fits.2, bytes, fits, rfl⟩

/-- The longer address has a colon, and the form of the shorter one mentions none. -/
theorem not_acceptsVersion6_of_acceptsVersion4 {text : String}
    (accepted : acceptsVersion4 text = true) : ¬ acceptsVersion6 text = true := by
  rw [acceptsVersion4, Bool.and_eq_true, Form.admits_iff] at accepted
  rw [acceptsVersion6, Bool.and_eq_true, List.contains_iff_mem]
  exact fun both => Form.notMem_of_mem accepted.1 (by decide) both.1

end ToolGate.Format.IpAddress
