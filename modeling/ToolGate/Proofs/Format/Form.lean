import Mathlib.Computability.Language
import ToolGate.Format.Form

/-!
# The language of a form

The texts of a form make up a regular language, and following a text
character by character decides whether it belongs to this language: the
forms of what may follow a character are those of the texts without it.  All
that is known about a form is therefore read off its language.
-/

namespace ToolGate.Format.Form

/-- The texts of a form. -/
def language : Form → Language Char
  | .empty => 1
  | .one admitted => {text | ∃ c, admitted c = true ∧ text = [c]}
  | .join first second => first.language * second.language
  | .either left right => left.language + right.language
  | .many form => KStar.kstar form.language

variable {form first second left right : Form} {admitted : Char → Bool} {text : List Char}

theorem mem_empty_iff : text ∈ empty.language ↔ text = [] :=
  Language.mem_one text

theorem mem_one_iff : text ∈ (one admitted).language ↔ ∃ c, admitted c = true ∧ text = [c] :=
  Iff.rfl

theorem mem_join_iff :
    text ∈ (join first second).language ↔
      ∃ head ∈ first.language, ∃ tail ∈ second.language, head ++ tail = text :=
  Language.mem_mul

theorem mem_either_iff :
    text ∈ (either left right).language ↔ text ∈ left.language ∨ text ∈ right.language :=
  Language.mem_add left.language right.language text

theorem mem_many_iff :
    text ∈ (many form).language ↔
      ∃ parts : List (List Char), text = parts.flatten ∧ ∀ part ∈ parts, part ∈ form.language :=
  Language.mem_kstar

/-! ## Following a text -/

theorem nil_mem_language_iff : [] ∈ form.language ↔ form.admitsEmpty = true := by
  induction form with
  | empty => simp [mem_empty_iff, admitsEmpty]
  | one admitted => simp [mem_one_iff, admitsEmpty]
  | join first second ihFirst ihSecond => simp [mem_join_iff, admitsEmpty, ihFirst, ihSecond]
  | either left right ihLeft ihRight => simp [mem_either_iff, admitsEmpty, ihLeft, ihRight]
  | many form ih => exact iff_of_true (Language.nil_mem_kstar form.language) rfl

/-- A text that is made up of parts and not empty begins with a part that is not empty. -/
theorem cons_mem_many_iff {c : Char} :
    c :: text ∈ (many form).language ↔
      ∃ head, c :: head ∈ form.language ∧ ∃ tail ∈ (many form).language, head ++ tail = text := by
  simp only [mem_many_iff]
  constructor
  · rintro ⟨parts, same, members⟩
    induction parts with
    | nil => cases same
    | cons part parts ih =>
        rw [List.forall_mem_cons] at members
        cases part with
        | nil => exact ih same members.2
        | cons d head =>
            cases same
            exact ⟨head, members.1, _, ⟨parts, rfl, members.2⟩, rfl⟩
  · rintro ⟨head, member, _, ⟨parts, rfl, members⟩, rfl⟩
    exact ⟨(c :: head) :: parts, rfl, List.forall_mem_cons.mpr ⟨member, members⟩⟩

/-- The forms after a character are those of the texts that it can stand before. -/
theorem cons_mem_language_iff {c : Char} :
    c :: text ∈ form.language ↔ ∃ next ∈ form.after c, text ∈ next.language := by
  induction form generalizing text with
  | empty => simp [mem_empty_iff, after]
  | one admitted =>
      by_cases given : admitted c = true <;> simp [mem_one_iff, after, given, mem_empty_iff]
  | join first second ihFirst ihSecond =>
      rw [mem_join_iff, after]
      simp only [List.mem_append, List.mem_map, or_and_right, exists_or]
      constructor
      · rintro ⟨head, member, tail, rest, same⟩
        cases head with
        | nil =>
            rw [List.nil_append] at same
            subst same
            obtain ⟨next, listed, follows⟩ := ihSecond.mp rest
            exact .inr ⟨next, by simpa [nil_mem_language_iff.mp member] using listed, follows⟩
        | cons d head =>
            cases same
            obtain ⟨next, listed, follows⟩ := ihFirst.mp member
            exact .inl ⟨_, ⟨next, listed, rfl⟩, mem_join_iff.mpr ⟨head, follows, tail, rest, rfl⟩⟩
      · rintro (⟨_, ⟨next, listed, rfl⟩, follows⟩ | ⟨next, listed, follows⟩)
        · obtain ⟨head, member, tail, rest, rfl⟩ := mem_join_iff.mp follows
          exact ⟨c :: head, ihFirst.mpr ⟨next, listed, member⟩, tail, rest, rfl⟩
        · by_cases skipped : first.admitsEmpty = true
          · rw [if_pos skipped] at listed
            exact ⟨[], nil_mem_language_iff.mpr skipped, c :: text,
              ihSecond.mpr ⟨next, listed, follows⟩, rfl⟩
          · rw [if_neg skipped] at listed
            cases listed
  | either left right ihLeft ihRight =>
      simp only [mem_either_iff, after, List.mem_append, or_and_right, exists_or, ihLeft, ihRight]
  | many form ih =>
      simp only [cons_mem_many_iff, after, List.mem_map, ih]
      constructor
      · rintro ⟨head, ⟨next, listed, member⟩, tail, rest, same⟩
        exact ⟨_, ⟨next, listed, rfl⟩, mem_join_iff.mpr ⟨head, member, tail, rest, same⟩⟩
      · rintro ⟨_, ⟨next, listed, rfl⟩, follows⟩
        obtain ⟨head, member, tail, rest, same⟩ := mem_join_iff.mp follows
        exact ⟨head, ⟨next, listed, member⟩, tail, rest, same⟩

theorem anyAdmits_iff {forms : List Form} :
    anyAdmits forms text = true ↔ ∃ form ∈ forms, text ∈ form.language := by
  induction text generalizing forms with
  | nil => simp [anyAdmits, nil_mem_language_iff]
  | cons c rest ih =>
      rw [anyAdmits, ih]
      simp only [List.mem_flatMap, cons_mem_language_iff]
      constructor
      · rintro ⟨next, ⟨form, member, listed⟩, follows⟩
        exact ⟨form, member, next, listed, follows⟩
      · rintro ⟨form, member, next, listed, follows⟩
        exact ⟨next, ⟨form, member, listed⟩, follows⟩

/-- A text is admitted exactly if it belongs to the language of the form. -/
theorem admits_iff : form.admits text = true ↔ text ∈ form.language := by
  rw [admits, anyAdmits_iff]
  simp

/-! ## Characters -/

/-- One of the classes that make up the form admits the character. -/
def mentions (c : Char) : Form → Bool
  | .empty => false
  | .one admitted => admitted c
  | .join first second => first.mentions c || second.mentions c
  | .either left right => left.mentions c || right.mentions c
  | .many form => form.mentions c

/-- A text of the form is made up of characters that the form mentions. -/
theorem mentions_of_mem {c : Char} (member : text ∈ form.language) (occurs : c ∈ text) :
    form.mentions c = true := by
  induction form generalizing text with
  | empty =>
      obtain rfl := mem_empty_iff.mp member
      cases occurs
  | one admitted =>
      obtain ⟨d, given, rfl⟩ := mem_one_iff.mp member
      rwa [mentions, List.mem_singleton.mp occurs]
  | join first second ihFirst ihSecond =>
      obtain ⟨head, isHead, tail, isTail, rfl⟩ := mem_join_iff.mp member
      rw [mentions, Bool.or_eq_true]
      exact (List.mem_append.mp occurs).imp (ihFirst isHead) (ihSecond isTail)
  | either left right ihLeft ihRight =>
      rw [mentions, Bool.or_eq_true]
      exact (mem_either_iff.mp member).imp (ihLeft · occurs) (ihRight · occurs)
  | many form ih =>
      obtain ⟨parts, rfl, members⟩ := mem_many_iff.mp member
      obtain ⟨part, listed, inPart⟩ := List.mem_flatten.mp occurs
      exact ih (members part listed) inPart

theorem notMem_of_mem {c : Char} (member : text ∈ form.language)
    (unmentioned : form.mentions c = false) : c ∉ text := fun occurs =>
  Bool.false_ne_true (unmentioned.symm.trans (mentions_of_mem member occurs))

/-! ## Texts of the derived forms -/

theorem mem_char_iff {c : Char} : text ∈ (char c).language ↔ text = [c] := by
  simp [char, mem_one_iff]

theorem mem_oneOf_iff {choices : List Char} :
    text ∈ (oneOf choices).language ↔ ∃ c ∈ choices, text = [c] := by
  simp [oneOf, mem_one_iff]

theorem mem_range_iff {low high : Char} :
    text ∈ (range low high).language ↔ ∃ c, (low ≤ c ∧ c ≤ high) ∧ text = [c] := by
  simp [range, mem_one_iff]

theorem mem_optional_iff : text ∈ (optional form).language ↔ text ∈ form.language ∨ text = [] := by
  rw [optional, mem_either_iff, mem_empty_iff]

theorem mem_sequence_nil_iff : text ∈ (sequence []).language ↔ text = [] :=
  mem_empty_iff

theorem mem_sequence_cons_iff {forms : List Form} :
    text ∈ (sequence (form :: forms)).language ↔
      ∃ head ∈ form.language, ∃ tail ∈ (sequence forms).language, head ++ tail = text :=
  mem_join_iff

theorem append_mem_sequence {forms : List Form} {head tail : List Char}
    (member : head ∈ form.language) (follows : tail ∈ (sequence forms).language) :
    head ++ tail ∈ (sequence (form :: forms)).language :=
  mem_join_iff.mpr ⟨head, member, tail, follows, rfl⟩

theorem cons_mem_sequence {forms : List Form} {c : Char} (given : admitted c = true)
    (follows : text ∈ (sequence forms).language) :
    c :: text ∈ (sequence (one admitted :: forms)).language :=
  append_mem_sequence (mem_one_iff.mpr ⟨c, given, rfl⟩) follows

theorem mem_sequence_singleton (member : text ∈ form.language) :
    text ∈ (sequence [form]).language :=
  mem_join_iff.mpr ⟨text, member, [], mem_empty_iff.mpr rfl, List.append_nil text⟩

/-- Characters of a class, a certain number of them. -/
theorem mem_times_one_iff {count : Nat} :
    text ∈ ((one admitted).times count).language ↔
      text.length = count ∧ ∀ c ∈ text, admitted c = true := by
  induction count generalizing text with
  | zero =>
      rw [times, mem_empty_iff, List.length_eq_zero_iff]
      constructor
      · rintro rfl
        simp
      · exact And.left
  | succ count ih =>
      simp only [times, mem_join_iff, mem_one_iff, ih]
      constructor
      · rintro ⟨_, ⟨c, given, rfl⟩, tail, ⟨rfl, all⟩, rfl⟩
        exact ⟨rfl, List.forall_mem_cons.mpr ⟨given, all⟩⟩
      · rintro ⟨length, all⟩
        cases text with
        | nil => cases length
        | cons c tail =>
            rw [List.forall_mem_cons] at all
            exact ⟨[c], ⟨c, all.1, rfl⟩, tail, ⟨Nat.succ.inj length, all.2⟩, rfl⟩

/-- Characters of a class, any number of them. -/
theorem mem_many_one_iff :
    text ∈ (many (one admitted)).language ↔ ∀ c ∈ text, admitted c = true := by
  induction text with
  | nil => simp [nil_mem_language_iff, admitsEmpty]
  | cons c rest ih => simp [cons_mem_many_iff, mem_one_iff, ih]

/-- Characters of a class, at least a certain number of them. -/
theorem mem_atLeast_one_iff {count : Nat} :
    text ∈ (atLeast count (one admitted)).language ↔
      count ≤ text.length ∧ ∀ c ∈ text, admitted c = true := by
  simp only [atLeast, mem_join_iff, mem_times_one_iff, mem_many_one_iff]
  constructor
  · rintro ⟨head, ⟨rfl, allHead⟩, tail, allTail, rfl⟩
    exact ⟨by simp, List.forall_mem_append.mpr ⟨allHead, allTail⟩⟩
  · rintro ⟨enough, all⟩
    refine ⟨text.take count, ⟨List.length_take_of_le enough, ?_⟩, text.drop count, ?_,
      List.take_append_drop count text⟩
    · exact fun c member => all c (List.mem_of_mem_take member)
    · exact fun c member => all c (List.mem_of_mem_drop member)

/-- Parts of a form, at least one of them. -/
theorem mem_atLeast_one_part_iff :
    text ∈ (atLeast 1 form).language ↔
      ∃ parts : List (List Char), parts ≠ [] ∧ text = parts.flatten ∧
        ∀ part ∈ parts, part ∈ form.language := by
  simp only [atLeast, times, mem_join_iff, mem_empty_iff, mem_many_iff]
  constructor
  · rintro ⟨_, ⟨head, member, _, rfl, rfl⟩, _, ⟨parts, rfl, members⟩, rfl⟩
    exact ⟨head :: parts, List.cons_ne_nil _ _, by simp,
      List.forall_mem_cons.mpr ⟨member, members⟩⟩
  · rintro ⟨parts, nonempty, rfl, members⟩
    obtain ⟨head, parts, rfl⟩ := List.exists_cons_of_ne_nil nonempty
    rw [List.forall_mem_cons] at members
    exact ⟨head, ⟨head, members.1, [], rfl, List.append_nil head⟩, _,
      ⟨parts, rfl, members.2⟩, rfl⟩

end ToolGate.Format.Form
