import Mathlib.Data.List.Infix
import ToolGate.Format.Email
import ToolGate.Proofs.Format.Form

/-!
# The grammar of addresses

The form of an address reads the domain as labels that each end in a point,
and a last one behind them.  Split at its points, the domain is a list of
labels.  Where no point may stand is said of the whole text and of its start.
-/

namespace ToolGate.Format.Email

variable {text name domain last part : List Char} {labels : List (List Char)}

/-! ## The grammar -/

/-- What stands before the mark: it does not start with a point, and ends in no point or quote. -/
structure IsName (name : List Char) : Prop where
  chars : ∀ c ∈ name, c.isAlphanum = true ∨ c ∈ ['_', '\'', '+', '-', '.']
  starts : name.head? ≠ some '.'
  ends : ∃ c ∈ name.getLast?, c.isAlphanum = true ∨ c ∈ ['_', '+', '-']

/-- A label starts with a letter or digit, and may go on with hyphens besides them. -/
def IsLabel (label : List Char) : Prop :=
  ∃ first rest, label = first :: rest ∧ first.isAlphanum = true ∧
    ∀ c ∈ rest, c.isAlphanum = true ∨ c = '-'

/-- Labels joined by points, the last of which is made up of two letters or more. -/
def IsDomain (domain : List Char) : Prop :=
  ∃ labels last, domain.splitOn '.' = labels ++ [last] ∧ labels ≠ [] ∧
    (∀ label ∈ labels, IsLabel label) ∧ 2 ≤ last.length ∧ ∀ c ∈ last, c.isAlpha = true

/-- A name and a domain, with the only mark of the text between them. -/
structure IsAddress (text name domain : List Char) : Prop where
  parts : text = name ++ '@' :: domain
  mark : text.count '@' = 1
  points : ¬ ['.', '.'] <:+: text
  name : IsName name
  domain : IsDomain domain

/-! ## Characters -/

theorem isLocalEnd_iff {c : Char} :
    isLocalEnd c = true ↔ c.isAlphanum = true ∨ c ∈ ['_', '+', '-'] := by
  simp [isLocalEnd, isAlnum, Char.isAlphanum, or_assoc]

theorem isLocalChar_iff {c : Char} :
    isLocalChar c = true ↔ c.isAlphanum = true ∨ c ∈ ['_', '\'', '+', '-', '.'] := by
  simp [isLocalChar, isLocalEnd_iff]
  tauto

theorem isLocalChar_of_isLocalEnd {c : Char} (ends : isLocalEnd c = true) :
    isLocalChar c = true := by
  simp [isLocalChar, ends]

theorem isLabelChar_iff {c : Char} : isLabelChar c = true ↔ c.isAlphanum = true ∨ c = '-' := by
  simp [isLabelChar, isAlnum, Char.isAlphanum]

theorem hasDoublePoint_iff : hasDoublePoint text = true ↔ ['.', '.'] <:+: text := by
  fun_induction hasDoublePoint text with
  | case1 rest => simp [List.infix_cons_iff]
  | case2 c rest other ih =>
      rw [ih, List.infix_cons_iff]
      refine ⟨.inr, fun found => found.resolve_left ?_⟩
      rintro ⟨_, same⟩
      cases same
      exact other _ rfl rfl
  | case3 => simp

/-! ## The name -/

theorem isName_iff :
    IsName name ↔ name.head? ≠ some '.' ∧
      ∃ body c, name = body ++ [c] ∧ (∀ d ∈ body, isLocalChar d = true) ∧ isLocalEnd c = true := by
  constructor
  · rintro ⟨chars, starts, c, isLast, ends⟩
    obtain ⟨body, rfl⟩ := List.getLast?_eq_some_iff.mp isLast
    refine ⟨starts, body, c, rfl, fun d member => ?_, isLocalEnd_iff.mpr ends⟩
    exact isLocalChar_iff.mpr (chars d (List.mem_append_left _ member))
  · rintro ⟨starts, body, c, rfl, chars, ends⟩
    refine ⟨?_, starts, c, List.getLast?_concat, isLocalEnd_iff.mp ends⟩
    simp only [← isLocalChar_iff, List.forall_mem_append, List.forall_mem_singleton]
    exact ⟨chars, isLocalChar_of_isLocalEnd ends⟩

theorem IsName.mark_notMem (isName : IsName name) : '@' ∉ name := fun member =>
  absurd (isName.chars _ member) (by decide)

/-! ## The domain -/

theorem IsLabel.notMem {c : Char} (isLabel : IsLabel part) (noAlnum : c.isAlphanum = false)
    (noHyphen : c ≠ '-') : c ∉ part := by
  obtain ⟨first, rest, rfl, starts, chars⟩ := isLabel
  intro member
  rcases List.mem_cons.mp member with rfl | member
  · rw [noAlnum] at starts
    cases starts
  · rcases chars c member with alnum | hyphen
    · rw [noAlnum] at alnum
      cases alnum
    · exact noHyphen hyphen

theorem mem_label_iff :
    part ∈ label.language ↔ ∃ name, IsLabel name ∧ part = name ++ ['.'] := by
  simp only [label, Form.mem_sequence_cons_iff, Form.mem_sequence_nil_iff, Form.mem_one_iff,
    Form.mem_many_one_iff, Form.mem_char_iff, isLabelChar_iff]
  constructor
  · rintro ⟨_, ⟨first, starts, rfl⟩, _, ⟨rest, chars, _, ⟨_, rfl, _, rfl, rfl⟩, rfl⟩, rfl⟩
    exact ⟨first :: rest, ⟨first, rest, rfl, starts, chars⟩, by simp⟩
  · rintro ⟨_, ⟨first, rest, rfl, starts, chars⟩, rfl⟩
    exact ⟨_, ⟨first, starts, rfl⟩, _, ⟨rest, chars, _, ⟨_, rfl, [], rfl, rfl⟩, rfl⟩, by simp⟩

/-- Labels that each end in a point, and a last one, are labels joined by points. -/
theorem flatten_append_eq_intercalate :
    (labels.map (· ++ ['.'])).flatten ++ last = ['.'].intercalate (labels ++ [last]) := by
  induction labels with
  | nil => simp [List.intercalate_singleton]
  | cons label labels ih =>
      rw [List.cons_append, List.intercalate_cons_of_ne_nil (by simp), ← ih]
      simp

/-- The labels of a domain are told apart by their points. -/
theorem splitOn_eq_iff (isLabel : ∀ label ∈ labels, IsLabel label)
    (letters : ∀ c ∈ last, c.isAlpha = true) :
    domain.splitOn '.' = labels ++ [last] ↔
      domain = (labels.map (· ++ ['.'])).flatten ++ last := by
  rw [flatten_append_eq_intercalate]
  constructor
  · intro split
    rw [← split, List.intercalate_splitOn]
  · rintro rfl
    refine List.splitOn_intercalate '.' ?_ (by simp)
    simp only [List.forall_mem_append, List.forall_mem_singleton]
    refine ⟨fun label member => (isLabel label member).notMem rfl (by decide), fun member => ?_⟩
    exact absurd (letters _ member) (by decide)

theorem mem_domain_iff :
    domain ∈ (Form.sequence [.atLeast 1 label, .atLeast 2 (.one Char.isAlpha)]).language ↔
      IsDomain domain := by
  simp only [Form.mem_sequence_cons_iff, Form.mem_sequence_nil_iff, Form.mem_atLeast_one_part_iff,
    Form.mem_atLeast_one_iff, mem_label_iff]
  constructor
  · rintro ⟨_, ⟨parts, nonempty, rfl, members⟩, _, ⟨last, ⟨long, letters⟩, _, rfl, rfl⟩, rfl⟩
    choose! name isLabel same using members
    have labelled : ∀ label ∈ parts.map name, IsLabel label := by
      simpa using isLabel
    have pointed : (parts.map name).map (· ++ ['.']) = parts := by
      rw [List.map_map]
      exact (List.map_congr_left fun part member => (same part member).symm).trans parts.map_id
    refine ⟨parts.map name, last, (splitOn_eq_iff labelled letters).mpr ?_, by simpa using nonempty,
      labelled, long, letters⟩
    rw [pointed, List.append_nil]
  · rintro ⟨labels, last, split, nonempty, isLabel, long, letters⟩
    obtain rfl := (splitOn_eq_iff isLabel letters).mp split
    refine ⟨_, ⟨labels.map (· ++ ['.']), by simpa using nonempty, rfl, ?_⟩, last,
      ⟨last, ⟨long, letters⟩, [], rfl, List.append_nil last⟩, rfl⟩
    intro part member
    obtain ⟨label, listed, rfl⟩ := List.mem_map.mp member
    exact ⟨label, isLabel label listed, rfl⟩

theorem IsDomain.mark_notMem (isDomain : IsDomain domain) : '@' ∉ domain :=
  Form.notMem_of_mem (mem_domain_iff.mpr isDomain) (by decide)

/-! ## Addresses -/

theorem mem_form_iff :
    text ∈ form.language ↔
      ∃ body c domain, (∀ d ∈ body, isLocalChar d = true) ∧ isLocalEnd c = true ∧
        IsDomain domain ∧ text = (body ++ [c]) ++ '@' :: domain := by
  constructor
  · intro member
    obtain ⟨body, chars, _, afterBody, rfl⟩ := Form.mem_join_iff.mp member
    obtain ⟨_, ⟨c, ends, rfl⟩, _, afterName, rfl⟩ := Form.mem_join_iff.mp afterBody
    obtain ⟨_, mark, domain, isDomain, rfl⟩ := Form.mem_join_iff.mp afterName
    obtain rfl := Form.mem_char_iff.mp mark
    exact ⟨body, c, domain, Form.mem_many_one_iff.mp chars, ends, mem_domain_iff.mp isDomain,
      by simp⟩
  · rintro ⟨body, c, domain, chars, ends, isDomain, rfl⟩
    rw [List.append_assoc, List.singleton_append]
    exact Form.append_mem_sequence (Form.mem_many_one_iff.mpr chars)
      (Form.cons_mem_sequence ends
        (Form.cons_mem_sequence (by decide) (mem_domain_iff.mpr isDomain)))

theorem localPart_eq (noMark : '@' ∉ name) : localPart (name ++ '@' :: domain) = name := by
  have passed : ∀ c ∈ name, (c != '@') = true := fun c member =>
    bne_iff_ne.mpr fun same => noMark (same ▸ member)
  rw [localPart, List.takeWhile_append_of_pos passed]
  simp

/-- A text is accepted exactly if it is an address by the grammar. -/
theorem accepts_iff {text : String} :
    accepts text = true ↔ ∃ name domain, IsAddress text.toList name domain := by
  simp only [accepts, Bool.and_eq_true, bne_iff_ne, Form.admits_iff, mem_form_iff,
    Bool.not_eq_true', Bool.eq_false_iff, Ne, hasDoublePoint_iff]
  constructor
  · rintro ⟨⟨⟨body, c, domain, chars, ends, isDomain, parts⟩, starts⟩, points⟩
    have nameChars : ∀ d ∈ body ++ [c], isLocalChar d = true :=
      List.forall_mem_append.mpr
        ⟨chars, List.forall_mem_singleton.mpr (isLocalChar_of_isLocalEnd ends)⟩
    have noMark : '@' ∉ body ++ [c] := fun member => absurd (nameChars _ member) (by decide)
    -- the name ends at the first mark, which is the only one
    rw [parts, localPart_eq noMark] at starts
    refine ⟨_, domain, parts, ?_, points, isName_iff.mpr ⟨starts, body, c, rfl, chars, ends⟩,
      isDomain⟩
    rw [parts, List.count_append, List.count_eq_zero.mpr noMark, List.count_cons_self,
      List.count_eq_zero.mpr isDomain.mark_notMem]
  · rintro ⟨name, domain, parts, -, points, isName, isDomain⟩
    obtain ⟨starts, body, c, rfl, chars, ends⟩ := isName_iff.mp isName
    refine ⟨⟨⟨body, c, domain, chars, ends, isDomain, parts⟩, ?_⟩, points⟩
    rwa [parts, localPart_eq isName.mark_notMem]

end ToolGate.Format.Email
