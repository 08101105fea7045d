import Mathlib.Data.List.Induction
import ToolGate.Proofs.Entries

/-!
# Entries that are written again

A list of entries is written one after the other, each in place if its name
is there and at the end if it is not.  The list may name an entry more than
once; then the last value counts, at the place that the name got first.  To
write the same list again finds all its names in place, and every value that
is put back on the way is overwritten by the one that counts, so nothing
changes.
-/

namespace ToolGate.Entries

variable {α : Type _}

/-- The entries after others are written to them, one after the other. -/
def insertAll (entries new : List (String × α)) : List (String × α) :=
  new.foldl (fun written entry => insert entry.1 entry.2 written) entries

@[simp]
theorem insertAll_nil (entries : List (String × α)) : insertAll entries [] = entries := rfl

@[simp]
theorem insertAll_cons (entries new : List (String × α)) (entry : String × α) :
    insertAll entries (entry :: new) = insertAll (insert entry.1 entry.2 entries) new := rfl

theorem insertAll_concat (entries new : List (String × α)) (entry : String × α) :
    insertAll entries (new ++ [entry]) = insert entry.1 entry.2 (insertAll entries new) :=
  List.foldl_concat _ _ _ _

theorem mem_names_insert_iff {name other : String} {value : α} {entries : List (String × α)} :
    other ∈ names (insert name value entries) ↔ other = name ∨ other ∈ names entries := by
  rw [names_insert]
  by_cases present : name ∈ names entries
  · rw [if_pos present]
    constructor
    · exact .inr
    · rintro (rfl | listed)
      · exact present
      · exact listed
  · rw [if_neg present, List.mem_append, List.mem_singleton]
    exact or_comm

theorem mem_names_insertAll_iff {name : String} {entries new : List (String × α)} :
    name ∈ names (insertAll entries new) ↔ name ∈ names entries ∨ name ∈ names new := by
  induction new generalizing entries with
  | nil => simp
  | cons entry rest ih =>
      rw [insertAll_cons, ih, mem_names_insert_iff, names_cons, List.mem_cons, or_assoc,
        or_left_comm]

/-- A value that is overwritten leaves no trace. -/
theorem insert_insert (name : String) (first second : α) (entries : List (String × α)) :
    insert name second (insert name first entries) = insert name second entries := by
  induction entries with
  | nil => simp [insert]
  | cons entry rest ih =>
      by_cases here : entry.1 = name
      · simp [insert, here]
      · simp [insert, here, ih]

/-- Two names may be written in either order if one of them has its place already. -/
theorem insert_comm {name other : String} (different : name ≠ other) (first second : α)
    {entries : List (String × α)} (present : other ∈ names entries) :
    insert other second (insert name first entries) =
      insert name first (insert other second entries) := by
  induction entries with
  | nil => cases present
  | cons entry rest ih =>
      by_cases here : entry.1 = name
      · simp [insert, here, different]
      · by_cases there : entry.1 = other
        · simp [insert, there, different.symm]
        · have later : other ∈ names rest := by
            rcases List.mem_cons.mp present with same | later
            · exact absurd same.symm there
            · exact later
          simp [insert, here, there, ih later]

/-- What is written to a name first does not count if the name is written last. -/
theorem insert_insertAll_insert {name : String} (earlier value : α)
    {entries new : List (String × α)} (present : ∀ entry ∈ new, entry.1 ∈ names entries) :
    insert name value (insertAll (insert name earlier entries) new) =
      insert name value (insertAll entries new) := by
  induction new generalizing entries with
  | nil => exact insert_insert name earlier value entries
  | cons entry rest ih =>
      rw [List.forall_mem_cons] at present
      rw [insertAll_cons, insertAll_cons]
      by_cases same : name = entry.1
      · rw [same, insert_insert]
      · rw [insert_comm same earlier entry.2 present.1]
        apply ih
        intro other member
        exact mem_names_insert_iff.mpr (.inr (present.2 other member))

/-- To write the same entries again changes nothing. -/
theorem insertAll_insertAll (entries new : List (String × α)) :
    insertAll (insertAll entries new) new = insertAll entries new := by
  induction new using List.reverseRecOn with
  | nil => rfl
  | append_singleton front last ih =>
      have present : ∀ entry ∈ front, entry.1 ∈ names (insertAll entries front) := by
        intro entry member
        exact mem_names_insertAll_iff.mpr (.inr (mem_names_of_mem member))
      rw [insertAll_concat, insertAll_concat, insert_insertAll_insert last.2 last.2 present, ih]

end ToolGate.Entries
