import Mathlib.Data.List.Nodup
import Mathlib.Data.List.Perm.Subperm
import Mathlib.Data.List.Perm.Lattice
import ToolGate.Entries
import ToolGate.Proofs.Correspondence

/-!
# Entries as finite maps

Entries with distinct names are a finite map together with an order.  This
module relates the map, which is read by `lookup`, to the list: a name is
found exactly where it is a member, reordering changes no lookup, and the
removal that moves the last entry into the gap removes one name and nothing
else.
-/

namespace ToolGate.Entries

variable {α : Type _}

instance (entries : List (String × α)) : Decidable (Distinct entries) :=
  inferInstanceAs (Decidable (names entries).Nodup)

@[simp]
theorem names_nil : names ([] : List (String × α)) = [] := rfl

@[simp]
theorem names_cons (entry : String × α) (rest : List (String × α)) :
    names (entry :: rest) = entry.1 :: names rest := rfl

@[simp]
theorem names_append (left right : List (String × α)) :
    names (left ++ right) = names left ++ names right := by
  simp [names]

theorem mem_names_of_mem {entry : String × α} {entries : List (String × α)}
    (member : entry ∈ entries) : entry.1 ∈ names entries :=
  List.mem_map_of_mem member

theorem mem_names_iff {name : String} {entries : List (String × α)} :
    name ∈ names entries ↔ ∃ value, (name, value) ∈ entries := by
  constructor
  · intro listed
    rcases List.mem_map.mp listed with ⟨⟨_, value⟩, member, rfl⟩
    exact ⟨value, member⟩
  · rintro ⟨value, member⟩
    exact mem_names_of_mem member

@[simp]
theorem contains_iff {name : String} {entries : List (String × α)} :
    contains entries name = true ↔ name ∈ names entries := by
  simp only [contains, names, List.any_eq_true, beq_iff_eq, List.mem_map]

theorem contains_congr {β : Type _} {entries : List (String × α)} {others : List (String × β)}
    (same : names entries = names others) (name : String) :
    contains entries name = contains others name := by
  rw [Bool.eq_iff_iff, contains_iff, contains_iff, same]

theorem mem_of_lookup {name : String} {value : α} {entries : List (String × α)}
    (found : entries.lookup name = some value) : (name, value) ∈ entries := by
  rcases List.lookup_eq_some_iff.mp found with ⟨before, after, split, _⟩
  rw [split]
  exact List.mem_append_right _ List.mem_cons_self

theorem lookup_eq_none_iff {name : String} {entries : List (String × α)} :
    entries.lookup name = none ↔ name ∉ names entries := by
  rw [List.lookup_eq_none_iff]
  constructor
  · intro different listed
    rcases mem_names_iff.mp listed with ⟨value, member⟩
    simpa using different _ member
  · intro unlisted entry member
    simp only [bne_iff_ne]
    rintro rfl
    exact unlisted (mem_names_of_mem member)

theorem exists_lookup_of_mem_names {name : String} {entries : List (String × α)}
    (listed : name ∈ names entries) : ∃ value, entries.lookup name = some value := by
  cases found : entries.lookup name with
  | some value => exact ⟨value, rfl⟩
  | none => exact absurd listed (lookup_eq_none_iff.mp found)

theorem mem_names_of_lookup {name : String} {value : α} {entries : List (String × α)}
    (found : entries.lookup name = some value) : name ∈ names entries :=
  mem_names_of_mem (mem_of_lookup found)

theorem distinct_nil : Distinct ([] : List (String × α)) :=
  List.nodup_nil

@[simp]
theorem distinct_cons {entry : String × α} {rest : List (String × α)} :
    Distinct (entry :: rest) ↔ entry.1 ∉ names rest ∧ Distinct rest :=
  List.nodup_cons

theorem distinct_append {left right : List (String × α)} :
    Distinct (left ++ right) ↔
      Distinct left ∧ Distinct right ∧ ∀ name ∈ names left, name ∉ names right := by
  rw [Distinct, names_append, List.nodup_append']
  rfl

/-- With distinct names, to be found is to be a member. -/
theorem lookup_eq_some_iff_mem {name : String} {value : α} {entries : List (String × α)}
    (distinct : Distinct entries) :
    entries.lookup name = some value ↔ (name, value) ∈ entries := by
  constructor
  · exact mem_of_lookup
  · intro member
    induction entries with
    | nil => cases member
    | cons entry rest ih =>
        rcases distinct_cons.mp distinct with ⟨absent, distinctRest⟩
        rcases List.mem_cons.mp member with rfl | later
        · simp
        · have different : (name == entry.1) = false := by
            rw [beq_eq_false_iff_ne]
            intro same
            exact absent (same ▸ mem_names_of_mem later)
          rw [List.lookup_cons, different]
          exact ih distinctRest later

/-- The order of entries with distinct names is immaterial to what is found. -/
theorem lookup_eq_of_perm {left right : List (String × α)} (distinct : Distinct left)
    (perm : left.Perm right) (name : String) : left.lookup name = right.lookup name := by
  have distinctRight : Distinct right := (perm.map Prod.fst).nodup distinct
  apply Option.ext
  intro value
  rw [lookup_eq_some_iff_mem distinct, lookup_eq_some_iff_mem distinctRight, perm.mem_iff]

/-- Every entry of the first list has a related partner under its name in the second. -/
def Matched {β : Type _} (related : α → β → Prop)
    (left : List (String × α)) (right : List (String × β)) : Prop :=
  ∀ entry ∈ left, ∃ value, right.lookup entry.1 = some value ∧ related entry.2 value

section Matched

variable {β : Type _} {left : List (String × α)} {right : List (String × β)}
  {related : α → β → Prop}

theorem Matched.names_subset (matched : Matched related left right) :
    names left ⊆ names right := by
  intro name listed
  rcases mem_names_iff.mp listed with ⟨value, member⟩
  rcases matched (name, value) member with ⟨partner, found, _⟩
  exact mem_names_of_lookup found

theorem Matched.lookup (matched : Matched related left right) {name : String} {value : α}
    (found : left.lookup name = some value) :
    ∃ partner, right.lookup name = some partner ∧ related value partner :=
  matched (name, value) (mem_of_lookup found)

theorem Matched.imp {weaker : α → β → Prop} (matched : Matched related left right)
    (implies : ∀ entry ∈ left, ∀ value, right.lookup entry.1 = some value →
      related entry.2 value → weaker entry.2 value) :
    Matched weaker left right := by
  intro entry member
  rcases matched entry member with ⟨value, found, relation⟩
  exact ⟨value, found, implies entry member value found relation⟩

/-- Partners of distinct names exhaust a second list that is not longer. -/
theorem Matched.flip (matched : Matched related left right) (distinctLeft : Distinct left)
    (distinctRight : Distinct right) (short : right.length ≤ left.length) :
    Matched (fun value partner => related partner value) right left := by
  have subperm : (names left).Subperm (names right) :=
    List.Nodup.subperm distinctLeft matched.names_subset
  have perm : (names left).Perm (names right) :=
    subperm.perm_of_length_le (by simpa [names] using short)
  intro entry member
  have listed : entry.1 ∈ names left := perm.mem_iff.mpr (mem_names_of_mem member)
  rcases exists_lookup_of_mem_names listed with ⟨partner, foundLeft⟩
  rcases matched.lookup foundLeft with ⟨value, found, relation⟩
  rw [(lookup_eq_some_iff_mem distinctRight).mpr member] at found
  obtain rfl := Option.some.inj found
  exact ⟨partner, foundLeft, relation⟩

/-- Lists of distinct names that match in both directions have the same length. -/
theorem Matched.length_eq {relatedBack : β → α → Prop} (matched : Matched related left right)
    (back : Matched relatedBack right left) (distinctLeft : Distinct left)
    (distinctRight : Distinct right) : left.length = right.length := by
  have perm : (names left).Perm (names right) :=
    (List.perm_ext_iff_of_nodup distinctLeft distinctRight).mpr fun _ =>
      ⟨fun listed => matched.names_subset listed, fun listed => back.names_subset listed⟩
  simpa [names] using perm.length_eq

/-- Partners in both directions are the same. -/
theorem Matched.and {relatedBack : β → α → Prop} (matched : Matched related left right)
    (back : Matched relatedBack right left) (distinctLeft : Distinct left) :
    Matched (fun value partner => related value partner ∧ relatedBack partner value)
      left right := by
  intro entry member
  rcases matched entry member with ⟨partner, found, relation⟩
  rcases back.lookup found with ⟨value, foundBack, relationBack⟩
  rw [(lookup_eq_some_iff_mem distinctLeft).mpr member] at foundBack
  obtain rfl := Option.some.inj foundBack
  exact ⟨partner, found, relation, relationBack⟩

/-- Results under the names of the entries they are for have these names. -/
theorem names_eq_of_forall₂ {entries : List (String × α)} {results : List (String × β)}
    (correspond : List.Forall₂ (fun entry result => result.1 = entry.1) entries results) :
    names results = names entries :=
  (correspond.imp fun _ _ same => same.symm).map_eq.symm

/-- Results under the names of the entries they are for are matched by these entries. -/
theorem matched_of_forall₂ {entries : List (String × α)} {results : List (String × β)}
    (distinct : Distinct entries)
    (correspond : List.Forall₂ (fun entry result =>
      result.1 = entry.1 ∧ related entry.2 result.2) entries results) :
    Matched (fun result value => related value result) results entries := by
  intro result member
  rcases correspond.exists_of_mem_right member with ⟨entry, inside, same, relation⟩
  exact ⟨entry.2, (lookup_eq_some_iff_mem distinct).mpr (same ▸ inside), relation⟩

/-- Results under the names of entries are found where the entries are. -/
theorem rel_lookup_of_forall₂ {entries : List (String × α)} {results : List (String × β)}
    (correspond : List.Forall₂ (fun entry result =>
      result.1 = entry.1 ∧ related entry.2 result.2) entries results) (name : String) :
    Option.Rel related (entries.lookup name) (results.lookup name) := by
  induction correspond with
  | nil => exact .none
  | @cons entry result _ _ head tail ih =>
      rcases entry with ⟨_, value⟩
      rcases result with ⟨key, output⟩
      obtain ⟨rfl, relation⟩ := head
      simp only [List.lookup_cons]
      cases name == key with
      | true => exact .some relation
      | false => exact ih

end Matched

/-- What is inserted is there, and nothing else is new. -/
theorem mem_of_mem_insert {name : String} {value : α} {entries : List (String × α)}
    {entry : String × α} (member : entry ∈ insert name value entries) :
    entry = (name, value) ∨ entry ∈ entries := by
  induction entries with
  | nil => exact .inl (List.mem_singleton.mp member)
  | cons first rest ih =>
      rw [insert] at member
      split at member
      · rcases List.mem_cons.mp member with same | later
        · exact .inl same
        · exact .inr (List.mem_cons_of_mem _ later)
      · rcases List.mem_cons.mp member with rfl | later
        · exact .inr List.mem_cons_self
        · exact (ih later).imp_right (List.mem_cons_of_mem _)

/-- An insertion is found under its name and hides nothing else. -/
theorem lookup_insert (name : String) (value : α) (entries : List (String × α)) (other : String) :
    (insert name value entries).lookup other =
      if other = name then some value else entries.lookup other := by
  induction entries with
  | nil =>
      by_cases same : other = name <;> simp [insert, List.lookup_cons, same, beq_eq_decide]
  | cons first rest ih =>
      rcases first with ⟨present, old⟩
      rw [insert]
      by_cases here : present = name
      · subst here
        by_cases same : other = present <;> simp [List.lookup_cons, same, beq_eq_decide]
      · rw [if_neg here, List.lookup_cons, List.lookup_cons, ih]
        by_cases first : other = present
        · subst first
          simp [here]
        · simp [first, beq_eq_decide]

/-- A present name keeps its place, and an absent one comes last. -/
theorem names_insert (name : String) (value : α) (entries : List (String × α)) :
    names (insert name value entries) =
      if name ∈ names entries then names entries else names entries ++ [name] := by
  induction entries with
  | nil => simp [insert]
  | cons first rest ih =>
      rw [insert]
      by_cases here : first.1 = name
      · simp [here]
      · have elsewhere : name ≠ first.1 := fun same => here same.symm
        rw [if_neg here, names_cons, names_cons, ih]
        by_cases later : name ∈ names rest <;> simp [later, elsewhere]

/-- An insertion leaves names distinct, as it writes to the place of a present name. -/
theorem Distinct.insert {entries : List (String × α)} (distinct : Distinct entries)
    (name : String) (value : α) : Distinct (insert name value entries) := by
  induction entries with
  | nil => exact distinct_cons.mpr ⟨List.not_mem_nil, distinct_nil⟩
  | cons first rest ih =>
      rcases distinct_cons.mp distinct with ⟨absent, distinctRest⟩
      rw [Entries.insert]
      split
      · rename_i same
        exact distinct_cons.mpr ⟨same ▸ absent, distinctRest⟩
      · rename_i different
        refine distinct_cons.mpr ⟨?_, ih distinctRest⟩
        intro listed
        rcases mem_names_iff.mp listed with ⟨other, member⟩
        rcases mem_of_mem_insert member with same | later
        · exact different (Prod.ext_iff.mp same).1
        · exact absent (mem_names_iff.mpr ⟨other, later⟩)

/-- Insertions one after the other keep names distinct and make nothing up. -/
theorem foldl_insert_spec (entries : List (String × α)) {collected : List (String × α)}
    (distinct : Distinct collected) :
    let all := entries.foldl (fun collected entry => insert entry.1 entry.2 collected) collected
    Distinct all ∧ ∀ entry ∈ all, entry ∈ collected ∨ entry ∈ entries := by
  induction entries generalizing collected with
  | nil => exact ⟨distinct, fun entry member => .inl member⟩
  | cons first rest ih =>
      rcases ih (distinct.insert first.1 first.2) with ⟨distinctAll, origin⟩
      refine ⟨distinctAll, ?_⟩
      intro entry member
      rcases origin entry member with before | later
      · rcases mem_of_mem_insert before with rfl | old
        · exact .inr List.mem_cons_self
        · exact .inl old
      · exact .inr (List.mem_cons_of_mem _ later)

theorem distinct_ofList (entries : List (String × α)) : Distinct (ofList entries) :=
  (foldl_insert_spec entries distinct_nil).1

theorem mem_of_mem_ofList {entries : List (String × α)} {entry : String × α}
    (member : entry ∈ ofList entries) : entry ∈ entries := by
  rcases (foldl_insert_spec entries distinct_nil).2 entry member with none | listed
  · cases none
  · exact listed

theorem names_filter_sublist (keep : String × α → Bool) (entries : List (String × α)) :
    (names (entries.filter keep)).Sublist (names entries) :=
  List.filter_sublist.map _

theorem Distinct.filter {entries : List (String × α)} (distinct : Distinct entries)
    (keep : String × α → Bool) : Distinct (entries.filter keep) :=
  (names_filter_sublist keep entries).nodup distinct

/-- With distinct names, a filter takes away what it refuses and nothing else. -/
theorem lookup_filter_eq_some_iff {entries : List (String × α)} (distinct : Distinct entries)
    {keep : String × α → Bool} {name : String} {value : α} :
    (entries.filter keep).lookup name = some value ↔
      entries.lookup name = some value ∧ keep (name, value) = true := by
  rw [lookup_eq_some_iff_mem (distinct.filter keep), lookup_eq_some_iff_mem distinct,
    List.mem_filter]

theorem lookup_filter_names (keep : String → Bool) (entries : List (String × α)) (name : String) :
    (entries.filter fun entry => keep entry.1).lookup name =
      if keep name then entries.lookup name else none := by
  induction entries with
  | nil => simp
  | cons entry rest ih =>
      rcases entry with ⟨other, value⟩
      by_cases same : name = other
      · subst same
        cases kept : keep name <;> simp [kept, ih]
      · have different : (name == other) = false := beq_eq_false_iff_ne.mpr same
        cases kept : keep other <;>
          simp [kept, ih, List.lookup_cons, different]

/-- Erasing a name takes away what was found under it and nothing else. -/
theorem lookup_erase (entries : List (String × α)) (erased name : String) :
    (erase entries erased).lookup name =
      if name = erased then none else entries.lookup name := by
  rw [erase, lookup_filter_names (· != erased)]
  by_cases same : name = erased <;> simp [same]

/-- Both forms of removal leave the same entries. -/
theorem swapErase_perm (name : String) {entries : List (String × α)}
    (distinct : Distinct entries) : (swapErase name entries).Perm (erase entries name) := by
  induction entries with
  | nil => exact List.Perm.refl _
  | cons entry rest ih =>
      rcases distinct_cons.mp distinct with ⟨absent, distinctRest⟩
      by_cases same : entry.1 = name
      · have untouched : erase (entry :: rest) name = rest := by
          simp only [erase, List.filter_cons, same, bne_self_eq_false, Bool.false_eq_true,
            ↓reduceIte, List.filter_eq_self, bne_iff_ne]
          rintro other member rfl
          exact absent (same ▸ mem_names_of_mem member)
        rw [swapErase, if_pos same, untouched]
        cases last : rest.getLast? with
        | none =>
            rw [List.getLast?_eq_none_iff.mp last]
        | some moved =>
            rcases List.getLast?_eq_some_iff.mp last with ⟨front, rfl⟩
            rw [List.dropLast_concat]
            exact (List.perm_append_singleton moved front).symm
      · rw [swapErase, if_neg same]
        have kept : erase (entry :: rest) name = entry :: erase rest name := by
          simp [erase, same]
        rw [kept]
        exact (ih distinctRest).cons entry

theorem Distinct.swapErase {entries : List (String × α)} (distinct : Distinct entries)
    (name : String) : Distinct (swapErase name entries) :=
  ((swapErase_perm name distinct).symm.map Prod.fst).nodup (distinct.filter _)

/-- The removal that moves the last entry takes away what was found under the name only. -/
theorem lookup_swapErase {entries : List (String × α)} (distinct : Distinct entries)
    (erased name : String) :
    (swapErase erased entries).lookup name =
      if name = erased then none else entries.lookup name := by
  rw [lookup_eq_of_perm (distinct.swapErase erased) (swapErase_perm erased distinct),
    lookup_erase]

/-- The second list is the first with one name written, wherever its entry stands. -/
structure IsUpdate (name : String) (value : α) (before after : List (String × α)) : Prop where
  /-- No name occurs twice afterwards. -/
  distinct : Distinct after
  /-- The value is found under the name, and everything else as before. -/
  lookup : ∀ other, after.lookup other = if other = name then some value else before.lookup other

/-- Writing an absent name at the end is an update. -/
theorem isUpdate_append {entries : List (String × α)} (distinct : Distinct entries)
    {name : String} (absent : entries.lookup name = none) (value : α) :
    IsUpdate name value entries (entries ++ [(name, value)]) where
  distinct := by
    refine distinct_append.mpr ⟨distinct, by simp [distinct_nil], ?_⟩
    intro other listed
    simp only [names_cons, names_nil, List.mem_singleton]
    rintro rfl
    exact lookup_eq_none_iff.mp absent listed
  lookup := by
    intro other
    rw [List.lookup_append]
    by_cases same : other = name
    · subst same
      simp [absent]
    · have different : (other == name) = false := beq_eq_false_iff_ne.mpr same
      simp [List.lookup_cons, different, same]

/-- Moving a name to the end with another value is an update. -/
theorem isUpdate_swapErase {entries : List (String × α)} (distinct : Distinct entries)
    (name : String) (value : α) :
    IsUpdate name value entries (Entries.swapErase name entries ++ [(name, value)]) := by
  have absent : (Entries.swapErase name entries).lookup name = none := by
    simp [lookup_swapErase distinct]
  have update := isUpdate_append (distinct.swapErase name) absent value
  refine ⟨update.distinct, ?_⟩
  intro other
  rw [update.lookup, lookup_swapErase distinct]
  by_cases same : other = name <;> simp [same]

end ToolGate.Entries
