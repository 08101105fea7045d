import ToolGate.FieldPath
import ToolGate.Proofs.Json.MergeMembers

/-!
# Positions in merged values

A value has every position of its projections, with a projection there.  A
merge makes no position up: each comes from one of the values merged, and
where both have it, from the merge of what they have there.  So the objects
of a merge have the names that are there in the values merged, and no others.
-/

namespace ToolGate.Json

variable {numbers : JsonNumber → JsonNumber → Bool}

theorem at?_append (value : Json) (path rest : FieldPath) :
    value.at? (path ++ rest) = (value.at? path).bind fun part => part.at? rest := by
  induction path generalizing value with
  | nil => rfl
  | cons step path ih =>
      rw [List.cons_append, at?, at?, Option.bind_assoc]
      exact Option.bind_congr fun part _ => ih part

theorem WellFormed.step? {value part : Json} {step : PathSegment} (formed : value.WellFormed)
    (found : value.step? step = some part) : part.WellFormed := by
  unfold Json.step? at found
  split at found
  · exact formed.lookup found
  · exact wellFormed_array.mp formed part (List.mem_of_getElem? found)
  · cases found

theorem WellFormed.at? {value part : Json} {path : FieldPath} (formed : value.WellFormed)
    (found : value.at? path = some part) : part.WellFormed := by
  induction path generalizing value with
  | nil =>
      obtain rfl := Option.some.inj found
      exact formed
  | cons step rest ih =>
      rcases Option.bind_eq_some_iff.mp found with ⟨middle, here, there⟩
      exact ih (formed.step? here) there

theorem ProjectionBy.step? {part whole inner : Json} {step : PathSegment}
    (projection : ProjectionBy numbers part whole) (found : part.step? step = some inner) :
    ∃ outer, whole.step? step = some outer ∧ ProjectionBy numbers inner outer := by
  unfold Json.step? at found
  split at found
  · rcases projectionBy_object_left.mp projection with ⟨members, rfl, matched⟩
    exact matched.lookup found
  · rename_i elements position
    rcases projectionBy_array_left.mp projection with ⟨others, rfl, correspond⟩
    rcases List.getElem?_eq_some_iff.mp found with ⟨inside, rfl⟩
    have insideOther : position < others.length := correspond.length_eq ▸ inside
    exact ⟨others[position], List.getElem?_eq_getElem insideOther,
      correspond.get inside insideOther⟩
  · cases found

/-- The whole has something at every position of a projection. -/
theorem ProjectionBy.at? {part whole inner : Json} {path : FieldPath}
    (projection : ProjectionBy numbers part whole) (found : part.at? path = some inner) :
    ∃ outer, whole.at? path = some outer ∧ ProjectionBy numbers inner outer := by
  induction path generalizing part whole with
  | nil =>
      obtain rfl := Option.some.inj found
      exact ⟨whole, rfl, projection⟩
  | cons step rest ih =>
      rcases Option.bind_eq_some_iff.mp found with ⟨middle, here, there⟩
      rcases projection.step? here with ⟨outerMiddle, hereToo, middleProjection⟩
      rcases ih middleProjection there with ⟨outer, thereToo, innerProjection⟩
      exact ⟨outer, Option.bind_eq_some_iff.mpr ⟨outerMiddle, hereToo, thereToo⟩, innerProjection⟩

/-- An object has a position under a key if the key is one of its names. -/
theorem isSome_at?_key_iff {value : Json} {path : FieldPath} {key : String} :
    (value.at? (path ++ [.key key])).isSome ↔
      ∃ entries, value.at? path = some (.object entries) ∧ key ∈ Entries.names entries := by
  rw [at?_append]
  cases found : value.at? path with
  | none => simp
  | some part =>
      cases part with
      | object entries =>
          have isMember : (entries.lookup key).isSome ↔ key ∈ Entries.names entries := by
            rw [← not_iff_not, Bool.not_eq_true, Option.isSome_eq_false_iff,
              Option.isNone_iff_eq_none, Entries.lookup_eq_none_iff]
          simp [at?, step?, isMember]
      | _ => simp [at?, step?]

/-- What a merge has one step below it comes from one side or is a merge itself. -/
theorem step?_of_mergeInto {left right merged part : Json} {step : PathSegment}
    (formedLeft : left.WellFormed) (formedRight : right.WellFormed)
    (mergedEq : mergeInto left right = some merged) (found : merged.step? step = some part) :
    left.step? step = some part ∨ right.step? step = some part ∨
      ∃ first second, left.step? step = some first ∧ right.step? step = some second ∧
        mergeInto first second = some part := by
  cases right with
  | array rights =>
      rcases mergeInto_array_eq_some mergedEq with ⟨lefts, elements, rfl, joined, rfl⟩
      rcases mergeElements_eq_some joined with ⟨_, correspond⟩
      cases step with
      | key name => cases found
      | index position =>
          rcases List.getElem?_eq_some_iff.mp found with ⟨inside, rfl⟩
          have insideZip : position < (lefts.zip rights).length := correspond.length_eq ▸ inside
          have merge := correspond.get insideZip inside
          have pair : (lefts.zip rights)[position]? = some (lefts.zip rights)[position] :=
            List.getElem?_eq_getElem insideZip
          rw [List.getElem?_zip_eq_some] at pair
          exact .inr (.inr ⟨_, _, pair.1, pair.2, merge⟩)
  | object rights =>
      rcases mergeInto_object_eq_some mergedEq with ⟨lefts, members, rfl, joined, rfl⟩
      cases step with
      | index position => cases found
      | key name =>
          have merge := (mergeMembers_eq_some (wellFormed_object.mp formedLeft).1
            (wellFormed_object.mp formedRight).1 joined).2 name
          simp only [Json.step?] at found ⊢
          rw [found] at merge
          generalize lefts.lookup name = fromLeft at merge ⊢
          generalize rights.lookup name = fromRight at merge ⊢
          cases merge with
          | both merge => exact .inr (.inr ⟨_, _, rfl, rfl, merge⟩)
          | left => exact .inl rfl
          | right => exact .inr (.inl rfl)
  | _ =>
      obtain ⟨_, rfl⟩ := mergeInto_scalar_eq_some rfl rfl mergedEq
      exact .inl found

/-- Every position of a merge is one of the values merged. -/
theorem isSome_at?_of_mergeInto {left right merged : Json} {path : FieldPath}
    (formedLeft : left.WellFormed) (formedRight : right.WellFormed)
    (mergedEq : mergeInto left right = some merged) (present : (merged.at? path).isSome) :
    (left.at? path).isSome ∨ (right.at? path).isSome := by
  induction path generalizing left right merged with
  | nil => exact .inl rfl
  | cons step rest ih =>
      rcases Option.isSome_iff_exists.mp present with ⟨part, found⟩
      rcases Option.bind_eq_some_iff.mp found with ⟨middle, here, there⟩
      simp only [Json.at?]
      rcases step?_of_mergeInto formedLeft formedRight mergedEq here with
        ofLeft | ofRight | ⟨first, second, ofLeft, ofRight, merge⟩
      · rw [ofLeft, Option.bind_some, there]
        exact .inl rfl
      · rw [ofRight, Option.bind_some, there]
        exact .inr rfl
      · rw [ofLeft, ofRight, Option.bind_some, Option.bind_some]
        exact ih (formedLeft.step? ofLeft) (formedRight.step? ofRight) merge (there ▸ rfl)

theorem isSome_at?_of_mergeAll {first merged : Json} {others : List Json} {path : FieldPath}
    (formed : ∀ part ∈ first :: others, part.WellFormed)
    (mergedEq : mergeAll? first others = some merged) (present : (merged.at? path).isSome) :
    ∃ part ∈ first :: others, (part.at? path).isSome := by
  induction others generalizing first with
  | nil =>
      obtain rfl := Option.some.inj mergedEq
      exact ⟨first, List.mem_cons_self, present⟩
  | cons second others ih =>
      rw [mergeAll?, List.foldlM_cons] at mergedEq
      rcases Option.bind_eq_some_iff.mp mergedEq with ⟨joined, joinedEq, remaining⟩
      rcases List.forall_mem_cons.mp formed with ⟨formedFirst, formedRest⟩
      rcases List.forall_mem_cons.mp formedRest with ⟨formedSecond, formedOthers⟩
      have formedJoined := mergeInto_wellFormed formedFirst formedSecond joinedEq
      rcases ih (List.forall_mem_cons.mpr ⟨formedJoined, formedOthers⟩) remaining with
        ⟨part, member, here⟩
      rcases List.mem_cons.mp member with rfl | later
      · rcases isSome_at?_of_mergeInto formedFirst formedSecond joinedEq here with
          ofFirst | ofSecond
        · exact ⟨first, List.mem_cons_self, ofFirst⟩
        · exact ⟨second, List.mem_cons_of_mem _ List.mem_cons_self, ofSecond⟩
      · exact ⟨part, List.mem_cons_of_mem _ (List.mem_cons_of_mem _ later), here⟩

/-- The whole has an object where a part has one, with the names that the parts have there. -/
structure JoinsNames (parts : List Json) (whole : Json) : Prop where
  /-- Every name of an object is one of a part, and there are no two of a name. -/
  names : ∀ path entries, whole.at? path = some (.object entries) →
    Entries.Distinct entries ∧ ∀ key, key ∈ Entries.names entries ↔
      ∃ part ∈ parts, ∃ members, part.at? path = some (.object members) ∧
        key ∈ Entries.names members
  /-- No object of a part is lost. -/
  objects : ∀ part ∈ parts, ∀ path members, part.at? path = some (.object members) →
    ∃ entries, whole.at? path = some (.object entries)

/-- A merge that contains the values merged joins their names. -/
theorem joinsNames_of_mergeAll {first merged : Json} {others : List Json}
    (formed : ∀ part ∈ first :: others, part.WellFormed) (formedMerged : merged.WellFormed)
    (contained : ∀ part ∈ first :: others, ProjectionBy numbers part merged)
    (mergedEq : mergeAll? first others = some merged) : JoinsNames (first :: others) merged where
  names := by
    intro path entries here
    refine ⟨(wellFormed_object.mp (formedMerged.at? here)).1, ?_⟩
    intro key
    constructor
    · intro listed
      have present : (merged.at? (path ++ [.key key])).isSome :=
        isSome_at?_key_iff.mpr ⟨entries, here, listed⟩
      rcases isSome_at?_of_mergeAll formed mergedEq present with ⟨part, member, hereToo⟩
      exact ⟨part, member, isSome_at?_key_iff.mp hereToo⟩
    · rintro ⟨part, member, members, found, listed⟩
      rcases (contained part member).at? found with ⟨outer, hereToo, projection⟩
      cases here.symm.trans hereToo
      exact (projectionBy_object_iff.mp projection).names_subset listed
  objects := by
    intro part member path members found
    rcases (contained part member).at? found with ⟨outer, here, projection⟩
    rcases projectionBy_object_left.mp projection with ⟨entries, rfl, _⟩
    exact ⟨entries, here⟩

end ToolGate.Json
