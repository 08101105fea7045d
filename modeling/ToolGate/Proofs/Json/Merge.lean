import ToolGate.Proofs.Json.Projection
import ToolGate.Validator.Merge

/-!
# Merging projections of one value

Two values fit together if they are projections of one well-formed value.
Their merge then exists and lies between them and that value: both are
projections of it, and it is a projection of the whole.  The loop over the
members of the second object keeps this as its invariant, since each round
writes one key, whose new value lies between the old one and the whole.
-/

namespace ToolGate.Json

variable {numbers : JsonNumber → JsonNumber → Bool}

/-- A well-formed value between two values and a whole. -/
structure LiesBetween (numbers : JsonNumber → JsonNumber → Bool)
    (left right whole merged : Json) : Prop where
  /-- The objects of the value have distinct keys. -/
  wellFormed : merged.WellFormed
  /-- The first value is contained. -/
  left : ProjectionBy numbers left merged
  /-- The second value is contained. -/
  right : ProjectionBy numbers right merged
  /-- Nothing is added to the whole. -/
  whole : ProjectionBy numbers merged whole

/-- Two values merge into one below every well-formed value of which they are projections. -/
def Mergeable (numbers : JsonNumber → JsonNumber → Bool) (right : Json) : Prop :=
  ∀ left whole : Json, left.WellFormed → right.WellFormed → whole.WellFormed →
    ProjectionBy numbers left whole → ProjectionBy numbers right whole →
      ∃ merged, mergeInto left right = some merged ∧ LiesBetween numbers left right whole merged

/-- Writing one key keeps an object between what it was and the whole. -/
theorem update_between (equivalence : JsonNumber.Equivalence numbers)
    {before after whole : List (String × Json)} {key : String} {value wholeValue : Json}
    (update : Entries.IsUpdate key value before after)
    (formed : WellFormed (.object before)) (formedValue : value.WellFormed)
    (grows : ∀ present, before.lookup key = some present → ProjectionBy numbers present value)
    (foundWhole : whole.lookup key = some wholeValue)
    (valuePart : ProjectionBy numbers value wholeValue)
    (part : ProjectionBy numbers (.object before) (.object whole)) :
    WellFormed (.object after) ∧
      ProjectionBy numbers (.object before) (.object after) ∧
      ProjectionBy numbers (.object after) (.object whole) := by
  have distinct : Entries.Distinct before := (wellFormed_object.mp formed).1
  have matched := projectionBy_object_iff.mp part
  refine ⟨wellFormed_object.mpr ⟨update.distinct, ?_⟩,
    projectionBy_object_iff.mpr ?_, projectionBy_object_iff.mpr ?_⟩
  · intro member inside
    have found := (Entries.lookup_eq_some_iff_mem update.distinct).mpr inside
    rw [update.lookup] at found
    by_cases same : member.1 = key
    · rw [if_pos same] at found
      exact Option.some.inj found ▸ formedValue
    · rw [if_neg same] at found
      exact formed.lookup found
  · intro member inside
    have found := (Entries.lookup_eq_some_iff_mem distinct).mpr inside
    by_cases same : member.1 = key
    · exact ⟨value, by rw [update.lookup, if_pos same], grows _ (same ▸ found)⟩
    · exact ⟨member.2, by rw [update.lookup, if_neg same, found],
        projectionBy_refl equivalence (formed.lookup found)⟩
  · intro member inside
    have found := (Entries.lookup_eq_some_iff_mem update.distinct).mpr inside
    rw [update.lookup] at found
    by_cases same : member.1 = key
    · rw [if_pos same] at found
      exact ⟨wholeValue, same ▸ foundWhole, Option.some.inj found ▸ valuePart⟩
    · rw [if_neg same] at found
      exact matched.lookup found

/-- Elements merge one by one. -/
theorem mergeElements_between {lefts rights wholes : List Json}
    (mergeable : ∀ right ∈ rights, Mergeable numbers right)
    (formedLeft : WellFormed (.array lefts)) (formedRight : WellFormed (.array rights))
    (formedWhole : WellFormed (.array wholes))
    (leftPart : ProjectionBy numbers (.array lefts) (.array wholes))
    (rightPart : ProjectionBy numbers (.array rights) (.array wholes)) :
    ∃ merged, mergeElements lefts rights = some merged ∧
      LiesBetween numbers (.array lefts) (.array rights) (.array wholes) (.array merged) := by
  induction rights generalizing lefts wholes with
  | nil =>
      obtain rfl := List.forall₂_nil_left_iff.mp (projectionBy_array_iff.mp rightPart)
      obtain rfl := List.forall₂_nil_right_iff.mp (projectionBy_array_iff.mp leftPart)
      exact ⟨[], by rw [mergeElements], by simp, leftPart, rightPart, leftPart⟩
  | cons right rights ih =>
      obtain ⟨whole, wholes, rightHead, rightTail, rfl⟩ :=
        List.forall₂_cons_left_iff.mp (projectionBy_array_iff.mp rightPart)
      obtain ⟨left, lefts, leftHead, leftTail, rfl⟩ :=
        List.forall₂_cons_right_iff.mp (projectionBy_array_iff.mp leftPart)
      rw [wellFormed_array, List.forall_mem_cons] at formedLeft formedRight formedWhole
      obtain ⟨head, mergedHead, between⟩ := mergeable right List.mem_cons_self left whole
        formedLeft.1 formedRight.1 formedWhole.1 leftHead rightHead
      obtain ⟨tail, mergedTail, betweenTail⟩ :=
        ih (fun other member => mergeable other (List.mem_cons_of_mem _ member))
          (wellFormed_array.mpr formedLeft.2) (wellFormed_array.mpr formedRight.2)
          (wellFormed_array.mpr formedWhole.2)
          (projectionBy_array_iff.mpr leftTail) (projectionBy_array_iff.mpr rightTail)
      refine ⟨head :: tail, by simp [mergeElements, mergedHead, mergedTail], ?_, ?_, ?_, ?_⟩
      · rw [wellFormed_array, List.forall_mem_cons]
        exact ⟨between.wellFormed, wellFormed_array.mp betweenTail.wellFormed⟩
      · exact projectionBy_array_iff.mpr
          (.cons between.left (projectionBy_array_iff.mp betweenTail.left))
      · exact projectionBy_array_iff.mpr
          (.cons between.right (projectionBy_array_iff.mp betweenTail.right))
      · exact projectionBy_array_iff.mpr
          (.cons between.whole (projectionBy_array_iff.mp betweenTail.whole))

/-- Members merge one after the other; the object so far stays below the whole. -/
theorem mergeMembers_between (equivalence : JsonNumber.Equivalence numbers)
    {left right whole : List (String × Json)}
    (mergeable : ∀ member ∈ right, Mergeable numbers member.2)
    (formedLeft : WellFormed (.object left))
    (formedRight : ∀ member ∈ right, member.2.WellFormed)
    (formedWhole : WellFormed (.object whole))
    (leftPart : ProjectionBy numbers (.object left) (.object whole))
    (rightPart : ProjectionBy numbers (.object right) (.object whole)) :
    ∃ merged, mergeMembers left right = some merged ∧
      LiesBetween numbers (.object left) (.object right) (.object whole) (.object merged) := by
  induction right generalizing left with
  | nil =>
      exact ⟨left, by rw [mergeMembers], formedLeft, projectionBy_refl equivalence formedLeft,
        by simp [Entries.Matched], leftPart⟩
  | cons member rest ih =>
      rcases member with ⟨key, value⟩
      have distinct : Entries.Distinct left := (wellFormed_object.mp formedLeft).1
      have rightMatched := projectionBy_object_iff.mp rightPart
      rcases rightMatched (key, value) List.mem_cons_self with ⟨wholeValue, foundWhole, valuePart⟩
      have restPart : ProjectionBy numbers (.object rest) (.object whole) :=
        projectionBy_object_iff.mpr fun other inside =>
          rightMatched other (List.mem_cons_of_mem _ inside)
      rw [List.forall_mem_cons] at mergeable formedRight
      -- one round writes `written` under the key and leaves `next`
      have round : ∃ written next,
          mergeMembers left ((key, value) :: rest) = mergeMembers next rest ∧
          Entries.IsUpdate key written left next ∧ written.WellFormed ∧
          (∀ present, left.lookup key = some present → ProjectionBy numbers present written) ∧
          ProjectionBy numbers value written ∧ ProjectionBy numbers written wholeValue := by
        cases foundLeft : left.lookup key with
        | none =>
            exact ⟨value, left ++ [(key, value)], by rw [mergeMembers, foundLeft],
              Entries.isUpdate_append distinct foundLeft value, formedRight.1, by simp,
              projectionBy_refl equivalence formedRight.1, valuePart⟩
        | some present =>
            obtain ⟨wholeAgain, foundAgain, presentPart⟩ :=
              (projectionBy_object_iff.mp leftPart).lookup foundLeft
            obtain rfl : wholeAgain = wholeValue :=
              Option.some.inj (foundAgain.symm.trans foundWhole)
            obtain ⟨merged, mergedEq, between⟩ := mergeable.1 present wholeAgain
              (formedLeft.lookup foundLeft) formedRight.1 (formedWhole.lookup foundWhole)
              presentPart valuePart
            refine ⟨merged, Entries.swapErase key left ++ [(key, merged)], ?_,
              Entries.isUpdate_swapErase distinct key merged, between.wellFormed, ?_,
              between.right, between.whole⟩
            · simp only [mergeMembers, foundLeft, mergedEq]
            · rintro other same
              exact Option.some.inj same ▸ between.left
      rcases round with ⟨written, next, step, update, formedWritten, grows, valueBelow, writtenPart⟩
      obtain ⟨formedNext, leftBelow, nextPart⟩ :=
        update_between equivalence update formedLeft formedWritten grows foundWhole
          writtenPart leftPart
      obtain ⟨merged, mergedEq, between⟩ :=
        ih mergeable.2 formedNext formedRight.2 nextPart restPart
      refine ⟨merged, step.trans mergedEq, between.wellFormed,
        leftBelow.trans equivalence between.left, projectionBy_object_iff.mpr ?_, between.whole⟩
      intro other inside
      rcases List.mem_cons.mp inside with rfl | later
      · have foundNext : next.lookup key = some written := by simp [update.lookup]
        obtain ⟨final, foundMerged, writtenBelow⟩ :=
          (projectionBy_object_iff.mp between.left).lookup foundNext
        exact ⟨final, foundMerged, valueBelow.trans equivalence writtenBelow⟩
      · exact projectionBy_object_iff.mp between.right other later

/-- Projections of one well-formed value merge, and their merge lies between them and it. -/
theorem mergeable (equivalence : JsonNumber.Equivalence numbers) (right : Json) :
    Mergeable numbers right := by
  induction right with
  | null =>
      intro left whole formedLeft _ _ leftPart rightPart
      obtain rfl := projectionBy_null_left.mp rightPart
      obtain rfl := projectionBy_null_right.mp leftPart
      exact ⟨.null, by simp [mergeInto, sameValue, equalBy], formedLeft, leftPart, rightPart,
        leftPart⟩
  | bool value =>
      intro left whole formedLeft _ _ leftPart rightPart
      obtain rfl := projectionBy_bool_left.mp rightPart
      obtain rfl := projectionBy_bool_right.mp leftPart
      exact ⟨.bool value, by simp [mergeInto, sameValue, equalBy], formedLeft, leftPart,
        rightPart, leftPart⟩
  | number y =>
      intro left whole formedLeft _ _ leftPart rightPart
      rcases projectionBy_number_left.mp rightPart with ⟨z, rfl, sameRight⟩
      rcases projectionBy_number_right.mp leftPart with ⟨x, rfl, sameLeft⟩
      have same : numbers x y = true := equivalence.trans sameLeft (equivalence.symm sameRight)
      refine ⟨.number x, ?_, formedLeft, projectionBy_refl equivalence formedLeft, ?_, leftPart⟩
      · simp [mergeInto, sameValue, equalBy, equivalence.sameValue same]
      · exact projectionBy_number_left.mpr ⟨x, rfl, equivalence.symm same⟩
  | string text =>
      intro left whole formedLeft _ _ leftPart rightPart
      obtain rfl := projectionBy_string_left.mp rightPart
      obtain rfl := projectionBy_string_right.mp leftPart
      exact ⟨.string text, by simp [mergeInto, sameValue, equalBy], formedLeft, leftPart,
        rightPart, leftPart⟩
  | array rights ih =>
      intro left whole formedLeft formedRight formedWhole leftPart rightPart
      rcases projectionBy_array_left.mp rightPart with ⟨wholes, rfl, _⟩
      rcases projectionBy_array_right.mp leftPart with ⟨lefts, rfl, _⟩
      obtain ⟨merged, mergedEq, between⟩ :=
        mergeElements_between ih formedLeft formedRight formedWhole leftPart rightPart
      exact ⟨.array merged, by simp [mergeInto, mergedEq], between⟩
  | object rights ih =>
      intro left whole formedLeft formedRight formedWhole leftPart rightPart
      rcases projectionBy_object_left.mp rightPart with ⟨wholes, rfl, _⟩
      rcases projectionBy_object_right.mp leftPart with ⟨lefts, rfl, _⟩
      obtain ⟨merged, mergedEq, between⟩ :=
        mergeMembers_between equivalence ih formedLeft (wellFormed_object.mp formedRight).2
          formedWhole leftPart rightPart
      exact ⟨.object merged, by simp [mergeInto, mergedEq], between⟩

/-- Any number of projections of one well-formed value merge into one that contains them all. -/
theorem mergeAll_between (equivalence : JsonNumber.Equivalence numbers) {whole : Json}
    (formedWhole : whole.WellFormed) (first : Json) (others : List Json)
    (formed : ∀ part ∈ first :: others, part.WellFormed)
    (parts : ∀ part ∈ first :: others, ProjectionBy numbers part whole) :
    ∃ merged, mergeAll? first others = some merged ∧ merged.WellFormed ∧
      (∀ part ∈ first :: others, ProjectionBy numbers part merged) ∧
      ProjectionBy numbers merged whole := by
  induction others generalizing first with
  | nil =>
      rw [List.forall_mem_singleton] at formed parts
      refine ⟨first, rfl, formed, ?_, parts⟩
      rw [List.forall_mem_singleton]
      exact projectionBy_refl equivalence formed
  | cons second others ih =>
      simp only [List.forall_mem_cons] at formed parts
      obtain ⟨joined, joinedEq, between⟩ := mergeable equivalence second first whole formed.1
        formed.2.1 formedWhole parts.1 parts.2.1
      obtain ⟨merged, mergedEq, formedMerged, contained, below⟩ := ih joined
        (List.forall_mem_cons.mpr ⟨between.wellFormed, formed.2.2⟩)
        (List.forall_mem_cons.mpr ⟨between.whole, parts.2.2⟩)
      rw [List.forall_mem_cons] at contained
      refine ⟨merged, ?_, formedMerged, ?_, below⟩
      · rw [mergeAll?, List.foldlM_cons, joinedEq]
        exact mergedEq
      · simp only [List.forall_mem_cons]
        exact ⟨between.left.trans equivalence contained.1,
          between.right.trans equivalence contained.1, contained.2⟩

end ToolGate.Json
