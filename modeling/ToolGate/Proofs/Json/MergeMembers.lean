import ToolGate.Proofs.Json.Equivalence
import ToolGate.Proofs.Json.Merge

/-!
# Merged objects as finite maps

The loop that merges two objects moves members about while it runs.  What it
leaves is nevertheless described key by key: a key of both objects has their
merged values, and every other key has what it had.  From this description
follow the laws of merging that do not speak of the order of members.
Merging keeps values well formed and respects equivalence, and a value that
is contained in another one adds nothing to it.
-/

namespace ToolGate.Json

variable {numbers : JsonNumber → JsonNumber → Bool}

/-- What merged objects have under a key, from what the two objects have there. -/
inductive MergedMember : Option Json → Option Json → Option Json → Prop where
  | both {left right merged : Json} (merge : mergeInto left right = some merged) :
      MergedMember (some left) (some right) (some merged)
  | left (value : Json) : MergedMember (some value) none (some value)
  | right (value : Option Json) : MergedMember none value value

theorem mergeMembers_eq_some {left right merged : List (String × Json)}
    (distinctLeft : Entries.Distinct left) (distinctRight : Entries.Distinct right)
    (mergedEq : mergeMembers left right = some merged) :
    Entries.Distinct merged ∧
      ∀ key, MergedMember (left.lookup key) (right.lookup key) (merged.lookup key) := by
  induction right generalizing left with
  | nil =>
      rw [mergeMembers] at mergedEq
      obtain rfl := Option.some.inj mergedEq
      refine ⟨distinctLeft, ?_⟩
      intro key
      cases left.lookup key with
      | some value => exact .left value
      | none => exact .right none
  | cons member rest ih =>
      rcases member with ⟨key, value⟩
      rcases Entries.distinct_cons.mp distinctRight with ⟨absent, distinctRest⟩
      -- one round writes `written` under the key and leaves `next`
      have round : ∃ written next, mergeMembers next rest = some merged ∧
          Entries.IsUpdate key written left next ∧
          MergedMember (left.lookup key) (some value) (some written) := by
        rw [mergeMembers] at mergedEq
        cases found : left.lookup key with
        | none =>
            rw [found] at mergedEq
            exact ⟨value, _, mergedEq, Entries.isUpdate_append distinctLeft found value,
              .right (some value)⟩
        | some present =>
            rw [found] at mergedEq
            cases merge : mergeInto present value with
            | none => simp [merge] at mergedEq
            | some joined =>
                simp only [merge] at mergedEq
                exact ⟨joined, _, mergedEq, Entries.isUpdate_swapErase distinctLeft key joined,
                  .both merge⟩
      rcases round with ⟨written, next, remaining, update, here⟩
      rcases ih update.distinct distinctRest remaining with ⟨distinctMerged, there⟩
      refine ⟨distinctMerged, ?_⟩
      intro other
      have later := there other
      rw [update.lookup] at later
      by_cases same : other = key
      · subst same
        have unlisted : rest.lookup other = none := Entries.lookup_eq_none_iff.mpr absent
        rw [if_pos rfl, unlisted] at later
        rw [List.lookup_cons_self]
        generalize merged.lookup other = final at later ⊢
        cases later with
        | left => exact here
      · rw [if_neg same] at later
        rwa [List.lookup_cons, beq_false_of_ne same]

/-- Objects merge only with objects. -/
theorem mergeInto_object_eq_some {left merged : Json} {rights : List (String × Json)}
    (mergedEq : mergeInto left (.object rights) = some merged) :
    ∃ lefts members, left = .object lefts ∧ mergeMembers lefts rights = some members ∧
      merged = .object members := by
  cases left with
  | object lefts =>
      rw [mergeInto] at mergedEq
      rcases Option.map_eq_some_iff.mp mergedEq with ⟨members, joined, rfl⟩
      exact ⟨lefts, members, rfl, joined, rfl⟩
  | _ => simp [mergeInto] at mergedEq

/-- Arrays merge only with arrays. -/
theorem mergeInto_array_eq_some {left merged : Json} {rights : List Json}
    (mergedEq : mergeInto left (.array rights) = some merged) :
    ∃ lefts elements, left = .array lefts ∧ mergeElements lefts rights = some elements ∧
      merged = .array elements := by
  cases left with
  | array lefts =>
      rw [mergeInto] at mergedEq
      rcases Option.map_eq_some_iff.mp mergedEq with ⟨elements, joined, rfl⟩
      exact ⟨lefts, elements, rfl, joined, rfl⟩
  | _ => simp [mergeInto] at mergedEq

/-- Elements merge one by one, and none is left over. -/
theorem mergeElements_eq_some {lefts rights elements : List Json}
    (mergedEq : mergeElements lefts rights = some elements) :
    lefts.length = rights.length ∧
      List.Forall₂ (fun pair merged => mergeInto pair.1 pair.2 = some merged)
        (lefts.zip rights) elements := by
  induction lefts generalizing rights elements with
  | nil =>
      cases rights with
      | nil =>
          rw [mergeElements] at mergedEq
          obtain rfl := Option.some.inj mergedEq
          exact ⟨rfl, .nil⟩
      | cons right rights => simp [mergeElements] at mergedEq
  | cons left lefts ih =>
      cases rights with
      | nil => simp [mergeElements] at mergedEq
      | cons right rights =>
          rw [mergeElements] at mergedEq
          cases merge : mergeInto left right with
          | none => simp [merge] at mergedEq
          | some merged =>
              simp only [merge] at mergedEq
              rcases Option.map_eq_some_iff.mp mergedEq with ⟨rest, joined, rfl⟩
              rcases ih joined with ⟨sameLength, correspond⟩
              exact ⟨congrArg (· + 1) sameLength, .cons merge correspond⟩

/-- A value that is neither an array nor an object merges only with an equal one. -/
theorem mergeInto_scalar_eq_some {left right merged : Json} (notArray : right.array? = none)
    (notObject : right.object? = none) (mergedEq : mergeInto left right = some merged) :
    left.sameValue right = true ∧ merged = left := by
  have scalar : mergeInto left right = if left.sameValue right then some left else none := by
    cases right with
    | array elements => cases notArray
    | object members => cases notObject
    | _ => simp only [mergeInto]
  rw [scalar] at mergedEq
  by_cases same : left.sameValue right = true
  · rw [if_pos same] at mergedEq
    exact ⟨same, (Option.some.inj mergedEq).symm⟩
  · rw [if_neg same] at mergedEq
    cases mergedEq

/-- A merge of well-formed values is well formed. -/
theorem mergeInto_wellFormed {left right merged : Json} (formedLeft : left.WellFormed)
    (formedRight : right.WellFormed) (mergedEq : mergeInto left right = some merged) :
    merged.WellFormed := by
  induction right generalizing left merged with
  | array rights ih =>
      rcases mergeInto_array_eq_some mergedEq with ⟨lefts, elements, rfl, joined, rfl⟩
      rcases mergeElements_eq_some joined with ⟨_, correspond⟩
      rw [wellFormed_array] at formedLeft formedRight ⊢
      intro element member
      rcases correspond.exists_of_mem_right member with ⟨pair, inside, merge⟩
      have parts := List.of_mem_zip inside
      exact ih pair.2 parts.2 (formedLeft pair.1 parts.1) (formedRight pair.2 parts.2) merge
  | object rights ih =>
      rcases mergeInto_object_eq_some mergedEq with ⟨lefts, members, rfl, joined, rfl⟩
      have distinctLeft := (wellFormed_object.mp formedLeft).1
      have distinctRight := (wellFormed_object.mp formedRight).1
      rcases mergeMembers_eq_some distinctLeft distinctRight joined with ⟨distinct, merges⟩
      refine wellFormed_object.mpr ⟨distinct, ?_⟩
      intro member inside
      have merge := merges member.1
      rw [(Entries.lookup_eq_some_iff_mem distinct).mpr inside] at merge
      cases foundLeft : lefts.lookup member.1 with
      | some left =>
          cases foundRight : rights.lookup member.1 with
          | some right =>
              rw [foundLeft, foundRight] at merge
              cases merge with
              | both merge =>
                  exact ih _ (Entries.mem_of_lookup foundRight) (formedLeft.lookup foundLeft)
                    (formedRight.lookup foundRight) merge
          | none =>
              rw [foundLeft, foundRight] at merge
              cases merge with
              | left => exact formedLeft.lookup foundLeft
      | none =>
          rw [foundLeft] at merge
          generalize foundRight : rights.lookup member.1 = right at merge
          cases merge with
          | right => exact formedRight.lookup foundRight
  | _ =>
      obtain ⟨_, rfl⟩ := mergeInto_scalar_eq_some rfl rfl mergedEq
      exact formedLeft

/-- A value merged into one that contains it leaves the latter as it was. -/
theorem mergeInto_absorbs (equivalence : JsonNumber.Equivalence numbers)
    {left right merged : Json} (formedLeft : left.WellFormed) (formedRight : right.WellFormed)
    (part : right.IsProjectionOf left) (mergedEq : mergeInto left right = some merged) :
    EquivalentBy numbers merged left := by
  induction right generalizing left merged with
  | array rights ih =>
      rcases mergeInto_array_eq_some mergedEq with ⟨lefts, elements, rfl, joined, rfl⟩
      rcases mergeElements_eq_some joined with ⟨sameLength, correspond⟩
      have parts := (projectionBy_array_iff.mp part).flip
      rw [wellFormed_array] at formedLeft formedRight
      have onPairs : List.Forall₂ (fun pair element => EquivalentBy numbers element pair.1)
          (lefts.zip rights) elements := by
        apply correspond.imp_of_mem
        intro pair inside element _ merge
        have sides := List.of_mem_zip inside
        exact ih pair.2 sides.2 (formedLeft pair.1 sides.1) (formedRight pair.2 sides.2)
          (List.forall₂_zip parts inside) merge
      apply equivalentBy_array_iff.mpr
      rw [← List.map_fst_zip (Nat.le_of_eq sameLength)]
      exact List.forall₂_map_right_iff.mpr onPairs.flip
  | object rights ih =>
      rcases mergeInto_object_eq_some mergedEq with ⟨lefts, members, rfl, joined, rfl⟩
      have matched := projectionBy_object_iff.mp part
      have distinctLeft := (wellFormed_object.mp formedLeft).1
      have distinctRight := (wellFormed_object.mp formedRight).1
      rcases mergeMembers_eq_some distinctLeft distinctRight joined with ⟨distinct, merges⟩
      apply (equivalentBy_object_iff distinct distinctLeft).mpr
      intro key
      have merge := merges key
      generalize members.lookup key = member at merge ⊢
      cases foundRight : rights.lookup key with
      | some right =>
          rcases matched.lookup foundRight with ⟨left, foundLeft, below⟩
          rw [foundLeft, foundRight] at merge
          rw [foundLeft]
          cases merge with
          | both merge =>
              exact .some (ih _ (Entries.mem_of_lookup foundRight) (formedLeft.lookup foundLeft)
                (formedRight.lookup foundRight) below merge)
      | none =>
          rw [foundRight] at merge
          generalize foundLeft : lefts.lookup key = left at merge ⊢
          cases merge with
          | left value => exact .some (.refl equivalence (formedLeft.lookup foundLeft))
          | right => exact .none
  | _ =>
      obtain ⟨_, rfl⟩ := mergeInto_scalar_eq_some rfl rfl mergedEq
      exact .refl equivalence formedLeft

/-- Related members have related merges if this holds of members under a common key. -/
theorem MergedMember.rel {related : Json → Json → Prop}
    {left right merged left' right' merged' : Option Json} (first : MergedMember left right merged)
    (second : MergedMember left' right' merged') (relLeft : Option.Rel related left left')
    (relRight : Option.Rel related right right')
    (common : ∀ {x y z x' y' z' : Json}, left = some x → right = some y → left' = some x' →
      right' = some y' → related x x' → related y y' → mergeInto x y = some z →
        mergeInto x' y' = some z' → related z z') :
    Option.Rel related merged merged' := by
  cases first with
  | both merge =>
      cases relLeft with
      | some relLeft =>
          cases relRight with
          | some relRight =>
              cases second with
              | both merge' => exact .some (common rfl rfl rfl rfl relLeft relRight merge merge')
  | left value =>
      cases relLeft with
      | some relLeft =>
          cases relRight with
          | none =>
              cases second with
              | left value' => exact .some relLeft
  | right value =>
      cases relLeft with
      | none =>
          cases second with
          | right value' => exact relRight

/-- Equivalent values have equivalent merges. -/
theorem mergeInto_congr {left right merged left' right' merged' : Json}
    (formedLeft : left.WellFormed) (formedRight : right.WellFormed)
    (formedLeft' : left'.WellFormed) (formedRight' : right'.WellFormed)
    (sameLeft : EquivalentBy numbers left left') (sameRight : EquivalentBy numbers right right')
    (mergedEq : mergeInto left right = some merged)
    (mergedEq' : mergeInto left' right' = some merged') :
    EquivalentBy numbers merged merged' := by
  induction right generalizing left merged left' right' merged' with
  | array rights ih =>
      rcases sameRight.exists_array with ⟨rights', rfl, sameRights⟩
      rcases mergeInto_array_eq_some mergedEq with ⟨lefts, elements, rfl, joined, rfl⟩
      rcases mergeInto_array_eq_some mergedEq' with ⟨lefts', elements', rfl, joined', rfl⟩
      have pairs := (equivalentBy_array_iff.mp sameLeft).zip sameRights
      have merges := (mergeElements_eq_some joined).2
      have merges' := (mergeElements_eq_some joined').2
      rw [wellFormed_array] at formedLeft formedRight formedLeft' formedRight'
      apply equivalentBy_array_iff.mpr
      apply pairs.results merges merges'
      rintro pair inside pair' inside' _ _ ⟨sameFirst, sameSecond⟩ merge merge'
      have sides := List.of_mem_zip inside
      have sides' := List.of_mem_zip inside'
      exact ih pair.2 sides.2 (formedLeft _ sides.1) (formedRight _ sides.2)
        (formedLeft' _ sides'.1) (formedRight' _ sides'.2) sameFirst sameSecond merge merge'
  | object rights ih =>
      rcases sameRight.exists_object with ⟨rights', rfl⟩
      rcases mergeInto_object_eq_some mergedEq with ⟨lefts, members, rfl, joined, rfl⟩
      rcases mergeInto_object_eq_some mergedEq' with ⟨lefts', members', rfl, joined', rfl⟩
      have distinctLeft := (wellFormed_object.mp formedLeft).1
      have distinctRight := (wellFormed_object.mp formedRight).1
      have distinctLeft' := (wellFormed_object.mp formedLeft').1
      have distinctRight' := (wellFormed_object.mp formedRight').1
      rcases mergeMembers_eq_some distinctLeft distinctRight joined with ⟨distinct, merges⟩
      rcases mergeMembers_eq_some distinctLeft' distinctRight' joined' with ⟨distinct', merges'⟩
      rw [equivalentBy_object_iff distinctLeft distinctLeft'] at sameLeft
      rw [equivalentBy_object_iff distinctRight distinctRight'] at sameRight
      apply (equivalentBy_object_iff distinct distinct').mpr
      intro key
      apply (merges key).rel (merges' key) (sameLeft key) (sameRight key)
      intro x y z x' y' z' foundLeft foundRight foundLeft' foundRight' sameX sameY merge merge'
      exact ih _ (Entries.mem_of_lookup foundRight) (formedLeft.lookup foundLeft)
        (formedRight.lookup foundRight) (formedLeft'.lookup foundLeft')
        (formedRight'.lookup foundRight') sameX sameY merge merge'
  | null =>
      obtain rfl := projectionBy_null_left.mp sameRight.1
      obtain ⟨_, rfl⟩ := mergeInto_scalar_eq_some rfl rfl mergedEq
      obtain ⟨_, rfl⟩ := mergeInto_scalar_eq_some rfl rfl mergedEq'
      exact sameLeft
  | bool value =>
      obtain rfl := projectionBy_bool_left.mp sameRight.1
      obtain ⟨_, rfl⟩ := mergeInto_scalar_eq_some rfl rfl mergedEq
      obtain ⟨_, rfl⟩ := mergeInto_scalar_eq_some rfl rfl mergedEq'
      exact sameLeft
  | number x =>
      obtain ⟨y, rfl, _⟩ := projectionBy_number_left.mp sameRight.1
      obtain ⟨_, rfl⟩ := mergeInto_scalar_eq_some rfl rfl mergedEq
      obtain ⟨_, rfl⟩ := mergeInto_scalar_eq_some rfl rfl mergedEq'
      exact sameLeft
  | string text =>
      obtain rfl := projectionBy_string_left.mp sameRight.1
      obtain ⟨_, rfl⟩ := mergeInto_scalar_eq_some rfl rfl mergedEq
      obtain ⟨_, rfl⟩ := mergeInto_scalar_eq_some rfl rfl mergedEq'
      exact sameLeft

/-- Values contained in the first one leave it as it was when all are merged. -/
theorem mergeAll_absorbs (equivalence : JsonNumber.Equivalence numbers)
    {first merged : Json} {others : List Json} (formed : first.WellFormed)
    (formedOthers : ∀ other ∈ others, other.WellFormed)
    (parts : ∀ other ∈ others, other.IsProjectionOf first)
    (mergedEq : mergeAll? first others = some merged) : EquivalentBy numbers merged first := by
  induction others generalizing first with
  | nil =>
      obtain rfl := Option.some.inj mergedEq
      exact .refl equivalence formed
  | cons second others ih =>
      rw [mergeAll?, List.foldlM_cons] at mergedEq
      rcases Option.bind_eq_some_iff.mp mergedEq with ⟨joined, joinedEq, remaining⟩
      rw [List.forall_mem_cons] at formedOthers parts
      have formedJoined := mergeInto_wellFormed formed formedOthers.1 joinedEq
      have absorbed := mergeInto_absorbs equivalence formed formedOthers.1 parts.1 joinedEq
      have still : ∀ other ∈ others, other.IsProjectionOf joined := fun other member =>
        (parts.2 other member).trans JsonNumber.sameValue_equivalence
          (absorbed.value equivalence).2
      exact (ih formedJoined formedOthers.2 still remaining).trans equivalence absorbed

/-- Equivalent values merge to equivalent ones. -/
theorem mergeAll_congr {first first' merged merged' : Json} {others others' : List Json}
    (formed : ∀ value ∈ first :: others, value.WellFormed)
    (formed' : ∀ value ∈ first' :: others', value.WellFormed)
    (sameFirst : EquivalentBy numbers first first')
    (sameOthers : List.Forall₂ (EquivalentBy numbers) others others')
    (mergedEq : mergeAll? first others = some merged)
    (mergedEq' : mergeAll? first' others' = some merged') :
    EquivalentBy numbers merged merged' := by
  induction sameOthers generalizing first first' with
  | nil =>
      obtain rfl := Option.some.inj mergedEq
      obtain rfl := Option.some.inj mergedEq'
      exact sameFirst
  | cons sameHead sameTail ih =>
      rw [mergeAll?, List.foldlM_cons] at mergedEq mergedEq'
      rcases Option.bind_eq_some_iff.mp mergedEq with ⟨joined, joinedEq, remaining⟩
      rcases Option.bind_eq_some_iff.mp mergedEq' with ⟨joined', joinedEq', remaining'⟩
      simp only [List.forall_mem_cons] at formed formed'
      apply ih _ _ _ remaining remaining'
      · exact List.forall_mem_cons.mpr
          ⟨mergeInto_wellFormed formed.1 formed.2.1 joinedEq, formed.2.2⟩
      · exact List.forall_mem_cons.mpr
          ⟨mergeInto_wellFormed formed'.1 formed'.2.1 joinedEq', formed'.2.2⟩
      · exact mergeInto_congr formed.1 formed.2.1 formed'.1 formed'.2.1 sameFirst sameHead
          joinedEq joinedEq'

end ToolGate.Json
