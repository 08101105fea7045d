import ToolGate.Proofs.Dispatcher
import ToolGate.Proofs.Validator.Intersection
import ToolGate.Proofs.Validator.Rules

/-!
# Outputs are accepted again

A validator that accepts a value accepts everything between its output and
the value.  The output itself is such a value, so it is accepted again: a
union may take another branch for it, and an intersection finds it between
the output of each branch and the value.
-/

namespace ToolGate

open Json

namespace Validator

open Verdict ValidatorKind

/-- With a value the validator accepts everything between the output for it and the value. -/
def AcceptsBetween (validator : Validator) : Prop :=
  ∀ value output between : Json, value.WellFormed → between.WellFormed →
    validator.validate value = .ok output → output.IsProjectionOf between →
      between.IsProjectionOf value → ∃ result, validator.validate between = .ok result

section Containers

variable {description : String}

/-- Between arrays the elements lie between elements. -/
theorem array_acceptsBetween {items : Validator} {minItems maxItems : Option UInt64}
    (inside : items.AcceptsBetween) :
    AcceptsBetween ⟨.array ⟨some items, minItems, maxItems⟩, description⟩ := by
  intro value output between formed formedBetween accepted contains below
  rcases validate_array_some_ok.mp accepted with
    ⟨elements, results, rfl, sized, correspond, rfl⟩
  rcases projectionBy_array_right.mp below with ⟨others, rfl, onElements⟩
  rw [wellFormed_array] at formed formedBetween
  have containing : List.Forall₂ (fun element other => ∃ result,
      items.validate element = .ok result ∧ result.IsProjectionOf other)
      elements others :=
    correspond.comp (projectionBy_array_iff.mp contains)
      fun element _ result other accepted contained => ⟨result, accepted, contained⟩
  have both := List.Forall₂.mp (fun _ _ first second => And.intro first second)
    containing onElements.flip
  have again : ∀ other ∈ others, ∃ result, items.validate other = .ok result := by
    intro other member
    rcases both.exists_of_mem_right member with
      ⟨element, listed, ⟨result, accepted, contained⟩, part⟩
    exact inside element result other (formed element listed) (formedBetween other member)
      accepted contained part
  rcases List.Forall₂.exists_of_forall again with ⟨outputs, correspondAgain⟩
  rw [← onElements.length_eq] at sized
  exact ⟨_, validate_array_some_ok.mpr ⟨others, outputs, rfl, sized, correspondAgain, rfl⟩⟩

/-- Between arrays for a tuple the elements lie between elements for the same slot. -/
theorem tuple_acceptsBetween {slots : List Validator}
    (inside : ∀ slot ∈ slots, slot.AcceptsBetween) :
    AcceptsBetween ⟨.tuple slots, description⟩ := by
  intro value output between formed formedBetween accepted contains below
  rcases validate_tuple_ok.mp accepted with ⟨elements, results, rfl, arity, correspond, rfl⟩
  rcases projectionBy_array_right.mp below with ⟨others, rfl, onElements⟩
  rw [wellFormed_array] at formed formedBetween
  have containing : List.Forall₂ (fun part other => ∃ result,
      part.1.validate part.2 = .ok result ∧ result.IsProjectionOf other)
      (slots.zip elements) others :=
    correspond.comp (projectionBy_array_iff.mp contains)
      fun part _ result other accepted contained => ⟨result, accepted, contained⟩
  have parts : List.Forall₂ (fun element other => other.IsProjectionOf element)
      ((slots.zip elements).map Prod.snd) others := by
    rw [List.map_snd_zip (Nat.le_of_eq arity)]
    exact onElements.flip
  have both := List.Forall₂.mp (fun _ _ first second => And.intro first second)
    containing (List.forall₂_map_left_iff.mp parts)
  have again : List.Forall₂ (fun part other => ∃ result, part.1.validate other = .ok result)
      (slots.zip elements) others := by
    apply both.imp_of_mem
    rintro part member other listed ⟨⟨result, accepted, contained⟩, below⟩
    have pair := List.of_mem_zip member
    exact inside part.1 pair.1 part.2 result other (formed part.2 pair.2)
      (formedBetween other listed) accepted contained below
  have onSlots : List.Forall₂ (fun slot other => ∃ result, slot.validate other = .ok result)
      slots others := by
    rw [← List.map_fst_zip (Nat.le_of_eq arity.symm)]
    exact List.forall₂_map_left_iff.mpr again
  have accepts : ∀ part ∈ slots.zip others, ∃ result, part.1.validate part.2 = .ok result :=
    fun part member => List.forall₂_zip onSlots member
  rcases List.Forall₂.exists_of_forall accepts with ⟨outputs, correspondAgain⟩
  exact ⟨_, validate_tuple_ok.mpr ⟨others, outputs, rfl,
    onElements.length_eq.trans arity, correspondAgain, rfl⟩⟩

/-- Between objects the members lie between members, and a missing one was missing before. -/
theorem object_acceptsBetween {fields : List (String × Field)} {policy : UnknownKeys}
    (distinct : Entries.Distinct fields)
    (inside : ∀ entry ∈ fields, entry.2.validator.AcceptsBetween) :
    AcceptsBetween ⟨.object ⟨fields, policy⟩, description⟩ := by
  intro value output between formed formedBetween accepted contains below
  rcases validate_object_ok.mp accepted with ⟨entries, rfl, accepts, declared, rfl⟩
  rcases projectionBy_object_right.mp below with ⟨others, rfl, onMembers⟩
  have contained := projectionBy_object_iff.mp contains
  -- a field that finds a member in the value has its output among the others
  have found : ∀ entry ∈ fields, ∀ member, entries.lookup entry.1 = some member →
      ∃ result other, entry.2.validator.validate member = .ok result ∧
        others.lookup entry.1 = some other ∧ result.IsProjectionOf other := by
    intro entry listed member present
    rcases (accepts entry listed).present member present with ⟨result, isOutput⟩
    have inOutput : (objectOutput fields policy entries).lookup entry.1 = some result := by
      rw [lookup_objectOutput policy entries distinct,
        (Entries.lookup_eq_some_iff_mem distinct).mpr listed]
      simp [present, isOutput]
    rcases contained.lookup inOutput with ⟨other, inOthers, part⟩
    exact ⟨result, other, isOutput, inOthers, part⟩
  refine ⟨_, validate_object_ok.mpr ⟨others, rfl, ?_, ?_, rfl⟩⟩
  · intro entry listed
    constructor
    · intro other inOthers
      rcases onMembers.lookup inOthers with ⟨member, present, part⟩
      rcases found entry listed member present with ⟨result, again, isOutput, inAgain, contains⟩
      obtain rfl : again = other := Option.some.inj (inAgain.symm.trans inOthers)
      exact inside entry listed member result again (formed.lookup present)
        (formedBetween.lookup inOthers) isOutput contains part
    · intro absent
      apply (accepts entry listed).absent
      cases present : entries.lookup entry.1 with
      | none => rfl
      | some member =>
          rcases found entry listed member present with ⟨_, other, _, inOthers, _⟩
          cases absent.symm.trans inOthers
  · intro strict other member
    rcases onMembers other member with ⟨present, inEntries, _⟩
    exact declared strict (other.1, present) (Entries.mem_of_lookup inEntries)

/-- Between objects for a record the members lie between members. -/
theorem record_acceptsBetween {values : Validator} (inside : values.AcceptsBetween) :
    AcceptsBetween ⟨.record values, description⟩ := by
  intro value output between formed formedBetween accepted contains below
  rcases validate_record_ok.mp accepted with ⟨entries, results, rfl, correspond, rfl⟩
  rcases projectionBy_object_right.mp below with ⟨others, rfl, onMembers⟩
  have contained := projectionBy_object_iff.mp contains
  rcases wellFormed_object.mp formedBetween with ⟨distinctOthers, formedOthers⟩
  have again : ∀ other ∈ others, ∃ result : String × Json,
      result.1 = other.1 ∧ values.validate other.2 = .ok result.2 := by
    intro other member
    rcases onMembers other member with ⟨value, present, part⟩
    rcases correspond.exists_of_mem_left (Entries.mem_of_lookup present) with
      ⟨result, listed, same, accepted⟩
    rcases contained result listed with ⟨partner, inOthers, resultPart⟩
    rw [same, (Entries.lookup_eq_some_iff_mem distinctOthers).mpr member] at inOthers
    cases inOthers
    rcases inside value result.2 other.2 (formed.lookup present) (formedOthers other member)
        accepted resultPart part with
      ⟨output, acceptedAgain⟩
    exact ⟨(other.1, output), rfl, acceptedAgain⟩
  rcases List.Forall₂.exists_of_forall again with ⟨outputs, correspondAgain⟩
  exact ⟨_, validate_record_ok.mpr ⟨others, outputs, rfl, correspondAgain, rfl⟩⟩

/-- A value between the merged outputs and the value is above the output of each branch. -/
theorem intersection_acceptsBetween {branches : List Validator}
    (sound : ∀ branch ∈ branches, branch.WellFormed)
    (inside : ∀ branch ∈ branches, branch.AcceptsBetween) :
    AcceptsBetween ⟨.intersection branches, description⟩ := by
  intro value output between formed formedBetween accepted contains below
  have equivalence := JsonNumber.sameValue_equivalence
  rcases intersection_output equivalence formed (fun branch member _ accepted =>
      output_isProjectionOf (sound branch member) formed accepted) accepted with
    ⟨_, _, outputs⟩
  apply intersection_ok_of_branches sound description formedBetween
  intro branch member
  rcases outputs branch member with ⟨result, branchAccepted, contained⟩
  exact inside branch member value result between formed formedBetween branchAccepted
    (contained.trans equivalence contains) below

end Containers

/-- Every validator accepts what lies between an output and its value. -/
theorem acceptsBetween {validator : Validator} (sound : validator.WellFormed) :
    validator.AcceptsBetween := by
  induction validator with
  | array items minItems maxItems description ih =>
      cases items with
      | none =>
          intro value output between _ _ accepted _ below
          rcases validate_array_none_ok.mp accepted with ⟨elements, rfl, sized, _⟩
          rcases projectionBy_array_right.mp below with ⟨others, rfl, onElements⟩
          rw [← onElements.length_eq] at sized
          exact ⟨_, validate_array_none_ok.mpr ⟨others, rfl, sized, rfl⟩⟩
      | some items => exact array_acceptsBetween (ih items rfl (sound.child List.mem_cons_self))
  | tuple slots description ih =>
      exact tuple_acceptsBetween fun slot member => ih slot member (sound.child member)
  | object fields policy description ih =>
      exact object_acceptsBetween sound.here fun entry member =>
        ih entry member (sound.field member)
  | record values description ih =>
      exact record_acceptsBetween (ih (sound.child List.mem_cons_self))
  | intersection branches description ih =>
      exact intersection_acceptsBetween (fun branch member => sound.child member)
        fun branch member => ih branch member (sound.child member)
  | union branches description ih =>
      intro value output between formed formedBetween accepted contains below
      rcases exists_branch_of_union_ok accepted with ⟨branch, member, result⟩
      apply accepts_iff.mp
      apply accepts_union_iff.mpr
      exact ⟨branch, member, accepts_iff.mpr (ih branch member (sound.child member) value output
        between formed formedBetween result contains below)⟩
  | nullable inner description ih =>
      intro value output between formed formedBetween accepted contains below
      rcases validate_nullable_ok.mp accepted with ⟨rfl, _⟩ | ⟨notNull, accepted⟩
      · obtain rfl := projectionBy_null_right.mp below
        exact ⟨_, validate_nullable_ok.mpr (.inl ⟨rfl, rfl⟩)⟩
      · rcases ih (sound.child List.mem_cons_self) value output between formed formedBetween
            accepted contains below with
          ⟨result, again⟩
        refine ⟨result, validate_nullable_ok.mpr (.inr ⟨?_, again⟩)⟩
        rintro rfl
        exact notNull (projectionBy_null_left.mp below)
  | literal expected description =>
      intro value output between formed formedBetween accepted contains below
      rcases validate_literal_ok.mp accepted with ⟨same, rfl⟩
      have equivalence := JsonNumber.sameValue_equivalence
      have covers := ((equalBy_iff_projections equivalence sound.here formed).mp same).2
      have equal := (equalBy_iff_projections equivalence sound.here formedBetween).mpr
        ⟨contains, below.trans equivalence covers⟩
      exact ⟨_, validate_literal_ok.mpr ⟨equal, rfl⟩⟩
  | string rules description =>
      intro value output between _ _ accepted _ below
      rcases validate_string_ok.mp accepted with ⟨text, rfl, clean, _⟩
      obtain rfl := projectionBy_string_right.mp below
      exact ⟨_, validate_string_ok.mpr ⟨text, rfl, clean, rfl⟩⟩
  | number rules description =>
      intro value output between _ _ accepted _ below
      rcases validate_number_ok.mp accepted with ⟨n, rfl, clean, _⟩
      rcases projectionBy_number_right.mp below with ⟨m, rfl, same⟩
      have units := JsonNumber.sameValue_iff.mp same
      exact ⟨_, validate_number_ok.mpr
        ⟨m, rfl, (rules.violations_congr units).trans clean, rfl⟩⟩
  | integer rules description =>
      intro value output between _ _ accepted _ below
      rcases validate_integer_ok.mp accepted with ⟨n, rfl, whole, clean, _⟩
      rcases projectionBy_number_right.mp below with ⟨m, rfl, same⟩
      have units := JsonNumber.sameValue_iff.mp same
      exact ⟨_, validate_integer_ok.mpr ⟨m, rfl, (Binary64.isWhole_congr units).trans whole,
        (rules.violations_congr units).trans clean, rfl⟩⟩
  | boolean description =>
      intro value output between _ _ accepted _ below
      rcases validate_boolean_ok.mp accepted with ⟨truth, rfl, _⟩
      obtain rfl := projectionBy_bool_right.mp below
      exact ⟨_, validate_boolean_ok.mpr ⟨truth, rfl, rfl⟩⟩
  | null description =>
      intro value output between _ _ accepted _ below
      rcases validate_null_ok.mp accepted with ⟨rfl, _⟩
      obtain rfl := projectionBy_null_right.mp below
      exact ⟨_, validate_null_ok.mpr ⟨rfl, rfl⟩⟩
  | unknown description => exact fun _ _ between _ _ _ _ _ => ⟨between, validate_unknown_ok.mpr rfl⟩

theorem accepts_output {validator : Validator} (sound : validator.WellFormed)
    {value output : Json} (formed : value.WellFormed)
    (accepted : validator.validate value = .ok output) : validator.accepts output = true := by
  rcases output_isProjectionOf sound formed accepted with ⟨formedOutput, below⟩
  have reflexive := projectionBy_refl JsonNumber.sameValue_equivalence formedOutput
  exact accepts_iff.mpr
    (acceptsBetween sound value output output formed formedOutput accepted reflexive below)

/--
Outputs are accepted again.  So whatever a call adds to the forwarded calls
carries arguments that the schema of its tool accepts.
-/
theorem outputs_accepted_again :
    (∀ (validator : Validator) (value output : Json), validator.WellFormed → value.WellFormed →
      validator.validate value = .ok output → validator.accepts output = true) ∧
    (∀ (dispatcher : Dispatcher) (hub : HubLink) (name : String) (arguments : Json)
        (call : ForwardedCall),
      (∀ tool, dispatcher.registry.get? name = some tool → tool.shape.WellFormed) →
      arguments.WellFormed → call ∈ (dispatcher.call hub name arguments).1.forwarded →
        call ∈ dispatcher.forwarded ∨
          ∃ tool, dispatcher.registry.get? name = some tool ∧
            tool.shape.toValidator.accepts call.arguments = true) := by
  constructor
  · intro validator value output sound formed accepted
    exact accepts_output sound formed accepted
  · intro dispatcher hub name arguments call sound formed forwarded
    rcases Dispatcher.mem_forwarded_call forwarded with before | prepared
    · exact .inl before
    · rcases Dispatcher.prepare_eq_ok_iff.mp prepared with
        ⟨tool, output, found, _, accepted, rfl⟩
      exact .inr ⟨tool, found, accepts_output (sound tool found) formed accepted⟩

/-- A union takes an earlier branch for its own output, also behind a dispatcher. -/
theorem outputs_accepted_again_strict_strip :
    let fields : List (String × Field) := [("a", ⟨.ofKind .boolean, false⟩)]
    let validator : Validator :=
      .ofKind (.union [.ofKind (.object ⟨fields, .strict⟩), .ofKind (.object ⟨fields, .strip⟩)])
    let shape : Shape := ⟨[("x", ⟨validator, false⟩)], .strip⟩
    let dispatcher : Dispatcher :=
      { mode := .gateway, registry := { tools := [("s__t", ⟨"s", "t", "", shape, .null⟩)] } }
    let value : Json := .object [("a", .bool true), ("b", .null)]
    (∃ output, validator.validate value = .ok output ∧ validator.accepts output = true) ∧
      ∃ call ∈ (dispatcher.call (.dryRun .null) "s__t" (.object [("x", value)])).1.forwarded,
        shape.toValidator.accepts call.arguments = true := by
  intro fields validator shape dispatcher value
  have soundShape : shape.WellFormed := by
    simp [shape, validator, fields, Shape.WellFormed, WellFormed, ofKind, everywhere_iff,
      ValidatorKind.Sound, ValidatorKind.children, Entries.distinct_nil]
  have formed : value.WellFormed := by
    simp [value, Entries.distinct_nil]
  constructor
  · have accepts : validator.accepts value = true := by decide
    rcases accepts_iff.mp accepts with ⟨output, accepted⟩
    have sound : validator.WellFormed := soundShape.child List.mem_cons_self
    exact ⟨output, accepted, outputs_accepted_again.1 validator value output sound formed accepted⟩
  · refine ⟨_, List.mem_singleton.mpr rfl, ?_⟩
    have again := outputs_accepted_again.2 dispatcher (.dryRun .null) "s__t"
      (.object [("x", value)]) _ ?_ ?_ (List.mem_singleton.mpr rfl)
    · rcases again with before | ⟨tool, found, accepted⟩
      · cases before
      · cases found
        exact accepted
    · intro tool found
      cases found
      exact soundShape
    · simp [formed, Entries.distinct_nil]

end Validator

end ToolGate
