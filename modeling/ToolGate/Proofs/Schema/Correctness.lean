import ToolGate.Proofs.Schema.Compilation
import ToolGate.Proofs.Schema.Semantics
import ToolGate.Proofs.Validator.Intersection
import ToolGate.Proofs.Validator.Rules

/-!
# Compilation is correct

The validator of a well-formed node accepts exactly what the node admits,
and it accepts absence exactly if the node is not constrained.  Each part of
the compiler has one lemma that says what its validator accepts; soundness
then follows the tree of the node, and completeness the rules by which a
value is admitted.
-/

namespace ToolGate

open Validator

namespace SchemaNode

section Parts

variable {keywords : Keywords} {value : Json}

/-- The layer for `null` is all that finishing adds. -/
theorem accepts_finish {validator : Validator} :
    (finish keywords validator).accepts value = true ↔
      keywords.nullable = true ∧ value = .null ∨ validator.accepts value = true := by
  rcases validator with ⟨kind, description⟩
  have described := accepts_congr_description kind (keywords.description.getD "") description value
  by_cases nullable : keywords.nullable = true
  · simp only [finish, nullable, ↓reduceIte, Validator.nullable, accepts_nullable_iff,
      withDescription, described, true_and]
  · simp only [finish, nullable, Bool.false_eq_true, ↓reduceIte, withDescription, described,
      false_and, false_or]

/-- A finished validator may be missing if the validator may. -/
theorem allowsAbsent_finish (keywords : Keywords) (validator : Validator) :
    (finish keywords validator).allowsAbsent = validator.allowsAbsent := by
  rcases validator with ⟨kind, description⟩
  by_cases nullable : keywords.nullable = true <;>
    simp [finish, nullable, Validator.nullable, withDescription, allowsAbsent, kindAllowsAbsent]

theorem accepts_literals {values : List Json} :
    (literals values).accepts value = true ↔
      ∃ expected ∈ values, expected.sameValue value = true := by
  have single : ∀ expected : Json,
      (Validator.literal expected).accepts value = true ↔ expected.sameValue value = true :=
    fun _ => accepts_literal_iff
  unfold literals
  split
  · simp [single]
  · simp [ofKind, accepts_union_iff, single]

theorem accepts_compose_union {branches : List Validator} :
    (compose .union branches).accepts value = true ↔
      branches = [] ∨ ∃ branch ∈ branches, branch.accepts value = true := by
  match branches with
  | [] => simp [compose, unknown, ofKind, accepts_unknown]
  | [branch] => simp [compose]
  | first :: second :: rest => simp only [compose, ofKind, accepts_union_iff]; simp

theorem accepts_compose_intersection {branches : List Validator}
    (sound : ∀ branch ∈ branches, branch.WellFormed) (formed : value.WellFormed) :
    (compose .intersection branches).accepts value = true ↔
      ∀ branch ∈ branches, branch.accepts value = true := by
  match branches with
  | [] => simp [compose, unknown, ofKind, accepts_unknown]
  | [branch] => simp [compose]
  | first :: second :: rest => simp only [compose, ofKind, accepts_intersection_iff sound formed]

/-- A composition may be missing if it is of no branches or of one that may. -/
theorem allowsAbsent_compose {join : List Validator → ValidatorKind}
    (constrained : ∀ branches, kindAllowsAbsent (join branches) = false)
    (branches : List Validator) :
    (compose join branches).allowsAbsent = true ↔
      branches = [] ∨ ∃ branch, branches = [branch] ∧ branch.allowsAbsent = true := by
  match branches with
  | [] => simp [compose, unknown, ofKind, allowsAbsent, kindAllowsAbsent]
  | [branch] => simp [compose]
  | first :: second :: rest => simp [compose, ofKind, allowsAbsent, constrained]

theorem enumeration?_eq_none_iff : enumeration? keywords = none ↔ keywords.Unlisted := by
  rw [enumeration?, Keywords.Unlisted]
  cases keywords.enumeration with
  | none => simp
  | some values => cases values <;> simp

/-- A list of strings may be checked by itself or as literals. -/
theorem accepts_allowed {allowed : List String} :
    accepts (ofKind (.string { allowed := some allowed })) value = true ↔
      ∃ expected ∈ allowed.map Json.string, expected.sameValue value = true := by
  have clean : ∀ text, StringRules.violations { allowed := some allowed } text = [] ↔
      text ∈ allowed :=
    fun text => StringRules.violations_allowed rfl
  rw [ofKind, accepts_string_iff]
  simp only [clean, List.mem_map, exists_exists_and_eq_and]
  constructor
  · rintro ⟨text, rfl, listed⟩
    exact ⟨text, listed, by simp [Json.sameValue, Json.equalBy]⟩
  · rintro ⟨text, listed, same⟩
    cases value with
    | string other =>
        obtain rfl : text = other := by simpa [Json.sameValue, Json.equalBy] using same
        exact ⟨text, rfl, listed⟩
    | _ => simp [Json.sameValue, Json.equalBy] at same

/-- The pattern of a compiled string node is the one whose source can be read. -/
theorem admitsText_iff {text : String} :
    StringRules.violations
        { minLength := keywords.minLength
          maxLength := keywords.maxLength
          pattern := keywords.pattern.bind Pattern.whole?
          format := knownFormat? keywords } text = [] ↔
      keywords.AdmitsText text := by
  have patterns : (∀ pattern ∈ keywords.pattern.bind Pattern.whole?, pattern.isMatch text = true) ↔
      ∀ source ∈ keywords.pattern, ∀ pattern ∈ Pattern.whole? source,
        pattern.isMatch text = true := by
    cases keywords.pattern <;> simp
  have formats : (∀ format ∈ knownFormat? keywords, format.accepts text = true) ↔
      ∀ format ∈ keywords.format, format.accepts text = true := by
    unfold knownFormat?
    split
    · rename_i name other
      simp [other, StringFormat.accepts]
    · rfl
  rw [StringRules.violations_eq_nil_iff rfl, patterns, formats]
  constructor
  · rintro ⟨minLength, maxLength, pattern, format⟩
    exact ⟨minLength, maxLength, pattern, format⟩
  · rintro ⟨minLength, maxLength, pattern, format⟩
    exact ⟨minLength, maxLength, pattern, format⟩

/-- With a list of values a string node goes by the list alone. -/
theorem accepts_compileString_listed {values : List Json}
    (given : enumeration? keywords = some values) :
    (compileString keywords).accepts value = true ↔
      ∃ expected ∈ values, expected.sameValue value = true := by
  simp only [compileString, given]
  cases read : strings? values with
  | some allowed =>
      obtain rfl := strings?_eq_some_iff.mp read
      exact accepts_allowed
  | none => exact accepts_literals

theorem accepts_compileString_unlisted (unlisted : keywords.Unlisted) :
    (compileString keywords).accepts value = true ↔
      ∃ text, value = .string text ∧ keywords.AdmitsText text := by
  simp only [compileString, enumeration?_eq_none_iff.mpr unlisted, ofKind, accepts_string_iff,
    admitsText_iff]

/-- With a list of values a number node goes by the list alone. -/
theorem accepts_compileNumber_listed {kind : NumberRules → ValidatorKind} {values : List Json}
    (given : enumeration? keywords = some values) :
    (compileNumber kind keywords).accepts value = true ↔
      ∃ expected ∈ values, expected.sameValue value = true := by
  simp only [compileNumber, given, accepts_literals]

theorem admitsNumber_iff {x : Binary64} :
    (numberRules keywords).violations x = [] ↔ keywords.AdmitsNumber x := by
  rw [NumberRules.violations_eq_nil_iff]
  constructor
  · rintro ⟨minimum, maximum, exclusiveMinimum, exclusiveMaximum⟩
    exact ⟨minimum, maximum, exclusiveMinimum, exclusiveMaximum⟩
  · rintro ⟨minimum, maximum, exclusiveMinimum, exclusiveMaximum⟩
    exact ⟨minimum, maximum, exclusiveMinimum, exclusiveMaximum⟩

theorem accepts_compileNumber_unlisted (unlisted : keywords.Unlisted) :
    (compileNumber .number keywords).accepts value = true ↔
      ∃ n, value = .number n ∧ keywords.AdmitsNumber n.toBinary64 := by
  simp only [compileNumber, enumeration?_eq_none_iff.mpr unlisted, ofKind, accepts_number_iff,
    admitsNumber_iff]

theorem accepts_compileInteger_unlisted (unlisted : keywords.Unlisted) :
    (compileNumber .integer keywords).accepts value = true ↔
      ∃ n, value = .number n ∧ (Binary64.unitsPerOne : Int) ∣ n.toBinary64.units ∧
        keywords.AdmitsNumber n.toBinary64 := by
  simp only [compileNumber, enumeration?_eq_none_iff.mpr unlisted, ofKind, accepts_integer_iff,
    Binary64.isWhole_iff, admitsNumber_iff]

theorem admitsSize_iff {count : Nat} :
    sizeViolations keywords.minItems keywords.maxItems count = [] ↔ keywords.AdmitsSize count := by
  rw [sizeViolations_eq_nil_iff]
  constructor
  · rintro ⟨minItems, maxItems⟩
    exact ⟨minItems, maxItems⟩
  · rintro ⟨minItems, maxItems⟩
    exact ⟨minItems, maxItems⟩

end Parts

variable {policy : UnknownKeys}

theorem allowsAbsent_literals (values : List Json) : (literals values).allowsAbsent = false := by
  unfold literals
  split <;> rfl

theorem allowsAbsent_compileString (keywords : Keywords) :
    (compileString keywords).allowsAbsent = false := by
  unfold compileString
  split
  · split
    · rfl
    · exact allowsAbsent_literals _
  · rfl

theorem allowsAbsent_compileNumber (kind : NumberRules → ValidatorKind)
    (constrained : ∀ rules, kindAllowsAbsent (kind rules) = false) (keywords : Keywords) :
    (compileNumber kind keywords).allowsAbsent = false := by
  unfold compileNumber
  split
  · exact allowsAbsent_literals _
  · exact constrained _

/-- Among the types, an object without further keywords is not constrained. -/
theorem allowsAbsent_core_typed {node : SchemaNode} {type : Option SchemaType}
    (kind : node.kind = .typed type) :
    (node.core policy).allowsAbsent = true ↔
      type = none ∨ (∃ name, type = some (.unrecognized name)) ∨
        type = some .object ∧ node.properties = none ∧ node.additionalProperties = none := by
  unfold core
  rw [kind]
  cases type with
  | none => simp [unknown, ofKind, allowsAbsent, kindAllowsAbsent]
  | some type =>
      cases type with
      | string => simp [allowsAbsent_compileString]
      | number => simp [allowsAbsent_compileNumber .number fun _ => rfl]
      | integer => simp [allowsAbsent_compileNumber .integer fun _ => rfl]
      | boolean => simp [ofKind, allowsAbsent, kindAllowsAbsent]
      | null => simp [ofKind, allowsAbsent, kindAllowsAbsent]
      | object =>
          cases node.properties <;> cases node.additionalProperties <;>
            simp [compileObject, unknown, ofKind, allowsAbsent, kindAllowsAbsent]
      | array =>
          cases node.prefixItems <;> cases node.items <;>
            simp [compileArray, ofKind, allowsAbsent, kindAllowsAbsent]
      | unrecognized name => simp [unknown, ofKind, allowsAbsent, kindAllowsAbsent]

/-- The validator of a node accepts absence exactly if the node is not constrained. -/
theorem allowsAbsent_compile_iff (policy : UnknownKeys) (node : SchemaNode) :
    (node.compile policy).allowsAbsent = true ↔ node.Unconstrained := by
  induction node with
  | step node ih =>
      rw [compile_eq, allowsAbsent_finish]
      constructor
      · intro absent
        cases kind : node.kind with
        | constant value =>
            rw [core, kind] at absent
            cases absent
        | union branches =>
            rcases kind_eq_union_iff.mp kind with ⟨constant, given⟩
            rw [core, kind] at absent
            rcases (allowsAbsent_compose (fun _ => rfl) _).mp absent with none | ⟨_, one, accepted⟩
            · rw [List.map_eq_nil_iff.mp none] at given
              exact .noAlternative constant given
            · rcases List.map_eq_singleton_iff.mp one with ⟨branch, rfl, rfl⟩
              have inside := alternative_mem_children given List.mem_cons_self
              exact .oneAlternative constant given ((ih branch inside).mp accepted)
        | intersection branches =>
            rcases kind_eq_intersection_iff.mp kind with ⟨constant, alternatives, given⟩
            rw [core, kind] at absent
            rcases (allowsAbsent_compose (fun _ => rfl) _).mp absent with none | ⟨_, one, accepted⟩
            · rw [List.map_eq_nil_iff.mp none] at given
              exact .noConjunct constant alternatives given
            · rcases List.map_eq_singleton_iff.mp one with ⟨branch, rfl, rfl⟩
              have inside := conjunct_mem_children given List.mem_cons_self
              exact .oneConjunct constant alternatives given ((ih branch inside).mp accepted)
        | typed type =>
            have decided := kind_eq_typed_iff.mp kind
            rcases (allowsAbsent_core_typed kind).mp absent with
              rfl | ⟨name, rfl⟩ | ⟨rfl, properties, additionalProperties⟩
            · exact .untyped decided
            · exact .unrecognized decided
            · exact .bareObject decided properties additionalProperties
      · intro unconstrained
        cases unconstrained with
        | untyped decided =>
            exact (allowsAbsent_core_typed (kind_eq_typed_iff.mpr decided)).mpr (.inl rfl)
        | unrecognized decided =>
            exact (allowsAbsent_core_typed (kind_eq_typed_iff.mpr decided)).mpr
              (.inr (.inl ⟨_, rfl⟩))
        | bareObject decided properties additionalProperties =>
            exact (allowsAbsent_core_typed (kind_eq_typed_iff.mpr decided)).mpr
              (.inr (.inr ⟨rfl, properties, additionalProperties⟩))
        | noAlternative constant given =>
            rw [core, kind_eq_union_iff.mpr ⟨constant, given⟩]
            rfl
        | oneAlternative constant given inner =>
            rw [core, kind_eq_union_iff.mpr ⟨constant, given⟩]
            exact (ih _ (alternative_mem_children given List.mem_cons_self)).mpr inner
        | noConjunct constant alternatives given =>
            rw [core, kind_eq_intersection_iff.mpr ⟨constant, alternatives, given⟩]
            rfl
        | oneConjunct constant alternatives given inner =>
            rw [core, kind_eq_intersection_iff.mpr ⟨constant, alternatives, given⟩]
            exact (ih _ (conjunct_mem_children given List.mem_cons_self)).mpr inner

section Types

variable {node : SchemaNode} {type : SchemaType} {value : Json}

theorem core_eq_of_typed (decided : node.DecidedByType (some type)) :
    node.core policy = match type with
      | .string => compileString node.keywords
      | .number => compileNumber .number node.keywords
      | .integer => compileNumber .integer node.keywords
      | .boolean => ofKind .boolean
      | .null => ofKind .null
      | .object =>
          compileObject policy
            (node.properties.map fun entries =>
              entries.map fun entry => (entry.1, ⟨entry.2.compile policy, false⟩))
            (node.additionalProperties.map (compile policy))
      | .array =>
          compileArray node.keywords
            (node.prefixItems.map fun nodes => nodes.map (compile policy))
            (node.items.map (compile policy))
      | .unrecognized _ => unknown := by
  rw [core, kind_eq_typed_iff.mpr decided]
  cases type <;> rfl

/-- A list of values decides alone what its node accepts. -/
theorem accepts_core_listed (decided : node.DecidedByType (some type)) (listable : type.Listable)
    {values : List Json} (given : enumeration? node.keywords = some values) :
    (node.core policy).accepts value = true ↔
      ∃ expected ∈ values, expected.sameValue value = true := by
  rw [core_eq_of_typed decided]
  cases type with
  | string => exact accepts_compileString_listed given
  | number => exact accepts_compileNumber_listed given
  | integer => exact accepts_compileNumber_listed given
  | _ => cases listable

theorem accepts_core_properties (decided : node.DecidedByType (some .object))
    {entries : List (String × SchemaNode)} (declared : node.properties = some entries) :
    (node.core policy).accepts value = true ↔
      ∃ members, value = .object members ∧
        (∀ entry ∈ entries,
          (∀ member, members.lookup entry.1 = some member →
            (entry.2.compile policy).accepts member = true) ∧
          (members.lookup entry.1 = none → entry.2.Unconstrained)) ∧
        (policy = .strict → ∀ member ∈ members, member.1 ∈ Entries.names entries) := by
  have names : Entries.names
      (entries.map fun entry => (entry.1, (⟨entry.2.compile policy, false⟩ : Field))) =
        Entries.names entries := by
    simp [Entries.names]
  simp only [core_eq_of_typed decided, declared, Option.map_some, compileObject, ofKind,
    accepts_object_iff, List.forall_mem_map, names, Bool.false_eq_true, false_or,
    allowsAbsent_compile_iff]

theorem accepts_core_additionalProperties (decided : node.DecidedByType (some .object))
    (undeclared : node.properties = none) {values : SchemaNode}
    (given : node.additionalProperties = some values) :
    (node.core policy).accepts value = true ↔
      ∃ members, value = .object members ∧
        ∀ member ∈ members, (values.compile policy).accepts member.2 = true := by
  simp only [core_eq_of_typed decided, undeclared, given, Option.map_some, Option.map_none,
    compileObject, ofKind, accepts_record_iff]

theorem accepts_core_prefixItems (decided : node.DecidedByType (some .array))
    {slots : List SchemaNode} (given : node.prefixItems = some slots) :
    (node.core policy).accepts value = true ↔
      ∃ elements, value = .array elements ∧ elements.length = slots.length ∧
        ∀ pair ∈ slots.zip elements, (pair.1.compile policy).accepts pair.2 = true := by
  simp only [core_eq_of_typed decided, given, Option.map_some, compileArray, ofKind,
    accepts_tuple_iff, List.length_map, List.zip_map_left, List.forall_mem_map, Prod.map_fst,
    Prod.map_snd, id_eq]

theorem accepts_core_items (decided : node.DecidedByType (some .array))
    (noSlots : node.prefixItems = none) {items : SchemaNode} (given : node.items = some items) :
    (node.core policy).accepts value = true ↔
      ∃ elements, value = .array elements ∧ node.keywords.AdmitsSize elements.length ∧
        ∀ element ∈ elements, (items.compile policy).accepts element = true := by
  simp only [core_eq_of_typed decided, noSlots, given, Option.map_some, Option.map_none,
    compileArray, ofKind, accepts_array_some_iff, admitsSize_iff]

theorem accepts_core_bareArray (decided : node.DecidedByType (some .array))
    (noSlots : node.prefixItems = none) (noItems : node.items = none) :
    (node.core policy).accepts value = true ↔ ∃ elements, value = .array elements := by
  simp only [core_eq_of_typed decided, noSlots, noItems, Option.map_none, compileArray, ofKind,
    accepts_array_none_iff]
  simp [sizeViolations]

end Types

section Soundness

variable {node : SchemaNode} {value : Json}

theorem admits_of_listable {type : SchemaType} (decided : node.DecidedByType (some type))
    (listable : type.Listable) (accepted : (node.core policy).accepts value = true) :
    node.Admits policy value := by
  cases given : enumeration? node.keywords with
  | some values =>
      rcases (accepts_core_listed decided listable given).mp accepted with ⟨expected, member, same⟩
      exact .listed decided listable (enumeration?_eq_some_iff.mp given).1 member same
  | none =>
      have unlisted := enumeration?_eq_none_iff.mp given
      rw [core_eq_of_typed decided] at accepted
      cases type with
      | string =>
          rcases (accepts_compileString_unlisted unlisted).mp accepted with ⟨text, rfl, rules⟩
          exact .string decided unlisted rules
      | number =>
          rcases (accepts_compileNumber_unlisted unlisted).mp accepted with ⟨n, rfl, rules⟩
          exact .number decided unlisted rules
      | integer =>
          rcases (accepts_compileInteger_unlisted unlisted).mp accepted with
            ⟨n, rfl, whole, rules⟩
          exact .integer decided unlisted whole rules
      | _ => cases listable

variable (inside : ∀ child ∈ node.children, ∀ value : Json, value.WellFormed →
  (child.compile policy).accepts value = true → child.Admits policy value)
include inside

theorem admits_of_object (decided : node.DecidedByType (some .object)) (formed : value.WellFormed)
    (accepted : (node.core policy).accepts value = true) : node.Admits policy value := by
  cases declared : node.properties with
  | some entries =>
      rcases (accepts_core_properties decided declared).mp accepted with
        ⟨members, rfl, fields, undeclared⟩
      refine .object decided declared ?_ ?_ undeclared
      · intro entry member value found
        exact inside entry.2 (property_mem_children declared member) value
          (formed.lookup found) ((fields entry member).1 value found)
      · intro entry member
        exact (fields entry member).2
  | none =>
      cases given : node.additionalProperties with
      | some values =>
          rcases (accepts_core_additionalProperties decided declared given).mp accepted with
            ⟨members, rfl, all⟩
          apply Admits.record decided declared given
          intro member listed
          exact inside values (additionalProperties_mem_children given) member.2
            ((Json.wellFormed_object.mp formed).2 member listed) (all member listed)
      | none => exact .bareObject decided declared given

theorem admits_of_array (decided : node.DecidedByType (some .array)) (formed : value.WellFormed)
    (accepted : (node.core policy).accepts value = true) : node.Admits policy value := by
  cases slots : node.prefixItems with
  | some nodes =>
      rcases (accepts_core_prefixItems decided slots).mp accepted with
        ⟨elements, rfl, arity, all⟩
      rw [Json.wellFormed_array] at formed
      apply Admits.tuple decided slots arity
      intro pair member
      have both := List.of_mem_zip member
      exact inside pair.1 (slot_mem_children slots both.1) pair.2 (formed pair.2 both.2)
        (all pair member)
  | none =>
      cases given : node.items with
      | some items =>
          rcases (accepts_core_items decided slots given).mp accepted with
            ⟨elements, rfl, size, all⟩
          rw [Json.wellFormed_array] at formed
          apply Admits.array decided slots given size
          intro element member
          exact inside items (items_mem_children given) element (formed element member)
            (all element member)
      | none =>
          rcases (accepts_core_bareArray decided slots given).mp accepted with ⟨elements, rfl⟩
          exact .bareArray decided slots given

omit inside

/-- What the validator of a well-formed node accepts is admitted. -/
theorem admits_of_accepts (formed : node.WellFormed) (formedValue : value.WellFormed)
    (accepted : (node.compile policy).accepts value = true) : node.Admits policy value := by
  induction node generalizing value with
  | step node ih =>
      have inside : ∀ child ∈ node.children, ∀ value : Json, value.WellFormed →
          (child.compile policy).accepts value = true → child.Admits policy value :=
        fun child member _ formedValue => ih child member (formed.child member) formedValue
      rw [compile_eq, accepts_finish] at accepted
      rcases accepted with ⟨nullable, rfl⟩ | accepted
      · exact .nullable nullable
      cases kind : node.kind with
      | constant expected =>
          rw [core, kind] at accepted
          exact .constant (kind_eq_constant_iff.mp kind) (accepts_literal_iff.mp accepted)
      | union branches =>
          rcases kind_eq_union_iff.mp kind with ⟨constant, given⟩
          rw [core, kind] at accepted
          rcases accepts_compose_union.mp accepted with none | ⟨_, member, accepted⟩
          · rw [List.map_eq_nil_iff.mp none] at given
            exact .noAlternative constant given
          · rcases List.mem_map.mp member with ⟨branch, listed, rfl⟩
            exact .alternative constant given listed
              (inside branch (alternative_mem_children given listed) value formedValue accepted)
      | intersection branches =>
          rcases kind_eq_intersection_iff.mp kind with ⟨constant, alternatives, given⟩
          rw [core, kind] at accepted
          have sound : ∀ branch ∈ branches.map (compile policy), branch.WellFormed := by
            rw [List.forall_mem_map]
            exact fun branch member =>
              compile_wellFormed policy (formed.child (conjunct_mem_children given member))
          have all := (accepts_compose_intersection sound formedValue).mp accepted
          rw [List.forall_mem_map] at all
          apply Admits.conjunction constant alternatives given
          intro branch member
          exact inside branch (conjunct_mem_children given member) value formedValue
            (all branch member)
      | typed type =>
          have decided := kind_eq_typed_iff.mp kind
          cases type with
          | none => exact .untyped decided
          | some type =>
              cases type with
              | string => exact admits_of_listable decided trivial accepted
              | number => exact admits_of_listable decided trivial accepted
              | integer => exact admits_of_listable decided trivial accepted
              | boolean =>
                  rw [core_eq_of_typed decided] at accepted
                  rcases accepts_boolean_iff.mp accepted with ⟨truth, rfl⟩
                  exact .boolean decided
              | null =>
                  rw [core_eq_of_typed decided] at accepted
                  obtain rfl := accepts_null_iff.mp accepted
                  exact .null decided
              | object => exact admits_of_object inside decided formedValue accepted
              | array => exact admits_of_array inside decided formedValue accepted
              | unrecognized name => exact .unrecognized decided

end Soundness

theorem accepts_of_core {node : SchemaNode} {value : Json}
    (accepted : (node.core policy).accepts value = true) :
    (node.compile policy).accepts value = true := by
  rw [compile_eq, accepts_finish]
  exact .inr accepted

/-- What a well-formed node admits its validator accepts. -/
theorem accepts_of_admits {node : SchemaNode} {value : Json} (admitted : node.Admits policy value)
    (formed : node.WellFormed) (formedValue : value.WellFormed) :
    (node.compile policy).accepts value = true := by
  induction admitted with
  | nullable nullable =>
      rw [compile_eq, accepts_finish]
      exact .inl ⟨nullable, rfl⟩
  | constant given same =>
      apply accepts_of_core
      rw [core, kind_eq_constant_iff.mpr given]
      exact accepts_literal_iff.mpr same
  | noAlternative constant given =>
      apply accepts_of_core
      rw [core, kind_eq_union_iff.mpr ⟨constant, given⟩]
      exact accepts_compose_union.mpr (.inl rfl)
  | alternative constant given member _ ih =>
      apply accepts_of_core
      rw [core, kind_eq_union_iff.mpr ⟨constant, given⟩]
      apply accepts_compose_union.mpr
      have accepted := ih (formed.child (alternative_mem_children given member)) formedValue
      exact .inr ⟨_, List.mem_map_of_mem member, accepted⟩
  | conjunction constant alternatives given _ ih =>
      apply accepts_of_core
      rw [core, kind_eq_intersection_iff.mpr ⟨constant, alternatives, given⟩]
      apply (accepts_compose_intersection ?_ formedValue).mpr
      · rw [List.forall_mem_map]
        intro branch member
        exact ih branch member (formed.child (conjunct_mem_children given member)) formedValue
      · rw [List.forall_mem_map]
        intro branch member
        exact compile_wellFormed policy (formed.child (conjunct_mem_children given member))
  | listed decided listable given member same =>
      apply accepts_of_core
      have nonempty := enumeration?_eq_some_iff.mpr ⟨given, List.ne_nil_of_mem member⟩
      exact (accepts_core_listed decided listable nonempty).mpr ⟨_, member, same⟩
  | string decided unlisted rules =>
      apply accepts_of_core
      rw [core_eq_of_typed decided]
      exact (accepts_compileString_unlisted unlisted).mpr ⟨_, rfl, rules⟩
  | number decided unlisted rules =>
      apply accepts_of_core
      rw [core_eq_of_typed decided]
      exact (accepts_compileNumber_unlisted unlisted).mpr ⟨_, rfl, rules⟩
  | integer decided unlisted whole rules =>
      apply accepts_of_core
      rw [core_eq_of_typed decided]
      exact (accepts_compileInteger_unlisted unlisted).mpr ⟨_, rfl, whole, rules⟩
  | boolean decided =>
      apply accepts_of_core
      rw [core_eq_of_typed decided]
      exact accepts_boolean_iff.mpr ⟨_, rfl⟩
  | null decided =>
      apply accepts_of_core
      rw [core_eq_of_typed decided]
      exact accepts_null_iff.mpr rfl
  | object decided declared _ absent undeclared ih =>
      apply accepts_of_core
      refine (accepts_core_properties decided declared).mpr ⟨_, rfl, ?_, undeclared⟩
      intro entry member
      constructor
      · intro value found
        exact ih entry member value found (formed.child (property_mem_children declared member))
          (formedValue.lookup found)
      · exact absent entry member
  | record decided properties given _ ih =>
      apply accepts_of_core
      refine (accepts_core_additionalProperties decided properties given).mpr ⟨_, rfl, ?_⟩
      intro member listed
      exact ih member listed (formed.child (additionalProperties_mem_children given))
        ((Json.wellFormed_object.mp formedValue).2 member listed)
  | bareObject decided properties additionalProperties =>
      apply accepts_of_core
      rw [core_eq_of_typed decided, properties, additionalProperties]
      exact accepts_unknown
  | tuple decided given arity _ ih =>
      apply accepts_of_core
      rw [Json.wellFormed_array] at formedValue
      refine (accepts_core_prefixItems decided given).mpr ⟨_, rfl, arity, ?_⟩
      intro pair member
      have both := List.of_mem_zip member
      exact ih pair member (formed.child (slot_mem_children given both.1))
        (formedValue pair.2 both.2)
  | array decided prefixItems given size _ ih =>
      apply accepts_of_core
      rw [Json.wellFormed_array] at formedValue
      refine (accepts_core_items decided prefixItems given).mpr ⟨_, rfl, size, ?_⟩
      intro element member
      exact ih element member (formed.child (items_mem_children given))
        (formedValue element member)
  | bareArray decided prefixItems items =>
      apply accepts_of_core
      exact (accepts_core_bareArray decided prefixItems items).mpr ⟨_, rfl⟩
  | untyped decided =>
      apply accepts_of_core
      rw [core, kind_eq_typed_iff.mpr decided]
      exact accepts_unknown
  | unrecognized decided =>
      apply accepts_of_core
      rw [core_eq_of_typed decided]
      exact accepts_unknown

/--
Compilation is correct: under every policy the validator of a node accepts
a value exactly if the node admits it.
-/
theorem compile_correct (node : SchemaNode) (policy : UnknownKeys) (value : Json)
    (formed : node.WellFormed) (formedValue : value.WellFormed) :
    (node.compile policy).accepts value = true ↔ node.Admits policy value := by
  constructor
  · exact admits_of_accepts formed formedValue
  · intro admitted
    exact accepts_of_admits admitted formed formedValue

/-- A missing member may be described by one unconstrained alternative under a strict policy. -/
theorem compile_correct_missing_member :
    let untyped : SchemaNode := {}
    let node : SchemaNode :=
      { keywords := { type := some .object }
        properties := some [("a", { anyOf := some [untyped] }),
          ("b", { keywords :=
            { type := some .string, enumeration := some [.string "x", .null] } })] }
    let value : Json := .object [("b", .null)]
    (node.compile .strict).accepts value = true ∧ node.Admits .strict value := by
  intro untyped node value
  have formed : node.WellFormed := by
    simp [node, untyped, wellFormed_mk_iff, Entries.distinct_nil, -Prod.forall]
  have formedValue : value.WellFormed := by
    simp [value, Entries.distinct_nil]
  have accepted : (node.compile .strict).accepts value = true := by decide
  exact ⟨accepted, (compile_correct node .strict value formed formedValue).mp accepted⟩

end SchemaNode

end ToolGate
