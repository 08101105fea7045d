import ToolGate.Proofs.Number.Rounding
import ToolGate.Proofs.Schema.Correctness

/-!
# Declared types

A node that goes by its type accepts values of this type alone, whatever
other rules it has, with one exception: where the values of a type can be
listed, the list counts and not the type.  A value that is listed although it
does not have the type is accepted under every form it is equal to, and it is
the only way around the type.
-/

namespace ToolGate

/-- The types that say something about the values of their nodes. -/
def SchemaType.Enforced : SchemaType → Prop
  | .object | .unrecognized _ => False
  | _ => True

/-- The value is of the type that a node declares; an integer is any whole number. -/
inductive Json.HasType : SchemaType → Json → Prop where
  | string (text : String) : HasType .string (.string text)
  | number (n : JsonNumber) : HasType .number (.number n)
  | integer {n : JsonNumber} (whole : n.IsWhole) : HasType .integer (.number n)
  | boolean (truth : Bool) : HasType .boolean (.bool truth)
  | array (elements : List Json) : HasType .array (.array elements)
  | null : HasType .null .null

/-- A number is whole before rounding if it is afterwards. -/
theorem JsonNumber.isWhole_of_toBinary64 {n : JsonNumber}
    (whole : (Binary64.unitsPerOne : Int) ∣ n.toBinary64.units) : n.IsWhole := by
  cases n with
  | integer i => exact Int.dvd_mul_left _ _
  | float x => exact whole

variable {type : SchemaType} {value : Json}

/-- A value has every type of a value that it is equal to. -/
theorem Json.HasType.congr {expected : Json} (typed : expected.HasType type)
    (same : expected.sameValue value = true) : value.HasType type := by
  cases typed with
  | integer whole =>
      cases value with
      | number m =>
          have equal := JsonNumber.sameValue_iff.mp (by simpa [sameValue, equalBy] using same)
          exact .integer (JsonNumber.isWhole_of_toBinary64
            (equal ▸ JsonNumber.isWhole_toBinary64 whole))
      | _ => simp [sameValue, equalBy] at same
  | string text =>
      cases value with
      | string other => exact .string other
      | _ => simp [sameValue, equalBy] at same
  | number n =>
      cases value with
      | number m => exact .number m
      | _ => simp [sameValue, equalBy] at same
  | boolean truth =>
      cases value with
      | bool other => exact .boolean other
      | _ => simp [sameValue, equalBy] at same
  | array elements =>
      cases value with
      | array others => exact .array others
      | _ => simp [sameValue, equalBy] at same
  | null =>
      cases value with
      | null => exact .null
      | _ => simp [sameValue, equalBy] at same

namespace SchemaNode

open Validator

variable {policy : UnknownKeys} {node : SchemaNode}

/-- Without a list of values a node accepts values of its type. -/
theorem hasType_of_accepts_core (decided : node.DecidedByType (some type))
    (enforced : type.Enforced) (unlisted : type.Listable → node.keywords.Unlisted)
    (accepted : (node.core policy).accepts value = true) : value.HasType type := by
  cases type with
  | string =>
      rw [core_eq_of_typed decided] at accepted
      obtain ⟨text, rfl, -⟩ := (accepts_compileString_unlisted (unlisted trivial)).mp accepted
      exact .string text
  | number =>
      rw [core_eq_of_typed decided] at accepted
      obtain ⟨n, rfl, -⟩ := (accepts_compileNumber_unlisted (unlisted trivial)).mp accepted
      exact .number n
  | integer =>
      rw [core_eq_of_typed decided] at accepted
      obtain ⟨n, rfl, whole, -⟩ :=
        (accepts_compileInteger_unlisted (unlisted trivial)).mp accepted
      exact .integer (JsonNumber.isWhole_of_toBinary64 whole)
  | boolean =>
      rw [core_eq_of_typed decided] at accepted
      obtain ⟨truth, rfl⟩ := accepts_boolean_iff.mp accepted
      exact .boolean truth
  | null =>
      rw [core_eq_of_typed decided] at accepted
      obtain rfl := accepts_null_iff.mp accepted
      exact .null
  | array =>
      cases slots : node.prefixItems with
      | some nodes =>
          obtain ⟨elements, rfl, -⟩ := (accepts_core_prefixItems decided slots).mp accepted
          exact .array elements
      | none =>
          cases given : node.items with
          | some items =>
              obtain ⟨elements, rfl, -⟩ := (accepts_core_items decided slots given).mp accepted
              exact .array elements
          | none =>
              obtain ⟨elements, rfl⟩ := (accepts_core_bareArray decided slots given).mp accepted
              exact .array elements
  | object => cases enforced
  | unrecognized name => cases enforced

/--
What a node accepts is of its type, is the `null` of a nullable node, or is
equal to a listed value that is not of the type; and everything that is equal
to a listed value is accepted.
-/
theorem declared_types_enforced (policy : UnknownKeys) {node : SchemaNode} {type : SchemaType}
    (decided : node.DecidedByType (some type)) (enforced : type.Enforced) :
    (∀ value, (node.compile policy).accepts value = true →
      (node.keywords.nullable = true ∧ value = .null) ∨ value.HasType type ∨
        (type.Listable ∧ ∃ values, node.keywords.enumeration = some values ∧
          ∃ listed ∈ values, ¬ listed.HasType type ∧ listed.sameValue value = true))
    ∧ (type.Listable → ∀ values, node.keywords.enumeration = some values →
        ∀ listed ∈ values, ∀ value, listed.sameValue value = true →
          (node.compile policy).accepts value = true) := by
  constructor
  · intro value accepted
    rw [compile_eq, accepts_finish] at accepted
    refine accepted.imp_right fun accepted => ?_
    by_cases free : type.Listable → node.keywords.Unlisted
    · exact .inl (hasType_of_accepts_core decided enforced free accepted)
    · obtain ⟨listable, others⟩ := Classical.not_imp.mp free
      obtain ⟨values, given⟩ :=
        Option.ne_none_iff_exists'.mp (mt enumeration?_eq_none_iff.mp others)
      obtain ⟨listed, member, same⟩ := (accepts_core_listed decided listable given).mp accepted
      by_cases typed : listed.HasType type
      · exact .inl (typed.congr same)
      · exact .inr ⟨listable, values, (enumeration?_eq_some_iff.mp given).1, listed, member,
          typed, same⟩
  · intro listable values given listed member value same
    rw [compile_eq, accepts_finish]
    have counted := enumeration?_eq_some_iff.mpr ⟨given, List.ne_nil_of_mem member⟩
    exact .inr ((accepts_core_listed decided listable counted).mpr ⟨listed, member, same⟩)

/-- An integer node that lists a word beside a number, and is nullable. -/
theorem declared_types_enforced_listed_word :
    let node := ofJson (.object [("type", .string "integer"),
      ("enum", .array [.string "low", .ofNat 2]), ("nullable", .bool true)])
    let value : Json := .string "low"
    (node.DecidedByType (some .integer) ∧ SchemaType.integer.Enforced
      ∧ (node.compile .strict).accepts value = true)
    ∧ ((node.keywords.nullable = true ∧ value = .null) ∨ value.HasType .integer ∨
        (SchemaType.integer.Listable ∧ ∃ values, node.keywords.enumeration = some values ∧
          ∃ listed ∈ values, ¬ listed.HasType .integer ∧ listed.sameValue value = true)) := by
  intro node value
  have decided : node.DecidedByType (some .integer) := ⟨rfl, rfl, rfl, rfl⟩
  obtain ⟨only, every⟩ := declared_types_enforced .strict decided trivial
  have accepted : (node.compile .strict).accepts value = true :=
    every trivial _ rfl value List.mem_cons_self value (by decide)
  exact ⟨⟨decided, trivial, accepted⟩, only value accepted⟩

/-- A string node that lists a number accepts the number, which is no string. -/
theorem listed_number_for_string :
    let node := ofJson (.object [("type", .string "string"), ("enum", .array [.ofNat 1])])
    let value : Json := .ofNat 1
    (node.DecidedByType (some .string) ∧ SchemaType.string.Enforced
      ∧ (node.compile .passthrough).accepts value = true)
    ∧ ¬ (node.keywords.nullable = true ∧ value = .null)
    ∧ ¬ value.HasType .string := by
  intro node value
  have decided : node.DecidedByType (some .string) := ⟨rfl, rfl, rfl, rfl⟩
  have other : ¬ (Json.ofNat 1).HasType .string := nofun
  exact ⟨⟨decided, trivial, by decide +kernel⟩, fun null => Json.noConfusion null.2, other⟩

end SchemaNode

end ToolGate
