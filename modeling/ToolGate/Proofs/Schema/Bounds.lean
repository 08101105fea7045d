import ToolGate.Proofs.Number.Rounding
import ToolGate.Proofs.Schema.Correctness

/-!
# Bounds and rounding

A bound is rounded to double precision when a schema is read, and a value
when it is checked.  Rounding keeps the order of numbers but may join
neighbours, so a check errs on one side only: an inclusive bound never
refuses a value that meets it exactly, and an exclusive bound never accepts a
value that fails it exactly.
-/

namespace ToolGate

/-- The bounds of a number. -/
inductive NumberBound where
  | minimum
  | maximum
  | exclusiveMinimum
  | exclusiveMaximum

namespace NumberBound

/-- The keyword that gives a bound. -/
def keyword : NumberBound → String
  | .minimum => "minimum"
  | .maximum => "maximum"
  | .exclusiveMinimum => "exclusiveMinimum"
  | .exclusiveMaximum => "exclusiveMaximum"

/-- A value meets a bound, both given in units. -/
def Holds (bound value : Int) : NumberBound → Prop
  | .minimum => bound ≤ value
  | .maximum => value ≤ bound
  | .exclusiveMinimum => bound < value
  | .exclusiveMaximum => value < bound

/-- The schema of a type with one bound. -/
def schema (type : SchemaType) (bound : JsonNumber) (kind : NumberBound) : Json :=
  .object [("type", .string type.name), (kind.keyword, .number bound)]

/-- The keywords of the schema, in which the bound is rounded. -/
def keywords (type : SchemaType) (bound : JsonNumber) : NumberBound → Keywords
  | .minimum => { type := some type, minimum := some bound.toBinary64 }
  | .maximum => { type := some type, maximum := some bound.toBinary64 }
  | .exclusiveMinimum => { type := some type, exclusiveMinimum := some bound.toBinary64 }
  | .exclusiveMaximum => { type := some type, exclusiveMaximum := some bound.toBinary64 }

/-- A number under a bound of a type is accepted. -/
def Accepts (policy : UnknownKeys) (type : SchemaType) (bound value : JsonNumber)
    (kind : NumberBound) : Prop :=
  ((SchemaNode.ofJson (kind.schema type bound)).compile policy).accepts (.number value) = true

variable {policy : UnknownKeys} {type : SchemaType} {bound value : JsonNumber} {kind : NumberBound}

theorem ofJson_schema (numeric : type = .number ∨ type = .integer) (bound : JsonNumber) :
    SchemaNode.ofJson (kind.schema type bound) = { keywords := kind.keywords type bound } := by
  rcases numeric with rfl | rfl <;> cases kind <;> rfl

theorem admitsNumber_keywords {x : Binary64} :
    (kind.keywords type bound).AdmitsNumber x ↔ kind.Holds bound.toBinary64.units x.units := by
  rw [← SchemaNode.admitsNumber_iff, NumberRules.violations_eq_nil_iff]
  cases kind <;> simp [SchemaNode.numberRules, keywords, Holds]

/-- Both numbers are compared after rounding, and an integer node asks for a whole one. -/
theorem accepts_iff (numeric : type = .number ∨ type = .integer) :
    kind.Accepts policy type bound value ↔
      (type = .integer → (Binary64.unitsPerOne : Int) ∣ value.toBinary64.units) ∧
        kind.Holds bound.toBinary64.units value.toBinary64.units := by
  have plain : (kind.keywords type bound).nullable = false := by cases kind <;> rfl
  have unlisted : (kind.keywords type bound).Unlisted := by
    cases kind <;> simp [keywords, Keywords.Unlisted]
  have decided : SchemaNode.DecidedByType { keywords := kind.keywords type bound } (some type) :=
    ⟨by cases kind <;> rfl, rfl, rfl, by cases kind <;> rfl⟩
  rw [Accepts, ofJson_schema numeric, SchemaNode.compile_eq, SchemaNode.accepts_finish,
    SchemaNode.core_eq_of_typed decided]
  rcases numeric with rfl | rfl
  · simp only [plain, Bool.false_eq_true, reduceCtorEq, and_self, Json.number.injEq,
      SchemaNode.accepts_compileNumber_unlisted unlisted, admitsNumber_keywords, exists_eq_left',
      false_or, IsEmpty.forall_iff, true_and]
  · simp only [plain, Bool.false_eq_true, reduceCtorEq, and_self, Json.number.injEq,
      SchemaNode.accepts_compileInteger_unlisted unlisted, admitsNumber_keywords, exists_eq_left',
      false_or, forall_const]

end NumberBound

open NumberBound in
/--
Rounding errs on one side: what meets an inclusive bound exactly is accepted,
and what an exclusive bound accepts meets it exactly, for number nodes and,
on whole numbers, for integer nodes.
-/
theorem bounds_err_on_one_side (policy : UnknownKeys) (type : SchemaType)
    (bound value : JsonNumber)
    (numeric : type = .number ∨ type = .integer ∧ value.IsWhole) :
    (bound.units ≤ value.units → Accepts policy type bound value .minimum)
    ∧ (value.units ≤ bound.units → Accepts policy type bound value .maximum)
    ∧ (Accepts policy type bound value .exclusiveMinimum → bound.units < value.units)
    ∧ (Accepts policy type bound value .exclusiveMaximum → value.units < bound.units) := by
  have typed : type = .number ∨ type = .integer := numeric.imp_right And.left
  have whole : type = .integer → (Binary64.unitsPerOne : Int) ∣ value.toBinary64.units := by
    rintro rfl
    rcases numeric with other | ⟨_, whole⟩
    · cases other
    · exact JsonNumber.isWhole_toBinary64 whole
  refine ⟨?_, ?_, ?_, ?_⟩
  · intro met
    exact (accepts_iff typed).mpr ⟨whole, JsonNumber.toBinary64_mono met⟩
  · intro met
    exact (accepts_iff typed).mpr ⟨whole, JsonNumber.toBinary64_mono met⟩
  · intro accepted
    exact JsonNumber.lt_of_toBinary64_lt ((accepts_iff typed).mp accepted).2
  · intro accepted
    exact JsonNumber.lt_of_toBinary64_lt ((accepts_iff typed).mp accepted).2

open NumberBound in
/-- Both kinds of bounds at an integer that is no double-precision number, and the one above it. -/
theorem bounds_err_on_one_side_off_grid :
    let bound : JsonNumber := .ofInt 9007199254740993
    let value : JsonNumber := .ofInt 9007199254740994
    (value.IsWhole ∧ bound.units ≤ value.units
      ∧ Accepts .passthrough .integer bound value .exclusiveMinimum)
    ∧ Accepts .passthrough .integer bound value .minimum
    ∧ bound.units < value.units := by
  intro bound value
  have whole : value.IsWhole := Dvd.intro_left _ rfl
  have met : bound.units ≤ value.units := by decide +kernel
  have accepted : Accepts .passthrough .integer bound value .exclusiveMinimum := by
    unfold Accepts
    decide +kernel
  obtain ⟨minimum, _, exclusiveMinimum, _⟩ :=
    bounds_err_on_one_side .passthrough .integer bound value (.inr ⟨rfl, whole⟩)
  exact ⟨⟨whole, met, accepted⟩, minimum met, exclusiveMinimum accepted⟩

-- on the other side the check does err: the integer below such a bound is accepted too
example :
    NumberBound.Accepts .passthrough .number (.ofInt 9007199254740993) (.ofInt 9007199254740992)
      .minimum := by
  unfold NumberBound.Accepts
  decide +kernel

end ToolGate
