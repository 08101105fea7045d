import ToolGate.Proofs.Number.Rounding
import ToolGate.Proofs.Schema.Correctness
import ToolGate.Proofs.Schema.Reading
import ToolGate.Proofs.Validator.Issues

/-!
# Bounds of sizes

A bound of a length or of a number of elements is read as a word of 64 bits:
a number of integer form as it is, one of float form cut off at the greatest
word.  A size below the greatest word cannot tell the difference, so a bound
compares sizes with the number as it was written, whatever its form and
magnitude, and everything that is not a whole number from zero on is no bound.
-/

namespace ToolGate

/-- The value is a number that is exactly a natural number. -/
def Json.IsCount (value : Json) (n : Nat) : Prop :=
  ∃ number : JsonNumber, value = .number number ∧
    number.units = (n * Binary64.unitsPerOne : Nat)

namespace Binary64

variable {x : Binary64}

theorem zero_le_iff : (zero false).le x = true ↔ 0 ≤ x.units := by
  rw [le, decide_eq_true_iff]
  simp [zero, units, magnitude]

/-- A number that is not negative is cut off at the greatest word. -/
theorem toNat_toWord {n : Nat} (exact : x.units = (n * unitsPerOne : Nat)) :
    x.toWord.toNat = min n (UInt64.size - 1) := by
  have magnitude : x.magnitude = n * unitsPerOne := by
    rw [magnitude_eq_natAbs_units, exact, Int.natAbs_natCast]
  have whole : x.floorMagnitude = n := by
    rw [floorMagnitude, magnitude, Nat.mul_div_cancel _ unitsPerOne_pos]
  unfold toWord
  split
  · -- zero is the only number with a sign that is not negative
    rename_i negative
    have zero : n * unitsPerOne = 0 := by
      rw [units, if_pos negative, magnitude] at exact
      omega
    rcases Nat.mul_eq_zero.mp zero with rfl | none
    · rfl
    · exact absurd none unitsPerOne_pos.ne'
  · rw [whole, UInt64.toNat_ofNat_of_lt']
    exact Nat.lt_of_le_of_lt (Nat.min_le_right _ _) (by decide)

/-- A whole number that is not negative is a natural number. -/
theorem exists_units_eq (natural : 0 ≤ x.units) (whole : (unitsPerOne : Int) ∣ x.units) :
    ∃ n : Nat, x.units = (n * unitsPerOne : Nat) := by
  obtain ⟨n, same⟩ := Int.natAbs_dvd_natAbs.mpr whole
  refine ⟨n, ?_⟩
  rw [Int.natAbs_natCast] at same
  rw [Nat.mul_comm, ← same, Int.natAbs_of_nonneg natural]

end Binary64

namespace SchemaNode

/-- A negative integer is rounded to a negative number. -/
theorem not_zero_le_of_negative {i : WordInt} (negative : i.value < 0) :
    ¬ 0 ≤ (JsonNumber.integer i).toBinary64.units := by
  have positive : (0 : Int) < Binary64.unitsPerOne := Int.natCast_pos.mpr Binary64.unitsPerOne_pos
  have below : (JsonNumber.integer i).units ≤ -1 * Binary64.unitsPerOne :=
    Int.mul_le_mul_of_nonneg_right (by omega) positive.le
  have rounded := Binary64.roundedUnits_mono below
  rw [← JsonNumber.units_toBinary64, Binary64.roundedUnits_of_natAbs_le (by decide)] at rounded
  omega

theorem count?_integer {i : WordInt} (natural : 0 ≤ i.value) :
    count? (.number (.integer i)) = some (UInt64.ofNat i.value.toNat) := by
  simp [count?, Json.word?, JsonNumber.word?, WordInt.word?, natural]

theorem count?_negative {i : WordInt} (negative : i.value < 0) :
    count? (.number (.integer i)) = none := by
  have none : i.word? = none := if_neg (by omega)
  simp only [count?, Json.word?, JsonNumber.word?, none, Json.binary64?, Option.orElse_eq_orElse,
    Option.orElse_eq_or, Option.none_or, Bool.and_eq_true, Binary64.zero_le_iff,
    not_zero_le_of_negative negative, false_and, if_false]

theorem count?_float {x : Binary64} {word : UInt64} :
    count? (.number (.float x)) = some word ↔
      0 ≤ x.units ∧ (Binary64.unitsPerOne : Int) ∣ x.units ∧ x.toWord = word := by
  simp only [count?, Json.word?, JsonNumber.word?, Json.binary64?, JsonNumber.toBinary64,
    Option.orElse_eq_orElse, Option.orElse_eq_or, Option.none_or, Bool.and_eq_true,
    Binary64.zero_le_iff, Binary64.isWhole_iff, Option.ite_none_right_eq_some, Option.some.injEq,
    and_assoc]

/-- A count is read from the whole numbers from zero on, and cut off at the greatest word. -/
theorem count?_eq_some_iff {value : Json} {word : UInt64} :
    count? value = some word ↔
      ∃ n, value.IsCount n ∧ word.toNat = min n (UInt64.size - 1) := by
  constructor
  · intro read
    match value, read with
    | .number (.integer i), read =>
        rcases Int.lt_or_le i.value 0 with negative | natural
        · rw [count?_negative negative] at read
          cases read
        · rw [count?_integer natural] at read
          obtain rfl := Option.some.inj read
          have fits := i.upper
          refine ⟨i.value.toNat, ⟨_, rfl, ?_⟩, ?_⟩
          · rw [Int.natCast_mul, Int.toNat_of_nonneg natural]
            rfl
          · rw [UInt64.toNat_ofNat_of_lt' (by rw [UInt64.size]; omega), UInt64.size]
            omega
    | .number (.float x), read =>
        obtain ⟨natural, whole, rfl⟩ := count?_float.mp read
        obtain ⟨n, exact⟩ := Binary64.exists_units_eq natural whole
        exact ⟨n, ⟨_, rfl, exact⟩, Binary64.toNat_toWord exact⟩
  · rintro ⟨n, ⟨number, rfl, exact⟩, cut⟩
    cases number with
    | integer i =>
        have same : i.value = n :=
          Int.eq_of_mul_eq_mul_right (Int.natCast_pos.mpr Binary64.unitsPerOne_pos).ne'
            (exact.trans (Int.natCast_mul _ _))
        have fits := i.upper
        rw [count?_integer (by omega), Option.some.injEq, ← UInt64.toNat_inj, cut, same,
          UInt64.toNat_ofNat_of_lt' (by rw [UInt64.size]; omega), UInt64.size]
        omega
    | float x =>
        have whole : (Binary64.unitsPerOne : Int) ∣ x.units := by
          rw [show x.units = _ from exact, Int.natCast_mul]
          exact Int.dvd_mul_left _ _
        have natural : 0 ≤ x.units := (Int.natCast_nonneg _).trans_eq exact.symm
        refine count?_float.mpr ⟨natural, whole, UInt64.toNat_inj.mp ?_⟩
        rw [cut, Binary64.toNat_toWord exact]

open Validator Verdict

/-- The layer for `null` has nothing to say about other values. -/
theorem issues_finish {keywords : Keywords} {validator : Validator} {value : Json}
    (present : value ≠ .null) :
    issues ((finish keywords validator).validate value) = issues (validator.validate value) := by
  rcases validator with ⟨kind, description⟩
  have described := validate_congr_description kind (keywords.description.getD "") description value
  by_cases nullable : keywords.nullable = true
  · simp only [finish, nullable, ↓reduceIte, Validator.nullable, withDescription,
      validate_nullable_issues present, described]
  · simp only [finish, nullable, Bool.false_eq_true, ↓reduceIte, withDescription, described]

end SchemaNode

/-- The keywords that bound the size of a string or of an array. -/
inductive SizeBound where
  | minLength
  | maxLength
  | minItems
  | maxItems

namespace SizeBound

/-- The keyword that gives a bound. -/
def keyword : SizeBound → String
  | .minLength => "minLength"
  | .maxLength => "maxLength"
  | .minItems => "minItems"
  | .maxItems => "maxItems"

/-- The bound that the keywords of a node give. -/
def limit? (keywords : Keywords) : SizeBound → Option UInt64
  | .minLength => keywords.minLength
  | .maxLength => keywords.maxLength
  | .minItems => keywords.minItems
  | .maxItems => keywords.maxItems

/-- The nodes that a bound counts for: unlisted strings, and arrays of uniform elements. -/
def Governs (node : SchemaNode) : SizeBound → Prop
  | .minLength | .maxLength => node.DecidedByType (some .string) ∧ node.keywords.Unlisted
  | .minItems | .maxItems =>
      node.DecidedByType (some .array) ∧ node.prefixItems = none ∧ node.items ≠ none

/-- The size of a value that a bound is about: characters of a string, elements of an array. -/
def size? (value : Json) : SizeBound → Option Nat
  | .minLength | .maxLength => value.string?.map String.length
  | .minItems | .maxItems => value.array?.map List.length

/-- A size lies beyond a bound. -/
def Exceeded (limit size : Nat) : SizeBound → Prop
  | .minLength | .minItems => size < limit
  | .maxLength | .maxItems => limit < size

/-- The constraint that a bound reports. -/
def issue (limit : UInt64) : SizeBound → IssueKind
  | .minLength => .stringTooShort limit
  | .maxLength => .stringTooLong limit
  | .minItems => .tooFewItems limit
  | .maxItems => .tooManyItems limit

/-- A value is refused, and the bound is one of the reasons. -/
def Rejects (validator : Validator) (value : Json) (bound : SizeBound) : Prop :=
  ∃ issues, validator.validate value = .error issues ∧
    ∃ limit, ⟨.root, bound.issue limit⟩ ∈ issues

open SchemaNode Validator Verdict

variable {policy : UnknownKeys} {bound : SizeBound} {node : SchemaNode} {value : Json} {size : Nat}

theorem rejects_iff {validator : Validator} :
    bound.Rejects validator value ↔
      ∃ limit, (⟨.root, bound.issue limit⟩ : Issue) ∈ issues (validator.validate value) := by
  unfold Rejects
  cases validator.validate value with
  | ok output => simp
  | error found => simp

theorem limit?_ofJson (members : List (String × Json)) :
    bound.limit? (ofJson (.object members)).keywords =
      (members.lookup bound.keyword).bind count? := by
  cases bound <;> rfl

/-- A string has the issues of its rules. -/
theorem mem_issues_string {text : String} {kind : IssueKind}
    (decided : node.DecidedByType (some .string)) (unlisted : node.keywords.Unlisted) :
    (⟨.root, kind⟩ : Issue) ∈ issues ((node.compile policy).validate (.string text)) ↔
      StringRules.Violated
        { minLength := node.keywords.minLength
          maxLength := node.keywords.maxLength
          pattern := node.keywords.pattern.bind Pattern.whole?
          format := knownFormat? node.keywords } text kind := by
  have compiled : node.core policy = _ := core_eq_of_typed decided
  simp only [compileString, enumeration?_eq_none_iff.mpr unlisted] at compiled
  have present : Json.string text ≠ .null := Json.noConfusion
  rw [compile_eq, issues_finish present, compiled, ofKind, validate_eq_judge, ValidatorKind.judge,
    issues_settle, atRoot, List.mem_map, ← StringRules.mem_violations_iff]
  simp

/-- An array has the issues of its size, and all others are found below. -/
theorem mem_issues_array {elements : List Json} {kind : IssueKind}
    (decided : node.DecidedByType (some .array)) (uniform : node.prefixItems = none)
    (given : node.items ≠ none) :
    (⟨.root, kind⟩ : Issue) ∈ issues ((node.compile policy).validate (.array elements)) ↔
      SizeViolated node.keywords.minItems node.keywords.maxItems elements.length kind := by
  obtain ⟨items, given⟩ := Option.ne_none_iff_exists'.mp given
  have compiled : node.core policy = _ := core_eq_of_typed decided
  simp only [uniform, given, Option.map_none, Option.map_some, compileArray] at compiled
  have present : Json.array elements ≠ .null := Json.noConfusion
  rw [compile_eq, issues_finish present, compiled, ofKind, validate_array_issues,
    ← mem_sizeViolations_iff, List.mem_append]
  simp [atRoot, Issue.under, FieldPath.root]

/-- A bound that governs a node is reported exactly for the sizes beyond it. -/
theorem rejects_compile_iff (governs : bound.Governs node) (sized : bound.size? value = some size) :
    bound.Rejects (node.compile policy) value ↔
      ∃ limit, bound.limit? node.keywords = some limit ∧ bound.Exceeded limit.toNat size := by
  have ofString (sized : value.string?.map String.length = some size) :
      ∃ text, value = .string text ∧ text.length = size := by
    cases value with
    | string text => exact ⟨text, rfl, Option.some.inj sized⟩
    | _ => cases sized
  have ofArray (sized : value.array?.map List.length = some size) :
      ∃ elements, value = .array elements ∧ elements.length = size := by
    cases value with
    | array elements => exact ⟨elements, rfl, Option.some.inj sized⟩
    | _ => cases sized
  rw [rejects_iff]
  cases bound with
  | minLength =>
      obtain ⟨text, rfl, rfl⟩ := ofString sized
      simp only [mem_issues_string governs.1 governs.2]
      constructor
      · rintro ⟨_, violated⟩
        cases violated with
        | tooShort _ given short => exact ⟨_, given, short⟩
      · rintro ⟨limit, given, short⟩
        exact ⟨limit, .tooShort rfl given short⟩
  | maxLength =>
      obtain ⟨text, rfl, rfl⟩ := ofString sized
      simp only [mem_issues_string governs.1 governs.2]
      constructor
      · rintro ⟨_, violated⟩
        cases violated with
        | tooLong _ given long => exact ⟨_, given, long⟩
      · rintro ⟨limit, given, long⟩
        exact ⟨limit, .tooLong rfl given long⟩
  | minItems =>
      obtain ⟨elements, rfl, rfl⟩ := ofArray sized
      obtain ⟨decided, uniform, items⟩ := governs
      simp only [mem_issues_array decided uniform items]
      constructor
      · rintro ⟨_, violated⟩
        cases violated with
        | tooFew given few => exact ⟨_, given, few⟩
      · rintro ⟨limit, given, few⟩
        exact ⟨limit, .tooFew given few⟩
  | maxItems =>
      obtain ⟨elements, rfl, rfl⟩ := ofArray sized
      obtain ⟨decided, uniform, items⟩ := governs
      simp only [mem_issues_array decided uniform items]
      constructor
      · rintro ⟨_, violated⟩
        cases violated with
        | tooMany given many => exact ⟨_, given, many⟩
      · rintro ⟨limit, given, many⟩
        exact ⟨limit, .tooMany given many⟩

/-- Cutting a bound off at the greatest word does not change what smaller sizes it admits. -/
theorem exceeded_cut_iff {n : Nat} (short : size < UInt64.size - 1) :
    bound.Exceeded (min n (UInt64.size - 1)) size ↔ bound.Exceeded n size := by
  cases bound <;> simp only [Exceeded] <;> omega

end SizeBound

open SchemaNode in
/--
A bound of a length or of a number of elements rejects a value exactly if what
the schema gives for it is a whole number from zero on, and the size of the
value lies beyond this number.
-/
theorem size_bounds_exact (policy : UnknownKeys) {bound : SizeBound}
    {members : List (String × Json)} {given value : Json} {size : Nat}
    (found : members.lookup bound.keyword = some given)
    (governs : bound.Governs (ofJson (.object members)))
    (sized : bound.size? value = some size) (short : size < 2 ^ 64 - 1) :
    bound.Rejects ((ofJson (.object members)).compile policy) value ↔
      ∃ n, given.IsCount n ∧ bound.Exceeded n size := by
  rw [SizeBound.rejects_compile_iff governs sized, SizeBound.limit?_ofJson, found,
    Option.bind_some]
  simp only [count?_eq_some_iff]
  constructor
  · rintro ⟨limit, ⟨n, count, cut⟩, exceeded⟩
    rw [cut, SizeBound.exceeded_cut_iff short] at exceeded
    exact ⟨n, count, exceeded⟩
  · rintro ⟨n, count, exceeded⟩
    refine ⟨UInt64.ofNat (min n (UInt64.size - 1)), ⟨n, count, ?_⟩, ?_⟩
    all_goals
      rw [UInt64.toNat_ofNat_of_lt' (Nat.lt_of_le_of_lt (Nat.min_le_right _ _) (by decide))]
    exact (SizeBound.exceeded_cut_iff short).mpr exceeded

open SchemaNode in
/-- A least length that is written as a float and lies beyond every word. -/
theorem size_bounds_exact_beyond_words :
    let given : Json := .ofBinary64 ⟨false, 4503599627370496, 1086, by decide⟩
    let members := [("type", Json.string "string"), ("minLength", given)]
    (members.lookup SizeBound.minLength.keyword = some given
      ∧ SizeBound.minLength.Governs (ofJson (.object members))
      ∧ SizeBound.minLength.size? (.string "word") = some 4 ∧ 4 < 2 ^ 64 - 1)
    ∧ given.IsCount (2 ^ 64)
    ∧ SizeBound.minLength.Rejects ((ofJson (.object members)).compile .strict)
        (.string "word") := by
  intro given members
  have found : members.lookup SizeBound.minLength.keyword = some given := rfl
  have governs : SizeBound.minLength.Governs (ofJson (.object members)) :=
    ⟨⟨rfl, rfl, rfl, rfl⟩, by rintro values ⟨⟩⟩
  have sized : SizeBound.minLength.size? (.string "word") = some 4 := by decide
  have count : given.IsCount (2 ^ 64) := ⟨_, rfl, by decide +kernel⟩
  have rejected := (size_bounds_exact .strict found governs sized (by decide)).mpr
    ⟨2 ^ 64, count, by simp [SizeBound.Exceeded]⟩
  exact ⟨⟨found, governs, sized, by decide⟩, count, rejected⟩

end ToolGate
