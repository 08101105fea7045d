import ToolGate.Validator.Check

/-!
# The rules of strings, numbers and sizes

A list of rules is violated in no point exactly when each rule holds that is
there, and what is reported are exactly the rules that do not hold.  Numbers
enter only through their exact value, so two numbers of the same value follow
the same rules.
-/

namespace ToolGate

namespace Binary64

theorem magnitude_eq_natAbs_units (x : Binary64) : x.magnitude = x.units.natAbs := by
  unfold units
  split <;> simp

/-- A number is whole if its exact value is a multiple of one. -/
theorem isWhole_iff {x : Binary64} : x.isWhole = true ↔ (unitsPerOne : Int) ∣ x.units := by
  rw [isWhole, beq_iff_eq, magnitude_eq_natAbs_units, ← Nat.dvd_iff_mod_eq_zero,
    ← Int.natCast_dvd_natCast, Int.dvd_natAbs]

theorem isWhole_congr {x y : Binary64} (same : x.units = y.units) : x.isWhole = y.isWhole := by
  rw [Bool.eq_iff_iff, isWhole_iff, isWhole_iff, same]

end Binary64

namespace StringRules

variable {text : String}

/-- Beside a list of allowed strings no other rule counts. -/
theorem violations_allowed {rules : StringRules} {allowed : List String}
    (listed : rules.allowed = some allowed) : rules.violations text = [] ↔ text ∈ allowed := by
  simp [violations, listed]

theorem violations_eq_nil_iff {rules : StringRules} (unlisted : rules.allowed = none) :
    rules.violations text = [] ↔
      (∀ minimum ∈ rules.minLength, minimum.toNat ≤ text.length) ∧
      (∀ maximum ∈ rules.maxLength, text.length ≤ maximum.toNat) ∧
      (∀ pattern ∈ rules.pattern, pattern.isMatch text = true) ∧
      (∀ format ∈ rules.format, format.accepts text = true) := by
  simp only [violations, unlisted, List.append_eq_nil_iff, and_assoc]
  refine and_congr ?_ (and_congr ?_ (and_congr ?_ ?_))
  · cases rules.minLength <;> simp
  · cases rules.maxLength <;> simp
  · cases rules.pattern <;> simp
  · cases rules.format <;> simp

end StringRules

namespace NumberRules

variable {rules : NumberRules} {x y : Binary64}

theorem violations_eq_nil_iff :
    rules.violations x = [] ↔
      (∀ bound ∈ rules.minimum, bound.units ≤ x.units) ∧
      (∀ bound ∈ rules.maximum, x.units ≤ bound.units) ∧
      (∀ bound ∈ rules.exclusiveMinimum, bound.units < x.units) ∧
      (∀ bound ∈ rules.exclusiveMaximum, x.units < bound.units) := by
  simp only [violations, Binary64.lt, Binary64.le, List.append_eq_nil_iff, and_assoc]
  refine and_congr ?_ (and_congr ?_ (and_congr ?_ ?_))
  · cases rules.minimum <;> simp
  · cases rules.maximum <;> simp
  · cases rules.exclusiveMinimum <;> simp
  · cases rules.exclusiveMaximum <;> simp

theorem violations_congr (rules : NumberRules) (same : x.units = y.units) :
    rules.violations x = rules.violations y := by
  unfold violations Binary64.lt Binary64.le
  rw [same]

end NumberRules

theorem sizeViolations_eq_nil_iff {minItems maxItems : Option UInt64} {count : Nat} :
    sizeViolations minItems maxItems count = [] ↔
      (∀ minimum ∈ minItems, minimum.toNat ≤ count) ∧
      (∀ maximum ∈ maxItems, count ≤ maximum.toNat) := by
  simp only [sizeViolations, List.append_eq_nil_iff]
  refine and_congr ?_ ?_
  · cases minItems <;> simp
  · cases maxItems <;> simp

/-- The text violates one of the rules, in the words of an issue. -/
inductive StringRules.Violated (rules : StringRules) (text : String) : IssueKind → Prop where
  | enumeration {allowed : List String} (listed : rules.allowed = some allowed)
      (other : text ∉ allowed) : Violated rules text (.enumMismatch allowed)
  | tooShort {minimum : UInt64} (unlisted : rules.allowed = none)
      (given : rules.minLength = some minimum) (short : text.length < minimum.toNat) :
      Violated rules text (.stringTooShort minimum)
  | tooLong {maximum : UInt64} (unlisted : rules.allowed = none)
      (given : rules.maxLength = some maximum) (long : maximum.toNat < text.length) :
      Violated rules text (.stringTooLong maximum)
  | pattern {pattern : Pattern} (unlisted : rules.allowed = none)
      (given : rules.pattern = some pattern) (unmatched : pattern.isMatch text = false) :
      Violated rules text (.patternMismatch pattern.source)
  | format {format : StringFormat} (unlisted : rules.allowed = none)
      (given : rules.format = some format) (refused : format.accepts text = false) :
      Violated rules text (.formatMismatch format.name)

/-- The number violates one of the bounds, in the words of an issue. -/
inductive NumberRules.Violated (rules : NumberRules) (x : Binary64) : IssueKind → Prop where
  | below {bound : Binary64} (given : rules.minimum = some bound) (low : x.units < bound.units) :
      Violated rules x (.belowMinimum bound false)
  | above {bound : Binary64} (given : rules.maximum = some bound) (high : bound.units < x.units) :
      Violated rules x (.aboveMaximum bound false)
  | notAbove {bound : Binary64} (given : rules.exclusiveMinimum = some bound)
      (low : x.units ≤ bound.units) : Violated rules x (.belowMinimum bound true)
  | notBelow {bound : Binary64} (given : rules.exclusiveMaximum = some bound)
      (high : bound.units ≤ x.units) : Violated rules x (.aboveMaximum bound true)

/-- The number of elements violates one of the bounds, in the words of an issue. -/
inductive SizeViolated (minItems maxItems : Option UInt64) (count : Nat) : IssueKind → Prop where
  | tooFew {minimum : UInt64} (given : minItems = some minimum) (few : count < minimum.toNat) :
      SizeViolated minItems maxItems count (.tooFewItems minimum)
  | tooMany {maximum : UInt64} (given : maxItems = some maximum) (many : maximum.toNat < count) :
      SizeViolated minItems maxItems count (.tooManyItems maximum)

section Violated

variable {kind : IssueKind}

theorem StringRules.mem_violations_iff {rules : StringRules} {text : String} :
    kind ∈ rules.violations text ↔ rules.Violated text kind := by
  cases listed : rules.allowed with
  | some allowed =>
      have reported : kind ∈ rules.violations text ↔
          text ∉ allowed ∧ kind = .enumMismatch allowed := by
        by_cases member : text ∈ allowed <;> simp [violations, listed, member]
      rw [reported]
      constructor
      · rintro ⟨other, rfl⟩
        exact .enumeration listed other
      · intro violated
        cases violated with
        | enumeration listedToo other =>
            obtain rfl := Option.some.inj (listed.symm.trans listedToo)
            exact ⟨other, rfl⟩
        | tooShort unlisted _ _ => rw [listed] at unlisted; cases unlisted
        | tooLong unlisted _ _ => rw [listed] at unlisted; cases unlisted
        | pattern unlisted _ _ => rw [listed] at unlisted; cases unlisted
        | format unlisted _ _ => rw [listed] at unlisted; cases unlisted
  | none =>
      have reported : kind ∈ rules.violations text ↔
          (((∃ minimum, rules.minLength = some minimum ∧ text.length < minimum.toNat ∧
              kind = .stringTooShort minimum) ∨
            ∃ maximum, rules.maxLength = some maximum ∧ maximum.toNat < text.length ∧
              kind = .stringTooLong maximum) ∨
            ∃ pattern, rules.pattern = some pattern ∧ pattern.isMatch text = false ∧
              kind = .patternMismatch pattern.source) ∨
            ∃ format, rules.format = some format ∧ format.accepts text = false ∧
              kind = .formatMismatch format.name := by
        simp only [violations, listed, List.mem_append]
        refine or_congr (or_congr (or_congr ?_ ?_) ?_) ?_
        · cases rules.minLength <;> simp
        · cases rules.maxLength <;> simp
        · cases rules.pattern <;> simp
        · cases rules.format <;> simp
      rw [reported]
      constructor
      · rintro (((⟨_, given, short, rfl⟩ | ⟨_, given, long, rfl⟩) | ⟨_, given, unmatched, rfl⟩) |
          ⟨_, given, refused, rfl⟩)
        · exact .tooShort listed given short
        · exact .tooLong listed given long
        · exact .pattern listed given unmatched
        · exact .format listed given refused
      · intro violated
        cases violated with
        | enumeration listedToo _ => rw [listed] at listedToo; cases listedToo
        | tooShort _ given short => exact .inl (.inl (.inl ⟨_, given, short, rfl⟩))
        | tooLong _ given long => exact .inl (.inl (.inr ⟨_, given, long, rfl⟩))
        | pattern _ given unmatched => exact .inl (.inr ⟨_, given, unmatched, rfl⟩)
        | format _ given refused => exact .inr ⟨_, given, refused, rfl⟩

theorem NumberRules.mem_violations_iff {rules : NumberRules} {x : Binary64} :
    kind ∈ rules.violations x ↔ rules.Violated x kind := by
  have reported : kind ∈ rules.violations x ↔
      (((∃ bound, rules.minimum = some bound ∧ x.units < bound.units ∧
          kind = .belowMinimum bound false) ∨
        ∃ bound, rules.maximum = some bound ∧ bound.units < x.units ∧
          kind = .aboveMaximum bound false) ∨
        ∃ bound, rules.exclusiveMinimum = some bound ∧ x.units ≤ bound.units ∧
          kind = .belowMinimum bound true) ∨
        ∃ bound, rules.exclusiveMaximum = some bound ∧ bound.units ≤ x.units ∧
          kind = .aboveMaximum bound true := by
    simp only [violations, Binary64.lt, Binary64.le, List.mem_append]
    refine or_congr (or_congr (or_congr ?_ ?_) ?_) ?_
    · cases rules.minimum <;> simp
    · cases rules.maximum <;> simp
    · cases rules.exclusiveMinimum <;> simp
    · cases rules.exclusiveMaximum <;> simp
  rw [reported]
  constructor
  · rintro (((⟨_, given, low, rfl⟩ | ⟨_, given, high, rfl⟩) | ⟨_, given, low, rfl⟩) |
      ⟨_, given, high, rfl⟩)
    · exact .below given low
    · exact .above given high
    · exact .notAbove given low
    · exact .notBelow given high
  · intro violated
    cases violated with
    | below given low => exact .inl (.inl (.inl ⟨_, given, low, rfl⟩))
    | above given high => exact .inl (.inl (.inr ⟨_, given, high, rfl⟩))
    | notAbove given low => exact .inl (.inr ⟨_, given, low, rfl⟩)
    | notBelow given high => exact .inr ⟨_, given, high, rfl⟩

theorem mem_sizeViolations_iff {minItems maxItems : Option UInt64} {count : Nat} :
    kind ∈ sizeViolations minItems maxItems count ↔ SizeViolated minItems maxItems count kind := by
  have reported : kind ∈ sizeViolations minItems maxItems count ↔
      (∃ minimum, minItems = some minimum ∧ count < minimum.toNat ∧
          kind = .tooFewItems minimum) ∨
        ∃ maximum, maxItems = some maximum ∧ maximum.toNat < count ∧
          kind = .tooManyItems maximum := by
    simp only [sizeViolations, List.mem_append]
    refine or_congr ?_ ?_
    · cases minItems <;> simp
    · cases maxItems <;> simp
  rw [reported]
  constructor
  · rintro (⟨_, given, few, rfl⟩ | ⟨_, given, many, rfl⟩)
    · exact .tooFew given few
    · exact .tooMany given many
  · intro violated
    cases violated with
    | tooFew given few => exact .inl ⟨_, given, few, rfl⟩
    | tooMany given many => exact .inr ⟨_, given, many, rfl⟩

end Violated

end ToolGate
