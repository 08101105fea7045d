import ToolGate.Proofs.Schema.Correctness
import ToolGate.Proofs.Schema.Replacement
import ToolGate.Proofs.Validator.Widening

/-!
# Acceptance is monotone in the nodes of a schema

If a node is replaced, at any depth of a schema, by one that accepts more,
the whole schema accepts more.  Two replacements are always of this kind: to
admit `null` and to delete a bound.  Both leave keywords that ask for less,
and a node that differs from another one only in asking for less accepts
more.
-/

namespace ToolGate

namespace Keywords

/-- The first keywords ask for nothing that the second do not ask for. -/
structure LaxerThan (lax firm : Keywords) : Prop where
  type : lax.type = firm.type
  enumeration : lax.enumeration = firm.enumeration
  constant : lax.constant = firm.constant
  nullable : firm.nullable = true → lax.nullable = true
  minItems : ∀ bound ∈ lax.minItems, bound ∈ firm.minItems
  maxItems : ∀ bound ∈ lax.maxItems, bound ∈ firm.maxItems
  minLength : ∀ bound ∈ lax.minLength, bound ∈ firm.minLength
  maxLength : ∀ bound ∈ lax.maxLength, bound ∈ firm.maxLength
  pattern : ∀ source ∈ lax.pattern, source ∈ firm.pattern
  format : ∀ format ∈ lax.format, format ∈ firm.format
  minimum : ∀ bound ∈ lax.minimum, bound ∈ firm.minimum
  maximum : ∀ bound ∈ lax.maximum, bound ∈ firm.maximum
  exclusiveMinimum : ∀ bound ∈ lax.exclusiveMinimum, bound ∈ firm.exclusiveMinimum
  exclusiveMaximum : ∀ bound ∈ lax.exclusiveMaximum, bound ∈ firm.exclusiveMaximum

theorem LaxerThan.refl (keywords : Keywords) : keywords.LaxerThan keywords := by
  constructor
  case type | enumeration | constant => rfl
  case nullable => exact id
  all_goals exact fun _ given => given

section LaxerThan

variable {lax firm : Keywords}

theorem LaxerThan.admitsText (laxer : lax.LaxerThan firm) {text : String}
    (admitted : firm.AdmitsText text) : lax.AdmitsText text where
  minLength bound given := admitted.minLength bound (laxer.minLength bound given)
  maxLength bound given := admitted.maxLength bound (laxer.maxLength bound given)
  pattern source given := admitted.pattern source (laxer.pattern source given)
  format format given := admitted.format format (laxer.format format given)

theorem LaxerThan.admitsNumber (laxer : lax.LaxerThan firm) {x : Binary64}
    (admitted : firm.AdmitsNumber x) : lax.AdmitsNumber x where
  minimum bound given := admitted.minimum bound (laxer.minimum bound given)
  maximum bound given := admitted.maximum bound (laxer.maximum bound given)
  exclusiveMinimum bound given :=
    admitted.exclusiveMinimum bound (laxer.exclusiveMinimum bound given)
  exclusiveMaximum bound given :=
    admitted.exclusiveMaximum bound (laxer.exclusiveMaximum bound given)

theorem LaxerThan.admitsSize (laxer : lax.LaxerThan firm) {count : Nat}
    (admitted : firm.AdmitsSize count) : lax.AdmitsSize count where
  minItems bound given := admitted.minItems bound (laxer.minItems bound given)
  maxItems bound given := admitted.maxItems bound (laxer.maxItems bound given)

end LaxerThan

end Keywords

/-- A keyword that bounds a size or a number. -/
inductive Bound where
  | minItems
  | maxItems
  | minLength
  | maxLength
  | minimum
  | maximum
  | exclusiveMinimum
  | exclusiveMaximum
deriving DecidableEq

/-- The keywords with one bound deleted. -/
def Keywords.without (keywords : Keywords) : Bound → Keywords
  | .minItems => { keywords with minItems := none }
  | .maxItems => { keywords with maxItems := none }
  | .minLength => { keywords with minLength := none }
  | .maxLength => { keywords with maxLength := none }
  | .minimum => { keywords with minimum := none }
  | .maximum => { keywords with maximum := none }
  | .exclusiveMinimum => { keywords with exclusiveMinimum := none }
  | .exclusiveMaximum => { keywords with exclusiveMaximum := none }

theorem Keywords.without_laxer (keywords : Keywords) (bound : Bound) :
    (keywords.without bound).LaxerThan keywords := by
  have same := LaxerThan.refl keywords
  cases bound with
  | minItems => exact { same with minItems := nofun }
  | maxItems => exact { same with maxItems := nofun }
  | minLength => exact { same with minLength := nofun }
  | maxLength => exact { same with maxLength := nofun }
  | minimum => exact { same with minimum := nofun }
  | maximum => exact { same with maximum := nofun }
  | exclusiveMinimum => exact { same with exclusiveMinimum := nofun }
  | exclusiveMaximum => exact { same with exclusiveMaximum := nofun }

theorem Keywords.nullable_laxer (keywords : Keywords) :
    LaxerThan { keywords with nullable := true } keywords :=
  { LaxerThan.refl keywords with nullable := fun _ => rfl }

namespace SchemaNode

open Validator

section LaxerThan

variable {lax firm : Keywords}

theorem enumeration?_of_laxer (laxer : lax.LaxerThan firm) :
    enumeration? lax = enumeration? firm := by
  rw [enumeration?, laxer.enumeration, enumeration?]

theorem compileString_widens (laxer : lax.LaxerThan firm) :
    Widens (compileString firm) (compileString lax) := by
  unfold compileString
  rw [enumeration?_of_laxer laxer]
  cases enumeration? firm with
  | some values => exact .refl _
  | none =>
      apply widens_of_accepts rfl
      intro value _ accepted
      simp only [ofKind, accepts_string_iff, admitsText_iff] at accepted ⊢
      rcases accepted with ⟨text, rfl, admitted⟩
      exact ⟨text, rfl, laxer.admitsText admitted⟩

theorem compileNumber_widens (laxer : lax.LaxerThan firm) {kind : NumberRules → ValidatorKind}
    (widens : Widens (ofKind (kind (numberRules firm))) (ofKind (kind (numberRules lax)))) :
    Widens (compileNumber kind firm) (compileNumber kind lax) := by
  unfold compileNumber
  rw [enumeration?_of_laxer laxer]
  cases enumeration? firm with
  | some values => exact .refl _
  | none => exact widens

theorem number_widens (laxer : lax.LaxerThan firm) :
    Widens (ofKind (.number (numberRules firm))) (ofKind (.number (numberRules lax))) := by
  apply widens_of_accepts rfl
  intro value _ accepted
  simp only [ofKind, accepts_number_iff, admitsNumber_iff] at accepted ⊢
  rcases accepted with ⟨n, rfl, admitted⟩
  exact ⟨n, rfl, laxer.admitsNumber admitted⟩

theorem integer_widens (laxer : lax.LaxerThan firm) :
    Widens (ofKind (.integer (numberRules firm))) (ofKind (.integer (numberRules lax))) := by
  apply widens_of_accepts rfl
  intro value _ accepted
  simp only [ofKind, accepts_integer_iff, admitsNumber_iff] at accepted ⊢
  rcases accepted with ⟨n, rfl, whole, admitted⟩
  exact ⟨n, rfl, whole, laxer.admitsNumber admitted⟩

theorem compileArray_widens (laxer : lax.LaxerThan firm) (slots : Option (List Validator))
    (items : Option Validator) :
    Widens (compileArray firm slots items) (compileArray lax slots items) := by
  cases slots with
  | some slots => exact .refl _
  | none =>
      cases items with
      | none => exact .refl _
      | some items =>
          apply widens_of_accepts rfl
          intro value _ accepted
          simp only [ofKind, accepts_array_some_iff, admitsSize_iff] at accepted ⊢
          rcases accepted with ⟨elements, rfl, admitted, each⟩
          exact ⟨elements, rfl, laxer.admitsSize admitted, each⟩

theorem finish_widens (laxer : lax.LaxerThan firm) {narrow wide : Validator}
    (widens : Widens narrow wide) : Widens (finish firm narrow) (finish lax wide) := by
  refine widens_iff.mpr ⟨?_, ?_⟩
  · intro value formed accepted
    rcases accepts_finish.mp accepted with ⟨nullable, isNull⟩ | accepted
    · exact accepts_finish.mpr (.inl ⟨laxer.nullable nullable, isNull⟩)
    · exact accepts_finish.mpr (.inr (widens.accepts formed accepted))
  · rw [allowsAbsent_finish, allowsAbsent_finish]
    exact (widens_iff.mp widens).2

/-- A node that asks for less accepts more. -/
theorem compile_widens (policy : UnknownKeys) (node : SchemaNode)
    (laxer : lax.LaxerThan node.keywords) :
    Widens (node.compile policy) (compile policy { node with keywords := lax }) := by
  rw [compile_eq, compile_eq]
  apply finish_widens laxer
  have sameKind : kind { node with keywords := lax } = node.kind := by
    simp only [kind, laxer.constant, laxer.type]
  unfold core
  rw [sameKind]
  cases node.kind with
  | typed type =>
      cases type with
      | none => exact .refl _
      | some type =>
          cases type with
          | string => exact compileString_widens laxer
          | number => exact compileNumber_widens laxer (number_widens laxer)
          | integer => exact compileNumber_widens laxer (integer_widens laxer)
          | array => exact compileArray_widens laxer _ _
          | _ => exact .refl _
  | _ => exact .refl _

end LaxerThan

/-- The node that admits `null` beside all else. -/
def admittingNull (node : SchemaNode) : SchemaNode :=
  { node with keywords := { node.keywords with nullable := true } }

/-- The node with one bound deleted. -/
def without (node : SchemaNode) (bound : Bound) : SchemaNode :=
  { node with keywords := node.keywords.without bound }

/-- Only the values that a node mentions and its children matter for being well formed. -/
theorem WellFormed.withKeywords {node : SchemaNode} {keywords : Keywords} (formed : node.WellFormed)
    (laxer : keywords.LaxerThan node.keywords) :
    WellFormed { node with keywords } := by
  rcases wellFormed_iff.mp formed with ⟨constant, enumeration, children⟩
  refine wellFormed_iff.mpr ⟨?_, ?_, children⟩
  · simp only [laxer.constant]
    exact constant
  · simp only [laxer.enumeration]
    exact enumeration

/--
Acceptance is monotone.  To replace an occurrence of a node by one that
accepts what the node accepts, absence included, is to accept no less with
the whole schema.  To admit `null` or to delete a bound, at any depth, is
such a replacement.
-/
theorem acceptance_monotone (policy : UnknownKeys) :
    (∀ old new before after : SchemaNode, before.WellFormed → new.WellFormed →
      Replaced old new before after → Widens (old.compile policy) (new.compile policy) →
        Widens (before.compile policy) (after.compile policy)) ∧
    (∀ node before after : SchemaNode, before.WellFormed →
      Replaced node node.admittingNull before after →
        Widens (before.compile policy) (after.compile policy)) ∧
    (∀ (bound : Bound) (node before after : SchemaNode), before.WellFormed →
      Replaced node (node.without bound) before after →
        Widens (before.compile policy) (after.compile policy)) := by
  have congruence := widens_congruence policy
  refine ⟨?_, ?_, ?_⟩
  · intro old new before after formed formedNew replaced widens
    exact replaced.compile_related congruence formed formedNew widens
  · intro node before after formed replaced
    have laxer := node.keywords.nullable_laxer
    have formedNew := (replaced.old_wellFormed formed).withKeywords laxer
    exact replaced.compile_related congruence formed formedNew (compile_widens policy node laxer)
  · intro bound node before after formed replaced
    have laxer := node.keywords.without_laxer bound
    have formedNew := (replaced.old_wellFormed formed).withKeywords laxer
    exact replaced.compile_related congruence formed formedNew (compile_widens policy node laxer)

/-- Tags of three characters at least, then of any length, then null, then of any kind. -/
theorem acceptance_monotone_tags :
    let tag : SchemaNode := { keywords := { type := some .string, minLength := some 3 } }
    let list (tag : SchemaNode) : SchemaNode :=
      { keywords := { type := some .array }, items := some tag }
    let tags (tag : SchemaNode) : SchemaNode := { allOf := some [{}, list tag] }
    let article (tag : SchemaNode) : SchemaNode :=
      { keywords := { type := some .object }, properties := some [("id", {}), ("tags", tags tag)] }
    let validator (tag : SchemaNode) : Validator := (article tag).compile .strict
    let value : Json := .object [("tags", .array [.string "tea"])]
    (article tag).WellFormed ∧ (∀ other, Replaced tag other (article tag) (article other)) ∧
      Widens (tag.compile .strict) (compile .strict {}) ∧
      (validator tag).accepts value = true ∧ (validator {}).accepts value = true ∧
      (validator tag.admittingNull).accepts value = true ∧
      (validator (tag.without .minLength)).accepts value = true := by
  intro tag list tags article validator value
  have formed : (article tag).WellFormed := by
    simp [article, tags, list, tag, wellFormed_mk_iff, Entries.distinct_nil, -Prod.forall]
  have formedValue : value.WellFormed := by
    simp [value, Entries.distinct_nil]
  have accepted : (validator tag).accepts value = true := by decide
  have replaced : ∀ other, Replaced tag other (article tag) (article other) := by
    intro other
    have inList : Replaced tag other (list tag) (list other) := .items rfl .here
    have inTags : Replaced tag other (tags tag) (tags other) :=
      @Replaced.allOf _ _ (tags tag) _ _ [{}] [] rfl inList
    exact @Replaced.properties _ _ (article tag) _ _ [("id", {})] [] _ rfl inTags
  have widens : Widens (tag.compile .strict) (compile .strict {}) := by
    refine widens_iff.mpr ⟨fun _ _ _ => ?_, fun _ => rfl⟩
    exact accepts_unknown
  have free : WellFormed {} := by
    simp [wellFormed_mk_iff]
  rcases acceptance_monotone .strict with ⟨general, nullable, unbounded⟩
  refine ⟨formed, replaced, widens, accepted, ?_, ?_, ?_⟩
  · exact (general _ _ _ _ formed free (replaced _) widens).accepts formedValue accepted
  · exact (nullable _ _ _ formed (replaced _)).accepts formedValue accepted
  · exact (unbounded .minLength _ _ _ formed (replaced _)).accepts formedValue accepted

end SchemaNode

end ToolGate
