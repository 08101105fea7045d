import ToolGate.Proofs.Number.Rounding
import ToolGate.Proofs.Schema.Correctness
import ToolGate.Proofs.Validator.Leniency

/-!
# Integer literals

A constant and a list of admitted integers are compared with a value after
both have been rounded to double precision, and the literal takes the place
of the value.  Below 53 bits rounding changes nothing, so there a literal
accepts itself alone and the value comes out as it went in; above, neighbours
may pass for each other, and then another integer comes out than went in.
-/

namespace ToolGate

/-- A schema that lists the integers it admits. -/
inductive AdmitsLiterals : Json → List WordInt → Prop where
  | constant (k : WordInt) :
      AdmitsLiterals (.object [("const", .number (.integer k))]) [k]
  | enumeration {type : SchemaType} (ks : List WordInt)
      (numeric : type = .number ∨ type = .integer) (nonempty : ks ≠ []) :
      AdmitsLiterals
        (.object [("type", .string type.name),
          ("enum", .array (ks.map fun k => .number (.integer k)))]) ks

namespace SchemaNode

/-- What comes out of a list of literals is one of them, and equal to what went in. -/
theorem validate_literals_ok {values : List Json} {description : String} {value output : Json}
    (accepted : ((literals values).withDescription description).validate value = .ok output) :
    output ∈ values ∧ output.sameValue value = true := by
  unfold literals at accepted
  split at accepted
  · obtain ⟨same, rfl⟩ := Validator.validate_literal_ok.mp accepted
    exact ⟨List.mem_cons_self, same⟩
  · obtain ⟨branch, member, found⟩ := Validator.exists_branch_of_union_ok accepted
    obtain ⟨expected, listed, rfl⟩ := List.mem_map.mp member
    obtain ⟨same, rfl⟩ := Validator.validate_literal_ok.mp found
    exact ⟨listed, same⟩

end SchemaNode

namespace AdmitsLiterals

variable {schema : Json} {ks : List WordInt}

/-- The values of the integers. -/
def values (ks : List WordInt) : List Json :=
  ks.map fun k => .number (.integer k)

/-- Such a schema is compiled to its literals. -/
theorem compile_eq (lists : AdmitsLiterals schema ks) (policy : UnknownKeys) :
    (SchemaNode.ofJson schema).compile policy =
      (SchemaNode.literals (values ks)).withDescription "" := by
  cases lists with
  | constant k => rfl
  | enumeration ks numeric nonempty =>
      obtain ⟨k, rest, rfl⟩ := List.exists_cons_of_ne_nil nonempty
      rcases numeric with rfl | rfl <;> rfl

/-- An integer is accepted if it is rounded as one of the literals is. -/
theorem accepts_iff (lists : AdmitsLiterals schema ks) (policy : UnknownKeys) (x : WordInt) :
    ((SchemaNode.ofJson schema).compile policy).accepts (.number (.integer x)) = true ↔
      ∃ k ∈ ks, (JsonNumber.integer k).toBinary64.units =
        (JsonNumber.integer x).toBinary64.units := by
  have described : ∀ validator : Validator,
      (validator.withDescription "").accepts (.number (.integer x)) = true ↔
        validator.accepts (.number (.integer x)) = true := by
    rintro ⟨kind, description⟩
    rw [Validator.withDescription, Validator.accepts_congr_description kind "" description]
  rw [lists.compile_eq, described, SchemaNode.accepts_literals]
  simp [values, Json.sameValue, Json.equalBy, JsonNumber.sameValue_iff]

/-- The literal that comes out is rounded as the integer that went in. -/
theorem exists_of_validate_ok (lists : AdmitsLiterals schema ks) {policy : UnknownKeys}
    {x : WordInt} {output : Json}
    (accepted : ((SchemaNode.ofJson schema).compile policy).validate (.number (.integer x)) =
      .ok output) :
    ∃ k ∈ ks, output = .number (.integer k) ∧
      (JsonNumber.integer k).toBinary64.units = (JsonNumber.integer x).toBinary64.units := by
  rw [lists.compile_eq] at accepted
  obtain ⟨listed, same⟩ := SchemaNode.validate_literals_ok accepted
  obtain ⟨k, member, rfl⟩ := List.mem_map.mp listed
  exact ⟨k, member, rfl, JsonNumber.sameValue_iff.mp same⟩

end AdmitsLiterals

/--
Integer literals accept the integers that are rounded as they are.  If they
are all below 53 bits, they accept themselves alone and give out what they
accepted.
-/
theorem literals_accept_what_rounds_alike (policy : UnknownKeys) {schema : Json}
    {ks : List WordInt} (lists : AdmitsLiterals schema ks) (x : WordInt) :
    let validator := (SchemaNode.ofJson schema).compile policy
    let value : Json := .number (.integer x)
    (validator.accepts value = true ↔
      ∃ k ∈ ks, (JsonNumber.integer k).toBinary64.units =
        (JsonNumber.integer x).toBinary64.units)
    ∧ ((∀ k ∈ ks, k.value.natAbs < 2 ^ 53) →
      (validator.accepts value = true ↔ x ∈ ks)
      ∧ ∀ output, validator.validate value = .ok output → output = value) := by
  intro validator value
  refine ⟨lists.accepts_iff policy x, fun small => ⟨?_, ?_⟩⟩
  · rw [lists.accepts_iff policy x]
    constructor
    · rintro ⟨k, member, same⟩
      rwa [← JsonNumber.eq_of_toBinary64_eq (small k member) same]
    · intro member
      exact ⟨x, member, rfl⟩
  · intro output accepted
    obtain ⟨k, member, rfl, same⟩ := lists.exists_of_validate_ok accepted
    rw [JsonNumber.eq_of_toBinary64_eq (small k member) same]

/-- The greatest integer below 53 bits, in a list with a negative one. -/
theorem literals_accept_what_rounds_alike_below_grid :
    let k : WordInt := ⟨9007199254740991, by decide, by decide⟩
    let other : WordInt := ⟨-7, by decide, by decide⟩
    let schema : Json := .object [("type", .string "integer"),
      ("enum", .array [.number (.integer other), .number (.integer k)])]
    let validator := (SchemaNode.ofJson schema).compile .strict
    AdmitsLiterals schema [other, k]
    ∧ (∀ literal ∈ [other, k], literal.value.natAbs < 2 ^ 53)
    ∧ validator.accepts (.number (.integer k)) = true
    ∧ ∀ output, validator.validate (.number (.integer k)) = .ok output →
      output = .number (.integer k) := by
  intro k other schema validator
  have lists : AdmitsLiterals schema [other, k] :=
    .enumeration [other, k] (.inr rfl) (List.cons_ne_nil _ _)
  have small : ∀ literal ∈ [other, k], literal.value.natAbs < 2 ^ 53 := by decide
  obtain ⟨_, exact⟩ := literals_accept_what_rounds_alike .strict lists k
  obtain ⟨accepts, kept⟩ := exact small
  exact ⟨lists, small, accepts.mpr (by simp), kept⟩

/-- From 53 bits on a literal accepts a neighbour, and puts itself in its place. -/
theorem literal_replaces_neighbour :
    let k : WordInt := ⟨9007199254740993, by decide, by decide⟩
    let x : WordInt := ⟨9007199254740992, by decide, by decide⟩
    let validator :=
      (SchemaNode.ofJson (.object [("const", .number (.integer k))])).compile .passthrough
    x ≠ k
    ∧ validator.accepts (.number (.integer x)) = true
    ∧ validator.validate (.number (.integer x)) = .ok (.number (.integer k)) := by
  intro k x validator
  have same : Json.sameValue (.number (.integer k)) (.number (.integer x)) = true := by
    decide +kernel
  have replaced : validator.validate (.number (.integer x)) = .ok (.number (.integer k)) :=
    Validator.validate_literal_ok.mpr ⟨same, rfl⟩
  exact ⟨by decide, Validator.accepts_iff.mpr ⟨_, replaced⟩, replaced⟩

end ToolGate
