import ToolGate.Proofs.Registry

/-!
# The ways to check a value

A value is checked by a running check that adds to issues collected before,
by the verdict of a validator or of a shape, by the mere question whether it
is accepted, or as the arguments of a registered tool.  All of them say the
same: a value has an output or at least one issue, never both and never
neither, and no way to ask shows other issues than the verdict does.
-/

namespace ToolGate

namespace Validator

variable (validator : Validator)

/-- A check adds the issues of the verdict below its path, and has its output. -/
theorem check_added (value : Json) (path : FieldPath) (before : Array Issue) :
    ∃ added : Array Issue,
      (validator.check value path before).2 = before ++ added ∧
      ((validator.check value path before).1.isSome = true ↔ added = #[]) := by
  refine ⟨((Verdict.issues (validator.validate value)).map (Issue.under path)).toArray, ?_⟩
  rw [check_eq_record]
  constructor
  · rfl
  · cases verdict : validator.validate value with
    | ok output => simp [Verdict.record]
    | error found =>
        have nonempty : found ≠ [] := by
          rintro rfl
          exact validate_ne_error_nil validator value verdict
        simpa [Verdict.record] using nonempty

theorem accepts_eq_isOk (value : Json) :
    validator.accepts value = (validator.validate value).isOk := by
  rw [accepts, check_eq_record]
  cases validator.validate value with
  | ok output => rfl
  | error found => rfl

/-- Neither a value nor its absence is refused without an issue. -/
theorem ne_nil_of_parse_eq_error {given : Option Json} {found : List Issue}
    (refused : validator.parse given = .error found) : found ≠ [] := by
  rintro rfl
  cases given with
  | some value => exact validate_ne_error_nil validator value refused
  | none =>
      rw [parse, validateAbsent] at refused
      by_cases admitted : validator.allowsAbsent = true
      · rw [if_pos admitted] at refused
        cases refused
      · rw [if_neg admitted] at refused
        cases refused

end Validator

theorem Shape.toValidator_validate (shape : Shape) (value : Json) :
    shape.toValidator.validate value = shape.validate value := rfl

theorem Registry.validate_of_get? {registry : Registry} {name : String} {tool : RegisteredTool}
    (registered : registry.get? name = some tool) (arguments : Json) :
    registry.validate name arguments = (tool.shape.validate arguments).mapError .validation := by
  have judged := registry.validate_eq name arguments
  rw [registered] at judged
  exact judged

/--
All ways to check a value agree.  A running check has an output exactly if it
added no issue; acceptance is a positive verdict; nothing is refused without
an issue; and shapes, their validators and registered tools give one verdict.
-/
theorem entry_points_agree {registry : Registry} {name : String} {tool : RegisteredTool}
    (registered : registry.get? name = some tool) (validator : Validator) (shape : Shape)
    (value : Json) :
    (∀ path before, ∃ added : Array Issue,
      (validator.check value path before).2 = before ++ added ∧
      ((validator.check value path before).1.isSome = true ↔ added = #[])) ∧
    validator.accepts value = (validator.validate value).isOk ∧
    (∀ given found, validator.parse given = .error found → found ≠ []) ∧
    (∀ found, validator.validate value = .error found → found ≠ []) ∧
    (∀ found, shape.validate value = .error found → found ≠ []) ∧
    shape.toValidator.validate value = shape.validate value ∧
    registry.validate name value = (tool.shape.validate value).mapError .validation ∧
    (value.isObject = false →
      tool.shape.validate value = .error [⟨.root, .invalidType "object" value.typeName⟩]) := by
  refine ⟨validator.check_added value, validator.accepts_eq_isOk value, ?_, ?_, ?_,
    shape.toValidator_validate value, Registry.validate_of_get? registered value,
    Shape.validate_of_not_object⟩
  · intro given found refused
    exact validator.ne_nil_of_parse_eq_error refused
  · intro found refused
    have parsed : validator.parse (some value) = .error found := refused
    exact validator.ne_nil_of_parse_eq_error parsed
  · intro found refused
    have parsed : shape.toValidator.parse (some value) = .error found := refused
    exact shape.toValidator.ne_nil_of_parse_eq_error parsed

/-- A tool with a text to echo, called with a list. -/
theorem entry_points_agree_on_list :
    let shape : Shape := ⟨[("text", ⟨.ofKind (.string {}), false⟩)], .strict⟩
    let tool : RegisteredTool :=
      { server := "speech", tool := "echo", description := "", shape, inputSchema := .null }
    let registry : Registry := { policy := .strict, tools := [("echo", tool)] }
    registry.get? "echo" = some tool ∧
      registry.validate "echo" (.array []) = (shape.validate (.array [])).mapError .validation ∧
      shape.validate (.array []) = .error [⟨.root, .invalidType "object" "array"⟩] := by
  intro shape tool registry
  have registered : registry.get? "echo" = some tool := rfl
  rcases entry_points_agree registered shape.toValidator shape (.array []) with
    ⟨_, _, _, _, _, _, verdict, refusal⟩
  exact ⟨registered, verdict, refusal rfl⟩

end ToolGate
