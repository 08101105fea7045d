import ToolGate.Format
import ToolGate.Validator.Basic
import ToolGate.Validator.Merge

/-!
# Checking values

A check walks a value along a validator.  It adds the issues it finds to
those already collected and gives the output if it found none.  Every value
is checked to its end, so all issues come at once; only a union hides the
issues of its branches behind one of its own.
-/

namespace ToolGate

/-- The rules that a string violates, in the order of the rules. -/
def StringRules.violations (rules : StringRules) (text : String) : List IssueKind :=
  match rules.allowed with
  | some allowed => if allowed.contains text then [] else [.enumMismatch allowed]
  | none =>
      (match rules.minLength with
        | some minimum => if text.length < minimum.toNat then [.stringTooShort minimum] else []
        | none => [])
      ++ (match rules.maxLength with
        | some maximum => if maximum.toNat < text.length then [.stringTooLong maximum] else []
        | none => [])
      ++ (match rules.pattern with
        | some pattern =>
            if pattern.isMatch text then [] else [.patternMismatch pattern.source]
        | none => [])
      ++ (match rules.format with
        | some format => if format.accepts text then [] else [.formatMismatch format.name]
        | none => [])

/-- The bounds that a number violates, in the order of the bounds. -/
def NumberRules.violations (rules : NumberRules) (x : Binary64) : List IssueKind :=
  (match rules.minimum with
    | some bound => if x.lt bound then [.belowMinimum bound false] else []
    | none => [])
  ++ (match rules.maximum with
    | some bound => if bound.lt x then [.aboveMaximum bound false] else []
    | none => [])
  ++ (match rules.exclusiveMinimum with
    | some bound => if x.le bound then [.belowMinimum bound true] else []
    | none => [])
  ++ (match rules.exclusiveMaximum with
    | some bound => if bound.le x then [.aboveMaximum bound true] else []
    | none => [])

/-- The size bounds that an array of `count` elements violates. -/
def sizeViolations (minItems maxItems : Option UInt64) (count : Nat) : List IssueKind :=
  (match minItems with
    | some minimum => if count < minimum.toNat then [.tooFewItems minimum] else []
    | none => [])
  ++ (match maxItems with
    | some maximum => if maximum.toNat < count then [.tooManyItems maximum] else []
    | none => [])

/-- What a check gives: the output, if no issue was found, and all issues collected. -/
abbrev Checked := Option Json × Array Issue

/-- A way to check a value at a path, given the issues collected before. -/
abbrev Checker := Json → FieldPath → Array Issue → Checked

namespace Checked

/-- Add issues at one path. -/
def report (issues : Array Issue) (path : FieldPath) (kinds : List IssueKind) : Array Issue :=
  issues ++ (kinds.map (Issue.mk path)).toArray

/-- Refuse a value for one reason. -/
def refuse (issues : Array Issue) (path : FieldPath) (kind : IssueKind) : Checked :=
  (none, issues.push ⟨path, kind⟩)

/-- Refuse a value of another type. -/
def refuseType (expected : String) : Checker := fun value path issues =>
  refuse issues path (.invalidType expected value.typeName)

/-- Accept a value unchanged unless it violates rules. -/
def judge (violations : List IssueKind) : Checker := fun value path issues =>
  if violations.isEmpty then (some value, issues) else (none, report issues path violations)

/-- The output counts only if no issue was added. -/
def settle (before after : Array Issue) (output : Json) : Checked :=
  if after.size = before.size then (some output, after) else (none, after)

/-- Check the elements of an array, from an index on, by one checker. -/
def elements (check : Checker) (path : FieldPath) :
    (index : Nat) → List Json → Array Issue → List Json × Array Issue
  | _, [], issues => ([], issues)
  | index, element :: rest, issues =>
      let (output, issues) := check element (path.index index) issues
      let (outputs, issues) := elements check path (index + 1) rest issues
      (output.toList ++ outputs, issues)

/-- Check the members of an object by one checker. -/
def members (check : Checker) (path : FieldPath) :
    List (String × Json) → Array Issue → List (String × Json) × Array Issue
  | [], issues => ([], issues)
  | (key, value) :: rest, issues =>
      let (output, issues) := check value (path.key key) issues
      let (outputs, issues) := members check path rest issues
      (output.toList.map (key, ·) ++ outputs, issues)

/-- Treat the members of an object that no field declares. -/
def undeclared (policy : UnknownKeys) (path : FieldPath) (extra : List (String × Json))
    (issues : Array Issue) : List (String × Json) × Array Issue :=
  match policy with
  | .strip => ([], issues)
  | .passthrough => (extra, issues)
  | .strict => ([], report issues path (extra.map fun entry => .unrecognizedKey entry.1))

/-- Merge the outputs of all branches of an intersection. -/
def mergeOutputs (value : Json) (path : FieldPath) (outputs : List Json)
    (issues : Array Issue) : Checked :=
  match outputs with
  | [] => (some value, issues)
  | first :: others =>
      match Json.mergeAll? first others with
      | some merged => (some merged, issues)
      | none => refuse issues path .unmergeableIntersection

end Checked

namespace Validator

open Checked

mutual

/-- Check a value. -/
def check : Validator → Checker
  | ⟨kind, _⟩ => checkKind kind

/-- Check a value by the kind of a validator. -/
def checkKind : ValidatorKind → Checker
  | .string rules => fun value path issues =>
      match value with
      | .string text => judge (rules.violations text) value path issues
      | _ => refuseType "string" value path issues
  | .number rules => fun value path issues =>
      match value with
      | .number n => judge (rules.violations n.toBinary64) value path issues
      | _ => refuseType "number" value path issues
  | .integer rules => fun value path issues =>
      match value with
      | .number n =>
          let x := n.toBinary64
          judge ((if x.isWhole then [] else [.notAnInteger]) ++ rules.violations x)
            value path issues
      | _ => refuseType "integer" value path issues
  | .boolean => fun value path issues =>
      match value with
      | .bool _ => (some value, issues)
      | _ => refuseType "boolean" value path issues
  | .null => fun value path issues =>
      match value with
      | .null => (some .null, issues)
      | _ => refuseType "null" value path issues
  | .unknown => fun value _ issues => (some value, issues)
  | .literal expected => fun value path issues =>
      if expected.sameValue value then (some expected, issues)
      else refuse issues path (.literalMismatch expected)
  | .array ⟨items, minItems, maxItems⟩ => fun value path issues =>
      match value with
      | .array list =>
          let sized := report issues path (sizeViolations minItems maxItems list.length)
          let (output, after) := checkItems items path list sized
          settle issues after (.array output)
      | _ => refuseType "array" value path issues
  | .tuple slots => fun value path issues =>
      match value with
      | .array list =>
          if list.length ≠ slots.length then
            refuse issues path (.tupleArity slots.length list.length)
          else
            let (output, after) := checkSlots slots path 0 list issues
            settle issues after (.array output)
      | _ => refuseType "array" value path issues
  | .object ⟨fields, policy⟩ => fun value path issues =>
      match value with
      | .object entries =>
          let (declared, after) := checkFields fields path entries issues
          let extra := entries.filter fun entry => !Entries.contains fields entry.1
          let (rest, after) := undeclared policy path extra after
          settle issues after (.object (declared ++ rest))
      | _ => refuseType "object" value path issues
  | .record values => fun value path issues =>
      match value with
      | .object entries =>
          let (output, after) := members (check values) path entries issues
          settle issues after (.object output)
      | _ => refuseType "object" value path issues
  | .union branches => fun value path issues =>
      match firstAccepted branches value path with
      | some output => (some output, issues)
      | none => refuse issues path (.noMatchingBranch branches.length)
  | .intersection branches => fun value path issues =>
      let (outputs, after) := checkBranches branches value path issues
      if after.size = issues.size ∧ outputs.length = branches.length then
        mergeOutputs value path outputs after
      else (none, after)
  | .nullable inner => fun value path issues =>
      match value with
      | .null => (some .null, issues)
      | _ => check inner value path issues

/-- Check elements by their validator; without one they stay as they are. -/
def checkItems : Option Validator → FieldPath → List Json → Array Issue → List Json × Array Issue
  | none, _, list, issues => (list, issues)
  | some items, path, list, issues => elements (check items) path 0 list issues

/-- Check elements place by place. -/
def checkSlots : List Validator → FieldPath → (index : Nat) → List Json → Array Issue →
    List Json × Array Issue
  | slot :: slots, path, index, element :: rest, issues =>
      let (output, issues) := check slot element (path.index index) issues
      let (outputs, issues) := checkSlots slots path (index + 1) rest issues
      (output.toList ++ outputs, issues)
  | _, _, _, _, issues => ([], issues)

/-- Check the declared members of an object, in the order of the fields. -/
def checkFields : List (String × Field) → FieldPath → List (String × Json) → Array Issue →
    List (String × Json) × Array Issue
  | [], _, _, issues => ([], issues)
  | (name, ⟨validator, optional⟩) :: fields, path, entries, issues =>
      match entries.lookup name with
      | some value =>
          let (output, issues) := check validator value (path.key name) issues
          let (outputs, issues) := checkFields fields path entries issues
          (output.toList.map (name, ·) ++ outputs, issues)
      | none =>
          if optional || allowsAbsent validator then checkFields fields path entries issues
          else checkFields fields path entries (issues.push ⟨path.key name, .missingRequired⟩)

/-- The output of the first branch that accepts the value. -/
def firstAccepted : List Validator → Json → FieldPath → Option Json
  | [], _, _ => none
  | branch :: branches, value, path =>
      match check branch value path #[] with
      | (some output, issues) =>
          if issues.isEmpty then some output else firstAccepted branches value path
      | (none, _) => firstAccepted branches value path

/-- Check a value by every branch, and collect the outputs. -/
def checkBranches : List Validator → Json → FieldPath → Array Issue → List Json × Array Issue
  | [], _, _, issues => ([], issues)
  | branch :: branches, value, path, issues =>
      let (output, issues) := check branch value path issues
      let (outputs, issues) := checkBranches branches value path issues
      (output.toList ++ outputs, issues)

end

/-- The verdict of a check that started without issues. -/
def verdict (checked : Checked) : Except (List Issue) Json :=
  match checked with
  | (some output, issues) => if issues.isEmpty then .ok output else .error issues.toList
  | (none, issues) => .error issues.toList

/-- The output for a value, or the issues found in it. -/
def validate (validator : Validator) (value : Json) : Except (List Issue) Json :=
  verdict (validator.check value .root #[])

/-- The output for an absent value, which is `null`, or the issue that a value is missing. -/
def validateAbsent (validator : Validator) : Except (List Issue) Json :=
  if validator.allowsAbsent then .ok .null else .error [⟨.root, .missingRequired⟩]

/-- The output for a value that may be absent. -/
def parse (validator : Validator) (value : Option Json) : Except (List Issue) Json :=
  match value with
  | some value => validator.validate value
  | none => validator.validateAbsent

/-- The validator has nothing to say against the value. -/
def accepts (validator : Validator) (value : Json) : Bool :=
  let (output, issues) := validator.check value .root #[]
  output.isSome && issues.isEmpty

end Validator

end ToolGate
