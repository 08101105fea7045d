import ToolGate.FieldPath
import ToolGate.Json.Printer

/-!
# Issues

An issue says which constraint was violated and where.  Its wording and its
JSON form are each one function of the constraint.
-/

namespace ToolGate

/-- A violated constraint. -/
inductive IssueKind where
  /-- The value has another type. -/
  | invalidType (expected received : String)
  /-- A value that must be given is absent. -/
  | missingRequired
  /-- The value is not the literal. -/
  | literalMismatch (expected : Json)
  /-- The string is not one of the allowed ones. -/
  | enumMismatch (allowed : List String)
  /-- The string has too few characters. -/
  | stringTooShort (minimum : UInt64)
  /-- The string has too many characters. -/
  | stringTooLong (maximum : UInt64)
  /-- The array has too few elements. -/
  | tooFewItems (minimum : UInt64)
  /-- The array has too many elements. -/
  | tooManyItems (maximum : UInt64)
  /-- The number lies below a bound. -/
  | belowMinimum (minimum : Binary64) (exclusive : Bool)
  /-- The number lies above a bound. -/
  | aboveMaximum (maximum : Binary64) (exclusive : Bool)
  /-- The number is not whole. -/
  | notAnInteger
  /-- The string does not match the pattern. -/
  | patternMismatch (pattern : String)
  /-- The string does not have the format. -/
  | formatMismatch (format : String)
  /-- The array does not have one element for each slot. -/
  | tupleArity (expected received : Nat)
  /-- The object has a key that no field declares. -/
  | unrecognizedKey (key : String)
  /-- No branch of a union accepts the value. -/
  | noMatchingBranch (branches : Nat)
  /-- The branches of an intersection give values that do not fit together. -/
  | unmergeableIntersection

namespace IssueKind

/-- The wording of a violated constraint. -/
def message : IssueKind → String
  | .invalidType expected received => "expected " ++ expected ++ ", received " ++ received
  | .missingRequired => "required value is missing"
  | .literalMismatch expected => "expected literal " ++ expected.compact
  | .enumMismatch allowed => "must be one of: " ++ ", ".intercalate (allowed.map Json.quote)
  | .stringTooShort minimum => "must be at least " ++ toString minimum ++ " characters long"
  | .stringTooLong maximum => "must be at most " ++ toString maximum ++ " characters long"
  | .tooFewItems minimum => "must have at least " ++ toString minimum ++ " items"
  | .tooManyItems maximum => "must have at most " ++ toString maximum ++ " items"
  | .belowMinimum minimum true => "must be greater than " ++ minimum.plainText
  | .belowMinimum minimum false => "must be at least " ++ minimum.plainText
  | .aboveMaximum maximum true => "must be less than " ++ maximum.plainText
  | .aboveMaximum maximum false => "must be at most " ++ maximum.plainText
  | .notAnInteger => "expected integer, received float"
  | .patternMismatch pattern => "must match pattern " ++ pattern
  | .formatMismatch format => "invalid " ++ format
  | .tupleArity expected received =>
      "expected tuple of " ++ toString expected ++ " items, received " ++ toString received
  | .unrecognizedKey key => "unrecognized key '" ++ key ++ "'"
  | .noMatchingBranch branches =>
      "value matched none of the " ++ toString branches ++ " union branches"
  | .unmergeableIntersection => "intersection branches produced incompatible values"

/-- The name of a constraint and what it was, as JSON members. -/
def members : IssueKind → List (String × Json)
  | .invalidType expected received =>
      [("code", .string "invalid_type"), ("expected", .string expected),
        ("received", .string received)]
  | .missingRequired => [("code", .string "missing_required")]
  | .literalMismatch expected => [("code", .string "literal_mismatch"), ("expected", expected)]
  | .enumMismatch allowed =>
      [("code", .string "enum_mismatch"), ("allowed", .array (allowed.map .string))]
  | .stringTooShort minimum =>
      [("code", .string "string_too_short"), ("minimum", .ofWord minimum)]
  | .stringTooLong maximum =>
      [("code", .string "string_too_long"), ("maximum", .ofWord maximum)]
  | .tooFewItems minimum => [("code", .string "too_few_items"), ("minimum", .ofWord minimum)]
  | .tooManyItems maximum => [("code", .string "too_many_items"), ("maximum", .ofWord maximum)]
  | .belowMinimum minimum exclusive =>
      [("code", .string "below_minimum"), ("minimum", .ofBinary64 minimum),
        ("exclusive", .bool exclusive)]
  | .aboveMaximum maximum exclusive =>
      [("code", .string "above_maximum"), ("maximum", .ofBinary64 maximum),
        ("exclusive", .bool exclusive)]
  | .notAnInteger => [("code", .string "not_an_integer")]
  | .patternMismatch pattern =>
      [("code", .string "pattern_mismatch"), ("pattern", .string pattern)]
  | .formatMismatch format => [("code", .string "format_mismatch"), ("format", .string format)]
  | .tupleArity expected received =>
      [("code", .string "tuple_arity"), ("expected", .ofNat expected),
        ("received", .ofNat received)]
  | .unrecognizedKey key => [("code", .string "unrecognized_key"), ("key", .string key)]
  | .noMatchingBranch branches =>
      [("code", .string "no_matching_branch"), ("branches", .ofNat branches)]
  | .unmergeableIntersection => [("code", .string "unmergeable_intersection")]

end IssueKind

/-- A violated constraint and the path of the value that violates it. -/
structure Issue where
  /-- Where the value is. -/
  path : FieldPath
  /-- What it violates. -/
  kind : IssueKind

namespace Issue

/-- The wording of an issue. -/
def message (issue : Issue) : String :=
  issue.path.display ++ ": " ++ issue.kind.message

/-- An issue as a JSON object. -/
def toJson (issue : Issue) : Json :=
  .object (("path", issue.path.toJson) :: issue.kind.members)

/-- The same issue with its value found below another path. -/
def under (path : FieldPath) (issue : Issue) : Issue :=
  { issue with path := path ++ issue.path }

/-- The wording of a list of issues. -/
def messages (issues : List Issue) : String :=
  "; ".intercalate (issues.map message)

/-- Some issue of the list stands at the path. -/
def anyAt (issues : List Issue) (path : FieldPath) : Bool :=
  issues.any (fun issue => issue.path == path)

end Issue

end ToolGate
