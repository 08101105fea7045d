import ToolGate.Proofs.Schema.Compilation
import ToolGate.Proofs.Validator.Intersection

/-!
# The normal form of compiled trees

Compilation leaves nothing degenerate behind.  A composition of no branches
or of one does not become a union or an intersection, a list of admitted
strings is not empty and makes every other rule for strings superfluous, only
known formats are kept, sizes are bounded only where elements are checked,
and all objects of a tree treat undeclared members alike and require what
they declare.  This holds of every node, whatever its keywords say, and so an
issue about alternatives always speaks of several.
-/

namespace ToolGate

/-- Strings are listed, at least one and with no other rule, or follow rules with known formats. -/
structure StringRules.Normal (rules : StringRules) : Prop where
  /-- A list of admitted strings is not empty. -/
  nonempty : rules.allowed ≠ some []
  /-- A list of admitted strings is the only rule. -/
  alone : ∀ allowed, rules.allowed = some allowed → rules = { allowed := some allowed }
  /-- No format is an unknown one. -/
  known : ∀ name, rules.format ≠ some (.other name)

/-- The kind is one that compilation under a policy may leave in a tree. -/
def ValidatorKind.Normal (policy : UnknownKeys) : ValidatorKind → Prop
  | .string rules => rules.Normal
  | .array ⟨items, minItems, maxItems⟩ => items = none → minItems = none ∧ maxItems = none
  | .object ⟨fields, unknownKeys⟩ =>
      unknownKeys = policy ∧ ∀ entry ∈ fields, entry.2.optional = false
  | .union branches => 2 ≤ branches.length
  | .intersection branches => 2 ≤ branches.length
  | _ => True

namespace SchemaNode

variable {policy : UnknownKeys} {node : SchemaNode}

theorem knownFormat?_ne_other (keywords : Keywords) (name : String) :
    knownFormat? keywords ≠ some (.other name) := by
  unfold knownFormat?
  split
  · simp
  · rename_i known
    exact known name

/-- What is made of a node is normal. -/
theorem Makes.normal {kind : ValidatorKind} (makes : Makes policy node kind) :
    kind.Normal policy := by
  cases makes with
  | text =>
      exact
        { nonempty := by simp
          alone := by simp
          known := knownFormat?_ne_other node.keywords }
  | @texts values allowed given read =>
      have nonempty : allowed ≠ [] := by
        rintro rfl
        exact (enumeration?_eq_some_iff.mp given).2 (strings?_eq_some_iff.mp read)
      exact
        { nonempty := by simpa using nonempty
          alone := by
            intro others same
            rw [← Option.some.inj same]
          known := by simp }
  | object declared =>
      refine ⟨rfl, ?_⟩
      rw [List.forall_mem_map]
      exact fun entry _ => rfl
  | anyArray => exact fun _ => ⟨rfl, rfl⟩
  | union several => exact several
  | intersection several => exact several
  | array items =>
      intro none
      cases none
  | _ => trivial

/-- A compiled tree is normal everywhere. -/
theorem everywhere_normal (policy : UnknownKeys) (node : SchemaNode) :
    (node.compile policy).Everywhere (ValidatorKind.Normal policy) :=
  everywhere_of_makes (fun _ _ _ _ => trivial) (fun _ _ _ makes => makes.normal) trivial

end SchemaNode

namespace Validator

/-- Where all unions have several branches, issues about them report several. -/
theorem two_le_of_noMatchingBranch {validator : Validator}
    (unions : validator.Everywhere fun kind =>
      ∀ branches, kind = .union branches → 2 ≤ branches.length)
    {value : Json} {issue : Issue} (reported : issue ∈ Verdict.issues (validator.validate value))
    {count : Nat} (same : issue.kind = .noMatchingBranch count) : 2 ≤ count := by
  let several : IssueKind → Prop := fun kind => ∀ count, kind = .noMatchingBranch count → 2 ≤ count
  have elementary : ∀ kind : IssueKind, kind.IsElementary → several kind := by
    rintro _ isElementary count rfl
    cases isElementary
  have conflict : several .unmergeableIntersection := by
    intro count same
    cases same
  have reportsSeveral : validator.Everywhere fun kind =>
      ∀ branches, kind = .union branches → several (.noMatchingBranch branches.length) := by
    refine unions.imp ?_
    intro kind atLeastTwo branches isUnion count same
    rw [← IssueKind.noMatchingBranch.inj same]
    exact atLeastTwo branches isUnion
  exact confined_validate elementary reportsSeveral (.inl conflict) issue reported count same

end Validator

open Validator

/--
Compiled trees are in normal form.  Whatever a node says, and under every
policy, each kind in the compiled tree is normal, and what is found in a
value, or in its absence, never speaks of fewer than two branches.
-/
theorem compiled_normal (node : SchemaNode) (policy : UnknownKeys) :
    (node.compile policy).Everywhere (ValidatorKind.Normal policy) ∧
      ∀ given found, (node.compile policy).parse given = .error found →
        ∀ issue ∈ found, ∀ count, issue.kind = .noMatchingBranch count → 2 ≤ count := by
  have normal := SchemaNode.everywhere_normal policy node
  refine ⟨normal, ?_⟩
  intro given found refused issue member count same
  cases given with
  | some value =>
      have unions : (node.compile policy).Everywhere fun kind =>
          ∀ branches, kind = .union branches → 2 ≤ branches.length := by
        refine normal.imp ?_
        rintro _ isNormal branches rfl
        exact isNormal
      have reported : issue ∈ Verdict.issues ((node.compile policy).validate value) := by
        have verdict : (node.compile policy).validate value = .error found := refused
        rwa [verdict]
      exact two_le_of_noMatchingBranch unions reported same
  | none =>
      rw [parse, validateAbsent] at refused
      split at refused
      · cases refused
      · cases refused
        rw [List.mem_singleton.mp member] at same
        cases same

/-- Alternatives of a list of values and of a composition of one branch, for a value of neither. -/
theorem compiled_normal_listed_or_single :
    let listed : SchemaNode :=
      { keywords := { type := some .string, enumeration := some [.string "small", .null] } }
    let single : SchemaNode := { oneOf := some [{ keywords := { type := some .boolean } }] }
    let node : SchemaNode :=
      { keywords := { type := some .object }
        properties := some [("size", { anyOf := some [listed, single] })] }
    let value : Json := .object [("size", .string "medium")]
    (node.compile .strict).Everywhere (ValidatorKind.Normal .strict) ∧
      ∃ issue count, (node.compile .strict).parse (some value) = .error [issue] ∧
        issue.kind = .noMatchingBranch count ∧ 2 ≤ count := by
  intro listed single node value
  let issue : Issue := ⟨[.key "size"], .noMatchingBranch 2⟩
  have refused : (node.compile .strict).parse (some value) = .error [issue] := rfl
  rcases compiled_normal node .strict with ⟨normal, several⟩
  exact ⟨normal, issue, 2, refused, rfl,
    several (some value) [issue] refused issue List.mem_cons_self 2 rfl⟩

end ToolGate
