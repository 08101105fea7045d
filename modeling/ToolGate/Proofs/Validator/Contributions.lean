import Mathlib.Data.List.Infix
import ToolGate.Proofs.Validator.Issues
import ToolGate.Proofs.Validator.Positions

/-!
# What the parts contribute

A validator reports all issues of all parts that it hands on.  The issues of
one part stand together, in the order in which the part alone has them, each
with the step to the part in front of its path.  No kind of validator stops
at the first issue, so this passes from one step to every position.  A union
hands nothing on and contributes one issue for itself.
-/

namespace ToolGate

/-- Each piece of a list made of pieces stands in it as a block. -/
theorem infix_flatMap_of_mem {α β : Type} {item : α} {items : List α} (member : item ∈ items)
    (pieces : α → List β) : pieces item <:+: items.flatMap pieces := by
  rcases List.append_of_mem member with ⟨before, after, rfl⟩
  refine ⟨before.flatMap pieces, after.flatMap pieces, ?_⟩
  rw [List.flatMap_append, List.flatMap_cons, List.append_assoc]

namespace Validator

open Verdict ValidatorKind

variable {outer inner : Validator} {value part : Json} {step path : FieldPath}

/-- The issues of a part are reported with the step to it in front. -/
theorem Enters.issues_infix (enters : Enters outer value step inner part) :
    (issues (inner.validate part)).map (Issue.under step) <:+:
      issues (outer.validate value) := by
  cases enters with
  | @element _ _ _ _ elements index _ present =>
      rw [validate_array_issues, Option.toList_some, List.flatMap_singleton]
      have inside : (part, index) ∈ elements.zipIdx := List.mk_mem_zipIdx_iff_getElem?.mpr present
      have block := infix_flatMap_of_mem inside fun piece =>
        (issues (inner.validate piece.1)).map (Issue.under [.index piece.2])
      exact block.trans (List.suffix_append _ _).isInfix
  | @slot slots _ elements index _ _ arity declared present =>
      rw [validate_tuple_issues arity]
      have inside : ((inner, part), index) ∈ (slots.zip elements).zipIdx :=
        List.mk_mem_zipIdx_iff_getElem?.mpr
          (List.getElem?_zip_eq_some.mpr ⟨declared, present⟩)
      exact infix_flatMap_of_mem inside fun piece =>
        (issues (piece.1.1.validate piece.1.2)).map (Issue.under [.index piece.2])
  | @field _ _ _ entries _ _ declared present =>
      rw [validate_object_issues]
      have block := infix_flatMap_of_mem declared (fieldIssues entries)
      rw [fieldIssues, present] at block
      exact block.trans (List.prefix_append _ _).isInfix
  | member present =>
      rw [validate_record_issues]
      exact infix_flatMap_of_mem (Entries.mem_of_lookup present) fun entry =>
        (issues (inner.validate entry.2)).map (Issue.under [.key entry.1])
  | branch member =>
      rw [List.map_id'' Issue.under_root]
      by_cases clean : issues (inner.validate value) = []
      · rw [clean]
        exact List.nil_infix
      · rw [validate_intersection_error member clean, issues_error]
        exact infix_flatMap_of_mem member fun branch => issues (branch.validate value)
  | inner present =>
      rw [List.map_id'' Issue.under_root, validate_nullable_issues present]

/-- The issues of a part are reported with the path to it in front. -/
theorem Reaches.issues_infix (reaches : Reaches outer value path inner part) :
    (issues (inner.validate part)).map (Issue.under path) <:+:
      issues (outer.validate value) := by
  induction reaches with
  | here validator value =>
      rw [List.map_id'' Issue.under_root]
  | @further outer middle inner value part deepPart step path enters _ ih =>
      have oneStepUp := (ih.map (Issue.under step)).trans enters.issues_infix
      have joined : Issue.under step ∘ Issue.under path = Issue.under (step ++ path) :=
        funext (Issue.under_under step path)
      rwa [List.map_map, joined] at oneStepUp

/--
No violation is dropped.  If a validator refuses the part that reaches it, the
whole is refused, and the issues that the part has alone stand together among
its issues, in their order and with the path to the part in front.  Of a union
that refuses, this is one issue at the path of the union.
-/
theorem no_violation_dropped {found : List Issue}
    (reaches : Reaches outer value path inner part) (refused : inner.validate part = .error found) :
    ∃ all, outer.validate value = .error all ∧ found.map (Issue.under path) <:+: all ∧
      ∀ branches, inner.kind = .union branches →
        found.map (Issue.under path) = [⟨path, .noMatchingBranch branches.length⟩] := by
  have reported := reaches.issues_infix
  rw [refused, issues_error] at reported
  have nonempty : found ≠ [] := fun none => inner.validate_ne_error_nil part (none ▸ refused)
  cases verdict : outer.validate value with
  | ok output =>
      rw [verdict, issues_ok, List.infix_nil, List.map_eq_nil_iff] at reported
      exact absurd reported nonempty
  | error all =>
      rw [verdict, issues_error] at reported
      refine ⟨all, rfl, reported, ?_⟩
      intro branches isUnion
      rcases inner with ⟨kind, description⟩
      obtain rfl : kind = .union branches := isUnion
      have allRefuse : ∀ branch ∈ branches, issues (branch.validate part) ≠ [] := by
        intro branch member clean
        have accepted : issues (validate ⟨.union branches, description⟩ part) = [] :=
          validate_union_clean member clean
        rw [refused] at accepted
        exact nonempty accepted
      have one : issues (validate ⟨.union branches, description⟩ part) =
          [⟨.root, .noMatchingBranch branches.length⟩] := validate_union_issues allRefuse
      rw [refused, issues_error] at one
      rw [one, List.map_singleton, Issue.under]
      exact congrArg (fun path => [Issue.mk path _]) (List.append_nil path)

/-- An element that both branches of an intersection refuse, one of them a union. -/
theorem no_violation_dropped_refused_element :
    let choice : Validator := .ofKind (.union [.ofKind .boolean, .ofKind .null])
    let both : Validator := .ofKind (.intersection [.ofKind (.string {}), choice])
    let whole : Validator := .ofKind <| .object
      ⟨[("missing", ⟨choice, false⟩), ("list", ⟨.ofKind (.array ⟨some both, none, none⟩), false⟩)],
        .strict⟩
    let value : Json := .object [("list", .array [.string "a", .array []])]
    let path : FieldPath := [.key "list", .index 1]
    let type : IssueKind := .invalidType "string" "array"
    ∃ all, whole.validate value = .error all ∧
      [⟨path, type⟩, ⟨path, .noMatchingBranch 2⟩] <:+: all ∧
      [⟨path, .noMatchingBranch 2⟩] <:+: all := by
  intro choice both whole value path type
  have toElement : Reaches whole value path both (.array []) :=
    .further (.field (List.mem_cons_of_mem _ List.mem_cons_self) rfl)
      (.further (.element rfl) (.here both _))
  have toUnion : Reaches whole value path choice (.array []) :=
    .further (.field (List.mem_cons_of_mem _ List.mem_cons_self) rfl)
      (.further (.element rfl)
        (.further (.branch (List.mem_cons_of_mem _ List.mem_cons_self)) (.here choice _)))
  have refusedBoth : both.validate (.array []) =
      .error [⟨.root, type⟩, ⟨.root, .noMatchingBranch 2⟩] := rfl
  rcases no_violation_dropped toElement refusedBoth with ⟨all, refused, block, _⟩
  rcases no_violation_dropped toUnion rfl with ⟨_, refusedAgain, blockOfUnion, one⟩
  cases refused.symm.trans refusedAgain
  rw [one _ rfl] at blockOfUnion
  exact ⟨all, refused, block, blockOfUnion⟩

end Validator

end ToolGate
