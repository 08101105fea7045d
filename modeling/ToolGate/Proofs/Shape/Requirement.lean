import ToolGate.Proofs.Validator.Issues
import ToolGate.Shape

/-!
# What a list of required names does

The list of required names only decides which parameters may be missing.  It
counts as a set, and names that are no parameters do not count.  A longer
list changes no output: it adds the issue that a value is missing for every
parameter that it requires in addition, that is missing, and that may not be.
-/

namespace ToolGate

open Verdict ValidatorKind

/-- The declared part of an output depends on what the fields accept, not on what may be missing. -/
theorem ValidatorKind.keyedOutputs_fieldVerdicts (fields : List (String × Field))
    (members : List (String × Json)) :
    keyedOutputs (fields.filterMap (fieldVerdict Validator.validate members)) =
      fields.filterMap fun entry =>
        (members.lookup entry.1).bind fun value =>
          (output? (entry.2.validator.validate value)).map (entry.1, ·) := by
  rw [keyedOutputs, List.filterMap_filterMap]
  congr 1
  funext entry
  unfold fieldVerdict
  cases members.lookup entry.1 with
  | some value => rfl
  | none =>
      by_cases admitted : (entry.2.optional || entry.2.validator.allowsAbsent) = true
      · simp only [admitted, ↓reduceIte, Option.bind_none]
      · simp only [admitted, Bool.false_eq_true, ↓reduceIte, Option.bind_some, Option.bind_none]
        rfl

namespace Shape

variable {policy : UnknownKeys} {parameters : List (String × SchemaNode)}
  {first second : List String}

/-- Only which of the parameters a list names is of importance. -/
theorem infer_congr (same : ∀ name ∈ Entries.names parameters, name ∈ first ↔ name ∈ second) :
    infer policy parameters first = infer policy parameters second := by
  have fields : ∀ entry ∈ parameters,
      (entry.1, (⟨entry.2.compile policy, !first.contains entry.1⟩ : Field)) =
        (entry.1, ⟨entry.2.compile policy, !second.contains entry.1⟩) := by
    intro entry declared
    have named : first.contains entry.1 = second.contains entry.1 := by
      rw [Bool.eq_iff_iff, List.contains_iff_mem, List.contains_iff_mem]
      exact same entry.1 (Entries.mem_names_of_mem declared)
    rw [named]
  rw [infer, infer, List.map_congr_left fields]

/-- The required names are those of the parameters that the list names, in their order. -/
theorem requiredNames_infer (policy : UnknownKeys) (parameters : List (String × SchemaNode))
    (required : List String) :
    (infer policy parameters required).requiredNames =
      (Entries.names parameters).filter required.contains := by
  simp only [requiredNames, infer, Entries.names, List.filter_map, List.map_map,
    Function.comp_def, Bool.not_not]

theorem contains_infer (required : List String) (name : String) :
    Entries.contains (infer policy parameters required).fields name =
      Entries.contains parameters name := by
  simp only [Entries.contains, infer, List.any_map, Function.comp_def]

/-- The verdict on the arguments, parameter by parameter. -/
theorem validate_infer (required : List String) (members : List (String × Json)) :
    (infer policy parameters required).validate (.object members) =
      settle (parameters.flatMap (fun entry => fieldIssues members
            (entry.1, ⟨entry.2.compile policy, !required.contains entry.1⟩)) ++
          undeclaredIssues policy
            (members.filter fun entry => !Entries.contains parameters entry.1))
        (.object (objectOutput (infer policy parameters required).fields policy members)) := by
  have asValidator : (infer policy parameters required).validate (.object members) =
      Validator.validate ⟨.object ⟨(infer policy parameters required).fields, policy⟩, ""⟩
        (.object members) := rfl
  rw [asValidator, Validator.validate_object_eq]
  simp only [contains_infer]
  rw [infer, List.flatMap_map]

/-- Which parameters are required makes no difference to the output. -/
theorem objectOutput_infer (first second : List String) (members : List (String × Json)) :
    objectOutput (infer policy parameters first).fields policy members =
      objectOutput (infer policy parameters second).fields policy members := by
  simp only [objectOutput, keyedOutputs_fieldVerdicts, contains_infer]
  simp only [infer, List.filterMap_map, Function.comp_def]

/-- A parameter that only the second list requires is missing, and may not be. -/
structure NewlyMissing (policy : UnknownKeys) (first second : List String)
    (members : List (String × Json)) (parameter : String × SchemaNode) : Prop where
  required : parameter.1 ∈ second
  new : parameter.1 ∉ first
  missing : members.lookup parameter.1 = none
  constrained : ∀ output, (parameter.2.compile policy).parse none ≠ .ok output

theorem newlyMissing_iff {members : List (String × Json)} {parameter : String × SchemaNode} :
    NewlyMissing policy first second members parameter ↔
      parameter.1 ∈ second ∧ parameter.1 ∉ first ∧ members.lookup parameter.1 = none ∧
        (parameter.2.compile policy).allowsAbsent = false := by
  have constrained : (∀ output, (parameter.2.compile policy).parse none ≠ .ok output) ↔
      (parameter.2.compile policy).allowsAbsent = false := by
    unfold Validator.parse Validator.validateAbsent
    cases (parameter.2.compile policy).allowsAbsent <;> simp
  rw [← constrained]
  constructor
  · rintro ⟨required, new, missing, constrained⟩
    exact ⟨required, new, missing, constrained⟩
  · rintro ⟨required, new, missing, constrained⟩
    exact ⟨required, new, missing, constrained⟩

instance (members : List (String × Json)) (parameter : String × SchemaNode) :
    Decidable (NewlyMissing policy first second members parameter) :=
  decidable_of_iff _ newlyMissing_iff.symm

/-- The parameters that only the second list requires, that are missing and may not be. -/
def newlyMissing (policy : UnknownKeys) (parameters : List (String × SchemaNode))
    (first second : List String) (members : List (String × Json)) : List String :=
  Entries.names (parameters.filter (NewlyMissing policy first second members ·))

/-- The issue that a parameter is missing. -/
def missingIssue (name : String) : Issue :=
  ⟨FieldPath.root.key name, .missingRequired⟩

/-- A parameter has the issues that it has under the first list, and one more if that one is new. -/
theorem fieldIssues_narrowed {members : List (String × Json)} {parameter : String × SchemaNode}
    (narrower : parameter.1 ∈ first → parameter.1 ∈ second) :
    fieldIssues members
        (parameter.1, ⟨parameter.2.compile policy, !second.contains parameter.1⟩) =
      fieldIssues members
          (parameter.1, ⟨parameter.2.compile policy, !first.contains parameter.1⟩) ++
        if NewlyMissing policy first second members parameter then [missingIssue parameter.1]
        else [] := by
  simp only [newlyMissing_iff, fieldIssues, missingIssue]
  cases members.lookup parameter.1 with
  | some value => simp
  | none =>
      by_cases required : parameter.1 ∈ second
      · by_cases before : parameter.1 ∈ first <;>
          cases (parameter.2.compile policy).allowsAbsent <;> simp [required, before]
      · have before : parameter.1 ∉ first := fun listed => required (narrower listed)
        simp [required, before]

theorem mem_newlyMissing_iff {members : List (String × Json)} {name : String} :
    name ∈ newlyMissing policy parameters first second members ↔
      ∃ node, (name, node) ∈ parameters ∧
        NewlyMissing policy first second members (name, node) := by
  simp only [newlyMissing, Entries.mem_names_iff, List.mem_filter, decide_eq_true_eq]

theorem flatMap_missingIssue (first second : List String) (members : List (String × Json)) :
    (parameters.flatMap fun parameter =>
        if NewlyMissing policy first second members parameter then [missingIssue parameter.1]
        else []) =
      (newlyMissing policy parameters first second members).map missingIssue := by
  unfold newlyMissing
  induction parameters with
  | nil => rfl
  | cons parameter rest ih =>
      by_cases new : NewlyMissing policy first second members parameter
      · simp [new, ih]
      · simp [new, ih]

section Narrowed

variable (narrower : ∀ name ∈ Entries.names parameters, name ∈ first → name ∈ second)
include narrower

/-- Under a longer list every parameter has its issues of before, and a new one may be missing. -/
theorem issues_narrowed (members : List (String × Json)) :
    issues ((infer policy parameters second).validate (.object members)) =
      (parameters.flatMap fun parameter =>
        fieldIssues members
            (parameter.1, ⟨parameter.2.compile policy, !first.contains parameter.1⟩) ++
          if NewlyMissing policy first second members parameter then [missingIssue parameter.1]
          else []) ++
        undeclaredIssues policy
          (members.filter fun entry => !Entries.contains parameters entry.1) := by
  rw [validate_infer, issues_settle]
  congr 1
  apply List.flatMap_congr
  intro parameter declared
  exact fieldIssues_narrowed (narrower parameter.1 (Entries.mem_names_of_mem declared))

theorem issues_narrowed_sublist (members : List (String × Json)) :
    (issues ((infer policy parameters first).validate (.object members))).Sublist
      (issues ((infer policy parameters second).validate (.object members))) := by
  rw [issues_narrowed narrower, validate_infer, issues_settle]
  refine List.Sublist.append ?_ (List.Sublist.refl _)
  apply List.Forall₂.flatMap_sublist
  exact List.forall₂_same.mpr fun _ _ => List.sublist_append_left _ _

theorem issues_narrowed_perm (members : List (String × Json)) :
    (issues ((infer policy parameters second).validate (.object members))).Perm
      (issues ((infer policy parameters first).validate (.object members)) ++
        (newlyMissing policy parameters first second members).map missingIssue) := by
  rw [issues_narrowed narrower, validate_infer, issues_settle, ← flatMap_missingIssue]
  -- the new issues stand with their parameters, in front of those of undeclared members
  refine ((List.flatMap_append_perm _ _ _).symm.append_right _).trans ?_
  rw [List.append_assoc, List.append_assoc]
  exact List.perm_append_comm.append_left _

/-- What is accepted under a longer list is accepted before, with the same output. -/
theorem validate_of_narrowed {arguments output : Json}
    (accepted : (infer policy parameters second).validate arguments = .ok output) :
    (infer policy parameters first).validate arguments = .ok output := by
  cases arguments with
  | object members =>
      have fewer : List.Sublist _
          (issues ((infer policy parameters second).validate (.object members))) :=
        issues_narrowed_sublist narrower members
      rw [accepted, issues_ok, List.sublist_nil, validate_infer, issues_settle] at fewer
      rw [validate_infer, settle_eq_ok_iff] at accepted ⊢
      rw [objectOutput_infer first second]
      exact ⟨fewer, accepted.2⟩
  | _ => cases accepted

end Narrowed

/--
The list of required names is a set, and it only narrows.  Lists that name
the same parameters make the same shape.  If the second list names every
parameter that the first one names, then what is accepted under the second is
accepted under the first with the same output; and the issues under the
second are those under the first, in their order, and one more for every
parameter that is newly required, missing, and not accepted as missing.  The
required names of a shape are the parameters in the list, in their order.
-/
theorem required_names_narrow (policy : UnknownKeys) (parameters : List (String × SchemaNode))
    (distinct : Entries.Distinct parameters) (first second : List String) :
    let before := infer policy parameters first
    let after := infer policy parameters second
    ((∀ name ∈ Entries.names parameters, name ∈ first ↔ name ∈ second) → before = after) ∧
    ((∀ name ∈ Entries.names parameters, name ∈ first → name ∈ second) →
      (∀ arguments output, after.validate arguments = .ok output →
        before.validate arguments = .ok output) ∧
      ∀ members : List (String × Json),
        let issuesBefore := issues (before.validate (.object members))
        let issuesAfter := issues (after.validate (.object members))
        issuesBefore.Sublist issuesAfter ∧
        ∃ missing : List String, missing.Nodup ∧
          (∀ name, name ∈ missing ↔ ∃ node, (name, node) ∈ parameters ∧
            NewlyMissing policy first second members (name, node)) ∧
          issuesAfter.Perm (issuesBefore ++ missing.map missingIssue)) ∧
    before.requiredNames = (Entries.names parameters).filter first.contains := by
  intro before after
  refine ⟨infer_congr, ?_, requiredNames_infer policy parameters first⟩
  intro narrower
  refine ⟨fun arguments output => validate_of_narrowed narrower, ?_⟩
  intro members issuesBefore issuesAfter
  refine ⟨issues_narrowed_sublist narrower members,
    newlyMissing policy parameters first second members, ?_,
    fun name => mem_newlyMissing_iff, issues_narrowed_perm narrower members⟩
  exact distinct.filter _

/-- Of two parameters that a longer list requires in addition, one may be missing all the same. -/
theorem required_names_narrow_unconstrained_parameter :
    let text : SchemaNode := { keywords := { type := some .string } }
    let parameters := [("a", text), ("b", text), ("c", ({} : SchemaNode))]
    let before := infer .strict parameters ["ghost", "a"]
    let after := infer .strict parameters ["c", "b", "a", "a"]
    let arguments := Json.object [("b", .string "y"), ("a", .string "x")]
    let members := [("a", Json.null), ("d", .null)]
    before = infer .strict parameters ["a", "a"] ∧
      before.validate arguments = .ok (.object [("a", .string "x"), ("b", .string "y")]) ∧
      before.requiredNames = ["a"] ∧
      ∃ missing : List String, "b" ∈ missing ∧ "c" ∉ missing ∧
        (issues (after.validate (.object members))).Perm
          (issues (before.validate (.object members)) ++ missing.map missingIssue) := by
  intro text parameters before after arguments members
  have distinct : Entries.Distinct parameters := by
    simp [parameters, Entries.distinct_nil]
  have sameNames := (required_names_narrow .strict parameters distinct
    ["ghost", "a"] ["a", "a"]).1
  rcases required_names_narrow .strict parameters distinct ["ghost", "a"] ["c", "b", "a", "a"] with
    ⟨_, narrows, required⟩
  rcases narrows (by decide) with ⟨accepted, issuesOf⟩
  rcases issuesOf members with ⟨_, missing, _, isMissing, added⟩
  refine ⟨sameNames (by decide), accepted _ _ rfl, required, missing, ?_, ?_, added⟩
  · refine (isMissing "b").mpr ⟨text, by simp [parameters], ?_⟩
    exact newlyMissing_iff.mpr ⟨by decide, by decide, rfl, rfl⟩
  · intro listed
    rcases (isMissing "c").mp listed with ⟨node, declared, newlyMissing⟩
    have unconstrained : node = {} := by simpa [parameters] using declared
    rw [unconstrained] at newlyMissing
    exact newlyMissing.constrained .null rfl

end Shape

end ToolGate
