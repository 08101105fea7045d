import Mathlib.Data.List.TakeWhile
import ToolGate.Proofs.Pattern.Programs

/-!
# Programs of nodes

The program of a node leads onward only as the node allows.  A sequence is
tried part by part between two runs that are matched in one pass; every
other node is written in one of the ways that are known to be sound.
-/

namespace ToolGate.Pattern.Machine

namespace Scene

variable {scene : Scene} {part : Emit}

/-! ## Sequences -/

section Sequence

variable {first last index : Nat} {parts : List Node}

theorem allRegular_iff {groups : List Nat} {nodes : List Node} :
    Node.allRegular groups nodes = true ↔ ∀ node ∈ nodes, node.isRegular groups = true := by
  induction nodes with
  | nil => simp [Node.allRegular]
  | cons node nodes ih => simp [Node.allRegular, ih]

/-- What is written for a part of a sequence stands before what is written for the others. -/
theorem emitSequence_cons (part : Node) (draft : Draft) :
    emitSequence scene.groups first last index (part :: parts) draft =
      (if index = 0 ∧ 0 < first then emitRegular ((part :: parts).take first) draft
      else if index = last then emitRegular (part :: parts) draft
      else if first ≤ index ∧ index < last then emitNode scene.groups part true draft
      else some draft).bind (emitSequence scene.groups first last (index + 1) parts) := by
  rw [emitSequence]
  dsimp only
  split_ifs <;> rfl

/-- Behind the run that ends a sequence nothing is written. -/
theorem emitSequence_behind (behind : last < index) (within : first ≤ index) (draft : Draft) :
    emitSequence scene.groups first last index parts draft = some draft := by
  induction parts generalizing index with
  | nil => rfl
  | cons part parts ih =>
    rw [emitSequence_cons, if_neg (by omega), if_neg (by omega), if_neg (by omega)]
    exact ih (by omega) (by omega)

/-- Between the two runs all parts are tried. -/
theorem sound_emitSequence_middle (front : 0 < index ∨ first = 0) (begun : first ≤ index)
    (ending : index ≤ last)
    (tried : ∀ part ∈ parts,
      scene.Sound (emitNode scene.groups part true) (part.Traverses scene.text))
    (regular : ∀ part ∈ parts.drop (last - index), part.isRegular scene.groups = true) :
    scene.Sound (emitSequence scene.groups first last index parts)
      (PartsTraverse scene.text parts) := by
  induction parts generalizing index with
  | nil => exact .skip
  | cons part parts ih =>
    by_cases atLast : index = last
    · subst atLast
      rw [Nat.sub_self, List.drop_zero] at regular
      have written : emitSequence scene.groups first index index (part :: parts) =
          emitRegular (part :: parts) := by
        funext draft
        have nothing : emitSequence scene.groups first index (index + 1) parts = some := by
          funext draft
          exact emitSequence_behind (Nat.lt_succ_self index) (Nat.le_succ_of_le begun) draft
        rw [emitSequence_cons, if_neg (by omega), if_pos rfl, nothing, Option.bind_fun_some]
      rw [written]
      exact .regular (allRegular_iff.mpr regular)
    · have written : emitSequence scene.groups first last index (part :: parts) = fun draft =>
          (emitNode scene.groups part true draft).bind
            (emitSequence scene.groups first last (index + 1) parts) := by
        funext draft
        rw [emitSequence_cons, if_neg (by omega), if_neg atLast, if_pos (by omega)]
      rw [written]
      refine (tried part List.mem_cons_self).seq (ih (.inl (Nat.succ_pos _)) (by omega) (by omega)
        (fun other member => tried other (List.mem_cons_of_mem _ member)) ?_)
      have : last - index = last - (index + 1) + 1 := by omega
      rw [this, List.drop_succ_cons] at regular
      exact regular

/-- Inside the run that begins a sequence nothing is written. -/
theorem sound_emitSequence_front (begun : 0 < index) (within : index ≤ first)
    (ending : first ≤ last)
    (tried : ∀ part ∈ parts,
      scene.Sound (emitNode scene.groups part true) (part.Traverses scene.text))
    (regular : ∀ part ∈ parts.drop (last - index), part.isRegular scene.groups = true) :
    scene.Sound (emitSequence scene.groups first last index parts)
      (PartsTraverse scene.text (parts.drop (first - index))) := by
  induction parts generalizing index with
  | nil =>
    rw [List.drop_nil]
    exact .skip
  | cons part parts ih =>
    by_cases atFirst : index = first
    · subst atFirst
      rw [Nat.sub_self, List.drop_zero]
      exact sound_emitSequence_middle (.inl begun) (Nat.le_refl _) ending tried regular
    · have written : emitSequence scene.groups first last index (part :: parts) =
          emitSequence scene.groups first last (index + 1) parts := by
        funext draft
        rw [emitSequence_cons, if_neg (by omega), if_neg (by omega), if_neg (by omega)]
        rfl
      have : first - index = first - (index + 1) + 1 := by omega
      rw [written, this, List.drop_succ_cons]
      have : last - index = last - (index + 1) + 1 := by omega
      rw [this, List.drop_succ_cons] at regular
      exact ih (Nat.succ_pos _) (by omega)
        (fun other member => tried other (List.mem_cons_of_mem _ member)) regular

/-- A sequence between two regular runs. -/
theorem sound_emitSequence (ending : first ≤ last)
    (begins : ∀ part ∈ parts.take first, part.isRegular scene.groups = true)
    (ends : ∀ part ∈ parts.drop last, part.isRegular scene.groups = true)
    (tried : ∀ part ∈ parts,
      scene.Sound (emitNode scene.groups part true) (part.Traverses scene.text)) :
    scene.Sound (emitSequence scene.groups first last 0 parts)
      (PartsTraverse scene.text parts) := by
  cases first with
  | zero => exact sound_emitSequence_middle (.inr rfl) (Nat.le_refl _) (Nat.zero_le _) tried ends
  | succ first =>
    cases parts with
    | nil => exact .skip
    | cons part parts =>
      have written : emitSequence scene.groups (first + 1) last 0 (part :: parts) = fun draft =>
          (emitRegular ((part :: parts).take (first + 1)) draft).bind
            (emitSequence scene.groups (first + 1) last 1 parts) := by
        funext draft
        rw [emitSequence_cons, if_pos (by omega)]
      obtain ⟨last, rfl⟩ : ∃ less, last = less + 1 := ⟨last - 1, by omega⟩
      rw [written]
      refine ((Sound.regular (allRegular_iff.mpr begins)).seq
        (sound_emitSequence_front Nat.one_pos (by omega) ending
          (fun other member => tried other (List.mem_cons_of_mem _ member)) ends)).imp ?_
      rintro p q ⟨k, run, others⟩
      have := run.append others
      rwa [Nat.add_sub_cancel, ← List.drop_succ_cons, List.take_append_drop] at this

/-- The nodes at the start of a list are of their kind. -/
theorem forall_mem_take_leading (test : Node → Bool) (nodes : List Node) :
    ∀ node ∈ nodes.take (leading test nodes), test node = true := by
  intro node member
  have kept : nodes.take (leading test nodes) = nodes.takeWhile test :=
    (List.prefix_iff_eq_take.mp (List.takeWhile_prefix test)).symm
  rw [kept] at member
  exact List.mem_takeWhile_imp member

/-- The nodes at the end of a list are of their kind. -/
theorem forall_mem_drop_leading (test : Node → Bool) (nodes : List Node) :
    ∀ node ∈ nodes.drop (nodes.length - leading test nodes.reverse), test node = true := by
  intro node member
  have reversed := forall_mem_take_leading test nodes.reverse node
  rw [← List.mem_reverse, List.reverse_take, List.reverse_reverse, List.length_reverse] at reversed
  exact reversed member

theorem leading_le_length (test : Node → Bool) (nodes : List Node) :
    leading test nodes ≤ nodes.length :=
  (List.takeWhile_prefix test).length_le

/-- The two runs of a sequence are regular, and do not overlap. -/
theorem regularEnds_spec (groups : List Nat) (trying : Bool) (parts : List Node) :
    let ends := regularEnds groups trying parts
    ends.1 ≤ parts.length - ends.2 ∧
      (∀ part ∈ parts.take ends.1, part.isRegular groups = true) ∧
      ∀ part ∈ parts.drop (parts.length - ends.2), part.isRegular groups = true := by
  intro ends
  have plain : ∀ node : Node, (node.isRegular groups && node.hasFixedLength) = true →
      node.isRegular groups = true := by
    intro node both
    exact (Bool.and_eq_true _ _ ▸ both).1
  have fewer : ends.1 ≤ parts.length := leading_le_length _ _
  have rest : (parts.drop ends.1).length = parts.length - ends.1 := List.length_drop
  have kind : ∃ test : Node → Bool, ends.2 = leading test (parts.drop ends.1).reverse ∧
      ∀ node, test node = true → node.isRegular groups = true := by
    cases trying with
    | true => exact ⟨_, rfl, plain⟩
    | false => exact ⟨_, rfl, fun _ => id⟩
  obtain ⟨test, same, regular⟩ := kind
  have fewerStill : ends.2 ≤ parts.length - ends.1 := by
    rw [same, ← rest, ← List.length_reverse]
    exact leading_le_length _ _
  refine ⟨by omega, fun node member => ?_, fun node member => ?_⟩
  · exact plain node (forall_mem_take_leading _ parts node member)
  · refine regular node (forall_mem_drop_leading test (parts.drop ends.1) node ?_)
    have : ends.1 + (parts.length - ends.1 - ends.2) = parts.length - ends.2 := by omega
    rwa [← same, rest, List.drop_drop, this]

end Sequence

/-! ## Nodes -/

/-- The groups that are referred to count, and the slots of all groups are there. -/
structure Fits (scene : Scene) (references : List Nat) (last : Nat) : Prop where
  /-- What is referred to counts. -/
  references : ∀ group ∈ references, group ∈ scene.groups
  /-- The slots of the groups stand before all others. -/
  groups : 2 * last + 1 < scene.base

theorem Fits.mono {references fewer : List Nat} {last less : Nat}
    (fits : scene.Fits references last) (subset : fewer ⊆ references) (le : less ≤ last) :
    scene.Fits fewer less where
  references group member := fits.references group (subset member)
  groups := by
    have := fits.groups
    omega

/-- One of some branches is matched. -/
theorem sound_emitBranches {branches : List Node} {trying : Bool}
    (each : ∀ branch ∈ branches,
      scene.Sound (emitNode scene.groups branch trying) (branch.Traverses scene.text)) :
    scene.Sound (emitBranches scene.groups branches trying)
      (BranchesTraverse scene.text branches) := by
  match branches with
  | [] => exact .skip
  | [branch] => exact each branch List.mem_cons_self
  | branch :: second :: branches =>
    exact (each branch List.mem_cons_self).branch
      (sound_emitBranches fun other member => each other (List.mem_cons_of_mem _ member))

/-- What is seen behind a place is matched there, and ends at the place. -/
theorem Sound.lookBehind {node : Node}
    (sound : scene.Sound part (node.Traverses scene.text)) :
    scene.Sound (emitLook true node part) ((Node.look true false node).Traverses scene.text) := by
  refine (sound.look true node).imp ?_
  rintro p _ ⟨l, ⟨k, ⟨fixed, far, rfl⟩, matched⟩, rfl⟩
  have there : l.index = p.index := by
    have := index_of_traverses node fixed matched
    simp only [Point.index_moveTo] at this
    omega
  refine ⟨rfl, p.index - node.leastLength, ?_⟩
  have same : l.moveTo p.index = l := by
    rw [← there]
    rfl
  rwa [same]

theorem sound_emitLooks {branches : List Node}
    (each : ∀ branch ∈ branches,
      scene.Sound (emitNode scene.groups branch false) (branch.Traverses scene.text)) :
    scene.Sound (emitLooks scene.groups branches)
      ((Node.look true false (.alternatives branches)).Traverses scene.text) := by
  match branches with
  | [] => exact Sound.skip.imp fun p q same => ⟨congrArg Point.index same, p.index, same⟩
  | [branch] => exact (each branch List.mem_cons_self).lookBehind
  | branch :: second :: branches =>
    refine ((each branch List.mem_cons_self).lookBehind.branch
      (sound_emitLooks fun other member => each other (List.mem_cons_of_mem _ member))).imp ?_
    rintro p q (⟨there, first, matched⟩ | ⟨there, first, matched⟩)
    · exact ⟨there, first, .inl matched⟩
    · exact ⟨there, first, .inr matched⟩

theorem sound_emitNegatedLooks {branches : List Node}
    (each : ∀ branch ∈ branches,
      scene.Sound (emitNode scene.groups branch false) (branch.Traverses scene.text)) :
    scene.Sound (emitNegatedLooks scene.groups branches) (fun p q => q = p) := by
  induction branches with
  | nil => exact .skip
  | cons branch branches ih =>
    refine (((each branch List.mem_cons_self).negatedLook true branch).seq
      (ih fun other member => each other (List.mem_cons_of_mem _ member))).imp ?_
    rintro p q ⟨k, rfl, rfl⟩
    rfl

/-- A look is written for its node, or for each branch by itself. -/
theorem sound_emitLook {behind negated trying : Bool} {inner : Node}
    (sound : scene.Sound (emitNode scene.groups inner false) (inner.Traverses scene.text))
    (each : ∀ branches, inner = .alternatives branches → ∀ branch ∈ branches,
      scene.Sound (emitNode scene.groups branch false) (branch.Traverses scene.text)) :
    scene.Sound (emitNode scene.groups (.look behind negated inner) trying)
      ((Node.look behind negated inner).Traverses scene.text) := by
  have alone : scene.Sound (fun draft =>
      if negated then emitNegatedLook behind inner (emitNode scene.groups inner false) draft
      else emitLook behind inner (emitNode scene.groups inner false) draft)
      ((Node.look behind negated inner).Traverses scene.text) := by
    cases negated with
    | true => exact sound.negatedLook behind inner
    | false =>
      cases behind with
      | true => exact sound.lookBehind
      | false =>
        refine (sound.look false inner).imp ?_
        rintro p q ⟨l, ⟨_, rfl, matched⟩, rfl⟩
        exact ⟨l, matched, rfl⟩
  unfold emitNode
  split
  · rename_i branches apart
    obtain rfl : behind = true := (Bool.and_eq_true _ _ ▸ apart).1
    cases negated with
    | true => exact sound_emitNegatedLooks (each branches rfl)
    | false => exact sound_emitLooks (each branches rfl)
  · exact alone

/-- A regular node is matched in one pass. -/
theorem Sound.regularNode {node : Node} (regular : node.isRegular scene.groups = true) :
    scene.Sound (emitRegular [node]) (node.Traverses scene.text) := by
  refine (Sound.regular (allRegular_iff.mpr (by simpa using regular))).imp ?_
  rintro p q ⟨k, matched, rfl⟩
  exact matched

mutual

/-- The program of a node leads onward as the node allows. -/
theorem sound_emitNode (node : Node) (fits : scene.Fits node.references (lastGroup node))
    (trying : Bool) :
    scene.Sound (emitNode scene.groups node trying) (node.Traverses scene.text) := by
  match node with
  | .empty => exact .ite (fun _ => .skip) fun _ => (Sound.regular rfl)
  | .char set => exact .take set
  | .anchor anchor =>
    refine .ite (fun regular => .regularNode ?_) fun _ => .require anchor
    exact (Bool.and_eq_true _ _ ▸ regular).2
  | .concat parts =>
    obtain ⟨apart, begins, ends⟩ := regularEnds_spec scene.groups trying parts
    have tried := sound_emitNodes parts fits true
    refine .ite (fun regular => .regular ?_) fun _ => sound_emitSequence apart begins ends tried
    exact (Bool.and_eq_true _ _ ▸ regular).2
  | .alternatives branches =>
    refine .ite (fun regular => .regularNode ?_) fun _ =>
      sound_emitBranches (sound_emitNodes branches fits trying)
    exact (Bool.and_eq_true _ _ ▸ regular).2
  | .group group inner =>
    have opened : 2 * group + 1 < scene.base := by
      have := fits.groups
      rw [lastGroup] at this
      omega
    have sound := sound_emitNode inner
      (fits.mono (List.Subset.refl _) (Nat.le_max_right _ _)) trying
    refine .ite (fun regular => .regularNode ?_) fun _ => ?_
    · exact (Bool.and_eq_true _ _ ▸ regular).2
    · refine ((Sound.openGroup (Nat.lt_of_succ_lt opened)).seq
        (sound.seq (.closeGroup opened))).imp ?_
      rintro p q ⟨_, rfl, k, matched, rfl⟩
      exact ⟨k, matched, rfl⟩
  | .look behind negated inner =>
    exact sound_emitLook (sound_emitNode inner fits false) (sound_emitInner inner fits)
  | .repeated least most greedy inner =>
    have sound := sound_emitNode inner fits
    refine .ite (fun regular => .regularNode ?_) fun _ => .ite ?_ fun _ => ?_
    · exact (Bool.and_eq_true _ _ ▸ regular).2
    · rintro ⟨rfl, rfl⟩
      refine ((sound trying).optional greedy).imp ?_
      rintro p q (matched | rfl)
      · exact ⟨1, .inl (Nat.zero_le _), by simp, q, matched, rfl⟩
      · exact ⟨0, .inl (Nat.le_refl _), by simp, rfl⟩
    · refine ((sound _).repetition greedy _).imp ?_
      rintro p q ⟨count, enough, few, times⟩
      rw [Nat.zero_add] at enough few
      exact ⟨count, enough, few, times⟩
  | .backreference group => exact .repeatGroup (fits.references group List.mem_cons_self)
  | .atomic inner =>
    refine (Sound.beginAtomic.seq ((sound_emitNode inner fits false).seq .endAtomic)).imp ?_
    rintro p q ⟨_, rfl, k, matched, rfl⟩
    exact matched
  | .restart =>
    have there : 2 * 0 < scene.base := by
      have := fits.groups
      omega
    exact Sound.openGroup there
  | .searchStart => exact .requireSearchStart
  | .groupMatched group => exact .requireGroup (fits.references group List.mem_cons_self)
  | .conditional condition yes no =>
    have fitsOthers : scene.Fits (yes.references ++ no.references)
        (max (lastGroup yes) (lastGroup no)) :=
      fits.mono (List.subset_append_right _ _) (Nat.le_max_right _ _)
    have first := sound_emitNode condition
      (fits.mono (List.subset_append_left _ _) (Nat.le_max_left _ _)) trying
    have second := sound_emitNode yes
      (fitsOthers.mono (List.subset_append_left _ _) (Nat.le_max_left _ _)) trying
    have otherwise := sound_emitNode no
      (fitsOthers.mono (List.subset_append_right _ _) (Nat.le_max_right _ _)) trying
    exact first.conditional second otherwise

/-- The branches inside a node, each by itself. -/
theorem sound_emitInner (node : Node) (fits : scene.Fits node.references (lastGroup node))
    (branches : List Node) (same : node = .alternatives branches) :
    ∀ branch ∈ branches,
      scene.Sound (emitNode scene.groups branch false) (branch.Traverses scene.text) := by
  match node with
  | .alternatives others =>
    have each := sound_emitNodes others fits false
    cases same
    exact each
  | .empty | .char _ | .anchor _ | .concat _ | .group .. | .look .. | .repeated ..
    | .backreference _ | .atomic _ | .restart | .searchStart | .groupMatched _
    | .conditional .. => cases same

theorem sound_emitNodes (nodes : List Node)
    (fits : scene.Fits (Node.allReferences nodes) (lastGroups nodes)) (trying : Bool) :
    ∀ node ∈ nodes,
      scene.Sound (emitNode scene.groups node trying) (node.Traverses scene.text) := by
  match nodes with
  | [] => simp
  | first :: nodes =>
    rintro node (_ | ⟨_, member⟩)
    · exact sound_emitNode first
        (fits.mono (List.subset_append_left _ _) (Nat.le_max_left _ _)) trying
    · exact sound_emitNodes nodes
        (fits.mono (List.subset_append_right _ _) (Nat.le_max_right _ _)) trying node member

end

end Scene

/-! ## Whole programs -/

/-- What stands before the program of a node: a search for the place where a match starts. -/
def searching (slots : Nat) : Draft where
  instructions := #[.split 3 1, .take .all, .jump 0, .mark 0]
  slots

/-- From a search the way leads to the program behind it, at some place of the text. -/
theorem leads_of_searching {scene : Scene} {final : Array Instruction} {slots length : Nat}
    {c : Configuration} (agree : Agree (searching slots).instructions final 0 4)
    (place : c.place = 0) (room : 0 < c.slots.size) (blank : ∀ slot, c.slot? slot = none)
    (way : Leads final scene.text length c) :
    ∃ d index left, d.place = 4 ∧ scene.Stands d (.start index) ∧ d.slots.size = c.slots.size ∧
      Leads final scene.text left d := by
  have search : final[0]? = some (.split 3 1) := agree 0 (Nat.le_refl _) (by decide)
  have skip : final[1]? = some (.take .all) := agree 1 (by decide) (by decide)
  have again : final[2]? = some (.jump 0) := agree 2 (by decide) (by decide)
  have begins : final[3]? = some (.mark 0) := agree 3 (by decide) (by decide)
  induction length using Nat.strong_induction_on generalizing c with
  | _ length ih =>
    obtain ⟨d, left, shorter, rfl | rfl, onward⟩ := way.next place search (by simp)
    · obtain ⟨d, rest, _, rfl, onward⟩ := onward.next rfl begins (by simp)
      have stands : scene.Stands (c.goTo 3) ⟨c.index, fun _ => none, fun _ => none⟩ :=
        ⟨rfl, fun group _ => blank _, fun group _ => blank _⟩
      refine ⟨_, c.index, rest, rfl, (stands.openGroup room).step, ?_, onward⟩
      rw [Configuration.slots_step, Configuration.size_slots_write]
      rfl
    · obtain ⟨d, rest, less, ⟨rfl, _⟩, onward⟩ := onward.next rfl skip (by simp)
      obtain ⟨d, last, lesser, rfl, onward⟩ := onward.next rfl again (by simp)
      exact ih last (by omega) (c := ((c.goTo 1).moveTo (c.index + 1)).goTo 0) rfl room blank onward

/-- At first nothing is in the slots. -/
theorem slot?_replicate {place index count : Nat} {atomics : List Nat} (slot : Nat) :
    ({ place, index, slots := Array.replicate count none, atomics } : Configuration).slot? slot =
      none := by
  simp only [Configuration.slot?, Array.getElem?_replicate]
  split <;> rfl

/-- Where a program matches, its node leads from the start of a match to another point. -/
theorem traverses_of_matchesIn {expression : Expression} {program : Program} {text : Array Char}
    (closed : ∀ group ∈ expression.root.references, group ∈ expression.referenced)
    (opened : ∀ group ∈ expression.referenced, group ≤ lastGroup expression.root)
    (made : Program.ofExpression? expression = some program)
    (found : matchesIn program text = true) :
    ∃ index q, expression.root.Traverses text (.start index) q := by
  let scene : Scene :=
    { text
      groups := expression.referenced
      base := 2 * (lastGroup expression.root + 1)
      within := fun group member => by
        have := opened group member
        omega }
  have fits : scene.Fits expression.root.references (lastGroup expression.root) :=
    ⟨closed, by show _ < 2 * _; omega⟩
  have sound := scene.sound_emitNode expression.root fits true
  obtain ⟨draft, emitted, rest⟩ := Option.bind_eq_some_iff.mp made
  cases rest
  have grows := sound.grows emitted
  obtain ⟨length, way⟩ : ∃ length, Leads ((draft.add (.mark 1)).instructions.push .succeed)
      scene.text length
      { place := 0, index := 0, slots := Array.replicate draft.slots none, atomics := [] } :=
    leads_of_matchesIn found
  have slots : 2 * (lastGroup expression.root + 1) ≤ draft.slots := grows.slots
  have agree : Agree draft.instructions
      ((draft.add (.mark 1)).instructions.push .succeed) 0 draft.size := by
    intro place _ before
    have : place < (draft.add (.mark 1)).size := by
      rw [Draft.size_add]
      exact Nat.lt_succ_of_lt before
    exact (getElem?_push_of_lt this).trans (getElem?_push_of_lt before)
  have search : Agree (searching scene.base).instructions
      ((draft.add (.mark 1)).instructions.push .succeed) 0 4 :=
    (agree.narrow (Nat.le_refl _) grows.size).of_extends grows (Nat.le_refl _)
  have room : (Array.replicate draft.slots (none : Option Nat)).size = draft.slots :=
    Array.size_replicate
  obtain ⟨d, index, left, place, stands, size, onward⟩ :=
    leads_of_searching search rfl (by rw [room]; omega) slot?_replicate way
  obtain ⟨_, q, _, _, matched, _⟩ := sound.leads emitted (Nat.le_refl _)
    (size.trans room).ge (agree.narrow (Nat.zero_le _) (Nat.le_refl _)) place stands onward
  exact ⟨index, q, matched⟩

end ToolGate.Pattern.Machine
