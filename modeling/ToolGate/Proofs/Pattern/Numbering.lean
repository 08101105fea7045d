import ToolGate.Proofs.Pattern.Meaning
import ToolGate.Proofs.Pattern.Anchoring

/-!
# The numbers of groups

Groups are numbered in the order in which they are opened, and every group
that has been opened stands in the tree.  A group can only be referred to
when it has been opened, and whatever the tree refers to is noted.

The one thing to watch is that a piece is dropped when no character has been
taken for it: then it has opened no group, because each group takes a
parenthesis.
-/

namespace ToolGate.Pattern

open Read Machine

/-! ## Readings that open no groups -/

/-- A reading neither opens groups nor refers to them. -/
def Quiet {α : Type} (m : Read α) : Prop :=
  ∀ state result after, m state = some (result, after) →
    after.groups = state.groups ∧ after.referenced = state.referenced ∧ state.taken ≤ after.taken

section Quiet

variable {α β : Type} {m n : Read α} {k : α → Read β}

theorem Quiet.bind (first : Quiet m) (next : ∀ result, Quiet (k result)) : Quiet (m >>= k) := by
  intro state result after success
  obtain ⟨middle, between, one, two⟩ := bind_eq_some_iff.mp success
  obtain ⟨groups, referenced, taken⟩ := first state middle between one
  obtain ⟨groupsToo, referencedToo, takenToo⟩ := next middle between result after two
  exact ⟨groupsToo.trans groups, referencedToo.trans referenced, Nat.le_trans taken takenToo⟩

theorem Quiet.ite {p : Prop} [Decidable p] (yes : Quiet m) (no : Quiet n) :
    Quiet (if p then m else n) := by
  split
  · exact yes
  · exact no

/-- A condition that must not hold is checked before a reading goes on. -/
theorem Quiet.unless {p : Prop} [Decidable p] {k : Unit → Read β} (next : Quiet (k ())) :
    Quiet (if p then failure >>= k else k ()) := by
  split
  · rintro _ _ _ ⟨⟩
  · exact next

/-- What only looks at the state. -/
theorem quiet_of_same (same : ∀ state result after, m state = some (result, after) →
    after = state) : Quiet m := by
  intro state result after success
  obtain rfl := same state result after success
  exact ⟨rfl, rfl, Nat.le_refl _⟩

theorem quiet_pure (result : α) : Quiet (pure result : Read α) :=
  quiet_of_same fun _ _ _ success => by cases success; rfl

theorem quiet_failure : Quiet (failure : Read α) :=
  fun _ _ _ success => by cases success

theorem quiet_get : Quiet (get : Read ReadState) :=
  quiet_of_same fun _ _ _ success => by cases success; rfl

theorem quiet_rest : Quiet rest :=
  quiet_of_same fun _ _ _ success => by cases success; rfl

theorem quiet_peek : Quiet peek? :=
  quiet_of_same fun _ _ _ success => by cases success; rfl

theorem quiet_flags : Quiet Read.flags :=
  quiet_of_same fun _ _ _ success => by cases success; rfl

theorem quiet_setFlags (change : ReadFlags → ReadFlags) : Quiet (setFlags change) := by
  rintro state _ _ ⟨⟩
  exact ⟨rfl, rfl, Nat.le_refl _⟩

theorem quiet_drop (count : Nat) : Quiet (drop count) := by
  rintro state _ _ ⟨⟩
  exact ⟨rfl, rfl, Nat.le_add_right _ _⟩

theorem quiet_takeIf (text : String) : Quiet (takeIf text) :=
  quiet_rest.bind fun _ => .ite ((quiet_drop _).bind fun _ => quiet_pure _) (quiet_pure _)

theorem quiet_expect (c : Char) : Quiet (expect c) :=
  quiet_peek.bind fun _ => .ite (quiet_drop _) quiet_failure

theorem quiet_takeWhile (test : Char → Bool) : Quiet (Read.takeWhile test) :=
  quiet_rest.bind fun _ => (quiet_drop _).bind fun _ => quiet_pure _

theorem quiet_skipBlanks : Quiet skipBlanks := by
  refine quiet_rest.bind fun text => quiet_flags.bind fun flags => ?_
  split
  · exact quiet_drop _
  · exact quiet_failure

theorem quiet_readDecimal : Quiet readDecimal := by
  refine (quiet_takeWhile _).bind fun digits => ?_
  split
  · exact quiet_pure _
  · exact quiet_failure

theorem quiet_readName (closing : String) : Quiet (readName closing) := by
  refine (quiet_takeWhile _).bind fun name => .unless ?_
  exact (quiet_takeIf _).bind fun _ => .ite (quiet_pure _) quiet_failure

theorem quiet_readPropertyName : Quiet readPropertyName := by
  refine quiet_rest.bind fun text => ?_
  split
  · exact (quiet_drop _).bind fun _ => (quiet_expect _).bind fun _ => quiet_pure _
  · exact (quiet_drop _).bind fun _ => quiet_pure _
  · exact quiet_failure

theorem quiet_readUpperBound (least : Nat) : Quiet (readUpperBound least) := by
  have most : Quiet readMost := by
    refine quiet_rest.bind fun text => ?_
    dsimp only
    split
    · exact (quiet_drop _).bind fun _ => quiet_pure _
    · exact quiet_pure _
  have last : ∀ most : Option Nat, Quiet (do
      skipBlanks
      expect '\x7d'
      return (least, most)) := fun most =>
    quiet_skipBlanks.bind fun _ => (quiet_expect _).bind fun _ => quiet_pure _
  refine quiet_skipBlanks.bind fun _ => (quiet_takeIf _).bind fun more => ?_
  cases more with
  | false => exact last (some least)
  | true => exact quiet_skipBlanks.bind fun _ => most.bind last

theorem quiet_readBounds : Quiet readBounds := by
  rw [readBounds_eq]
  exact quiet_skipBlanks.bind fun _ => quiet_peek.bind fun _ =>
    .ite (quiet_readUpperBound 0) (quiet_readDecimal.bind quiet_readUpperBound)

theorem quiet_readRepetition : Quiet readRepetition? := by
  refine quiet_peek.bind fun c => ?_
  split
  · exact (quiet_drop 1).bind fun _ => quiet_pure _
  · exact (quiet_drop 1).bind fun _ => quiet_pure _
  · exact (quiet_drop 1).bind fun _ => quiet_pure _
  · intro state result after success
    have bounds : Quiet (drop 1 >>= fun _ => readBounds) :=
      (quiet_drop 1).bind fun _ => quiet_readBounds
    rw [bind_eq (show (get : Read ReadState) state = some (state, state) from rfl)] at success
    cases read : (drop 1 >>= fun _ => readBounds).run state with
    | none =>
      rw [read] at success
      exact quiet_pure none state result after success
    | some reached =>
      rw [read] at success
      cases success
      exact bounds state reached.1 reached.2 read
  · exact quiet_pure _

theorem quiet_closeGroup : Quiet closeGroup :=
  quiet_skipBlanks.bind fun _ => quiet_expect _

end Quiet

/-! ## Readings that open groups -/

/-- The groups of a state are those of the nodes that have been read. -/
structure Numbered (state : ReadState) (nodes : List Node) : Prop where
  /-- Every group that has been opened stands in a node. -/
  opened : state.groups ≤ lastGroups nodes
  /-- What has been referred to has been opened. -/
  counted : ∀ group ∈ state.referenced, group ≤ state.groups
  /-- What a node refers to has been noted. -/
  noted : ∀ group ∈ Node.allReferences nodes, group ∈ state.referenced

/-- A node takes the place of others: it holds all their groups, and refers to no other ones. -/
structure Covers (before after : List Node) : Prop where
  /-- The groups are there. -/
  groups : lastGroups before ≤ lastGroups after
  /-- Nothing else is referred to. -/
  references : Node.allReferences after ⊆ Node.allReferences before

theorem Numbered.covered {state : ReadState} {before after : List Node}
    (numbered : Numbered state before) (covers : Covers before after) : Numbered state after where
  opened := numbered.opened.trans covers.groups
  counted := numbered.counted
  noted group member := numbered.noted group (covers.references member)

/--
From one state to another characters are taken, for each of which at most one group is opened,
and some more; afterwards the groups are those of some nodes.
-/
structure Reads (more : Nat) (nodes : List Node) (state after : ReadState) : Prop where
  /-- The groups are those of the nodes. -/
  numbered : Numbered after nodes
  /-- Characters are taken. -/
  taken : state.taken ≤ after.taken
  /-- What has been referred to stays so. -/
  referenced : state.referenced ⊆ after.referenced
  /-- Groups are opened. -/
  opened : after.groups + state.taken ≤ state.groups + after.taken + more

/-- A reading adds to the nodes that have been read before. -/
def Numbers {α : Type} (more : Nat) (prior : List Node) (m : Read α) (nodes : α → List Node) :
    Prop :=
  ∀ state result after, Numbered state prior → m state = some (result, after) →
    Reads more (nodes result) state after

/-- The node of an escape that is one. -/
def Escape.nodes : Escape → List Node
  | .node other => [other]
  | _ => []

section Numbers

variable {α β : Type} {more : Nat} {prior : List Node} {m n : Read α} {k : α → Read β}
  {nodes : α → List Node} {others : β → List Node}

theorem Reads.trans {state between after : ReadState} {before behind : List Node}
    (first : Reads 0 before state between) (last : Reads more behind between after) :
    Reads more behind state after where
  numbered := last.numbered
  taken := first.taken.trans last.taken
  referenced := List.Subset.trans first.referenced last.referenced
  opened := by
    have := first.opened
    have := last.opened
    omega

theorem Reads.covered {state after : ReadState} {before behind : List Node}
    (reads : Reads more before state after) (covers : Covers before behind) :
    Reads more behind state after :=
  { reads with numbered := reads.numbered.covered covers }

theorem Numbers.bind (first : Numbers 0 prior m nodes)
    (next : ∀ result, Numbers more (nodes result) (k result) others) :
    Numbers more prior (m >>= k) others := by
  intro state result after numbered success
  obtain ⟨middle, between, one, two⟩ := bind_eq_some_iff.mp success
  have reads := first state middle between numbered one
  exact reads.trans (next middle between result after reads.numbered two)

theorem Quiet.numbers (quiet : Quiet m) : Numbers more prior m (fun _ => prior) := by
  intro state result after numbered success
  obtain ⟨groups, referenced, taken⟩ := quiet state result after success
  refine ⟨⟨?_, ?_, ?_⟩, taken, ?_, by omega⟩
  · rw [groups]
    exact numbered.opened
  · rw [groups, referenced]
    exact numbered.counted
  · rw [referenced]
    exact numbered.noted
  · rw [referenced]
    exact List.Subset.refl _

theorem Quiet.then (quiet : Quiet m) (next : ∀ result, Numbers more prior (k result) others) :
    Numbers more prior (m >>= k) others :=
  quiet.numbers.bind next

/-- A character that is taken makes room for a group. -/
theorem Numbers.take {k : Unit → Read β} (next : Numbers 1 prior (k ()) others) :
    Numbers 0 prior (drop 1 >>= k) others := by
  intro state result after numbered success
  have taken : Numbered { state with rest := state.rest.drop 1, taken := state.taken + 1 } prior :=
    ⟨numbered.opened, numbered.counted, numbered.noted⟩
  obtain ⟨numberedLast, onward, referenced, opened⟩ := next _ result after taken success
  refine ⟨numberedLast, Nat.le_trans (Nat.le_succ _) onward, referenced, ?_⟩
  simp only at opened
  omega

theorem Numbers.weaken (numbers : Numbers 0 prior m nodes) : Numbers more prior m nodes := by
  intro state result after numbered success
  have reads := numbers state result after numbered success
  exact { reads with opened := Nat.le_add_right_of_le reads.opened }

theorem numbers_pure {result : α} (covers : Covers prior (nodes result)) :
    Numbers more prior (pure result : Read α) nodes := by
  rintro state _ _ numbered ⟨⟩
  exact ⟨numbered.covered covers, Nat.le_refl _, List.Subset.refl _, Nat.le_add_right _ _⟩

theorem numbers_failure : Numbers more prior (failure : Read α) nodes := by
  rintro _ _ _ _ ⟨⟩

theorem Numbers.ite {p : Prop} [Decidable p] (yes : Numbers more prior m nodes)
    (no : Numbers more prior n nodes) : Numbers more prior (if p then m else n) nodes := by
  split
  · exact yes
  · exact no

theorem Numbers.unless {p : Prop} [Decidable p] {k : Unit → Read β}
    (next : Numbers more prior (k ()) others) :
    Numbers more prior (if p then failure >>= k else k ()) others := by
  split
  · rintro _ _ _ _ ⟨⟩
  · exact next

theorem covers_refl (nodes : List Node) : Covers nodes nodes :=
  ⟨Nat.le_refl _, List.Subset.refl _⟩

theorem lastGroups_append (nodes others : List Node) :
    lastGroups (nodes ++ others) = max (lastGroups nodes) (lastGroups others) := by
  induction nodes with
  | nil => simp [lastGroups]
  | cons node nodes ih => simp [lastGroups, ih, Nat.max_assoc]

theorem allReferences_append (nodes others : List Node) :
    Node.allReferences (nodes ++ others) =
      Node.allReferences nodes ++ Node.allReferences others := by
  induction nodes with
  | nil => rfl
  | cons node nodes ih => simp [Node.allReferences, ih]

theorem Covers.append {before after : List Node} (covers : Covers before after)
    (prior : List Node) : Covers (before ++ prior) (after ++ prior) where
  groups := by
    have := covers.groups
    rw [lastGroups_append, lastGroups_append]
    omega
  references := by
    rw [allReferences_append, allReferences_append]
    exact List.append_subset.mpr ⟨List.Subset.trans covers.references
      (List.subset_append_left _ _), List.subset_append_right _ _⟩

/-- A node that refers to nothing is added. -/
theorem covers_cons {node : Node} (refersToNone : node.references = []) :
    Covers prior (node :: prior) where
  groups := Nat.le_max_right _ _
  references := by
    rw [Node.allReferences, refersToNone]
    exact List.Subset.refl _

/-- A node takes the place of another one. -/
theorem covers_head {node other : Node} (groups : lastGroup node ≤ lastGroup other)
    (references : other.references ⊆ node.references) :
    Covers ([node] ++ prior) ([other] ++ prior) := by
  refine Covers.append ⟨?_, ?_⟩ prior
  · simpa [lastGroups] using groups
  · simpa [Node.allReferences] using references

/-- What has been read without taking any character holds no groups. -/
theorem Numbers.idle {state between : ReadState} {result : α} (numbers : Numbers 0 prior m nodes)
    (numbered : Numbered state prior) (success : m state = some (result, between))
    (still : between.taken = state.taken) : Numbered between prior := by
  have reads := numbers state result between numbered success
  refine ⟨?_, reads.numbered.counted,
    fun group member => reads.referenced (numbered.noted group member)⟩
  have := numbered.opened
  have := reads.opened
  omega

/-! ## References -/

theorem numbers_reference (group : Nat) :
    Numbers 0 prior (reference group) (fun group => [.backreference group] ++ prior) := by
  intro state result after numbered success
  rw [reference, bind_eq (show (get : Read ReadState) state = some (state, state) from rfl)]
    at success
  split at success
  · cases success
  · rename_i there
    cases success
    have known := Nat.le_of_not_lt there
    refine ⟨⟨numbered.opened.trans (Nat.le_max_right _ _), ?_, ?_⟩, Nat.le_refl _,
      List.subset_cons_self _ _, Nat.le_refl _⟩
    · rintro other (_ | ⟨_, member⟩)
      · exact known
      · exact numbered.counted other member
    · rintro other (_ | ⟨_, member⟩)
      · exact List.mem_cons_self
      · exact List.mem_cons_of_mem _ (numbered.noted other member)

theorem numbers_readNumberedReference (byteLength : Nat) :
    Numbers 0 prior (readNumberedReference byteLength)
      (fun group => [.backreference group] ++ prior) := by
  refine quiet_readDecimal.then fun group =>
    .unless (Quiet.then ?_ fun _ => numbers_reference group)
  rintro state _ _ ⟨⟩
  exact ⟨rfl, rfl, Nat.le_refl _⟩

theorem numbers_readRelativeReference (closing : String) :
    Numbers 0 prior (readRelativeReference closing)
      (fun group => [.backreference group] ++ prior) := by
  refine quiet_get.then fun state => (quiet_takeIf _).then fun _ => .ite ?_
    ((quiet_takeIf _).then fun _ => .ite ?_ numbers_failure)
  · exact quiet_readDecimal.then fun _ => .unless ((quiet_takeIf _).then fun _ =>
      .ite (numbers_reference _) numbers_failure)
  · exact quiet_readDecimal.then fun _ => .unless ((quiet_takeIf _).then fun _ =>
      .ite (numbers_reference _) numbers_failure)

theorem numbers_readNamedReference (closing : String) (mayBeRelative : Bool) :
    Numbers 0 prior (readNamedReference closing mayBeRelative)
      (fun group => [.backreference group] ++ prior) := by
  refine quiet_peek.then fun c => ?_
  split
  · refine .ite (numbers_readRelativeReference closing) ((quiet_readName _).then fun name =>
      quiet_get.then fun state => ?_)
    split
    · exact numbers_reference _
    · exact numbers_failure
  · exact numbers_failure

/-! ## Escapes and atoms -/

theorem numbers_readHex (count : Nat) :
    Numbers 0 prior (readHex count) (fun escape => escape.nodes ++ prior) := by
  refine quiet_rest.then fun text => .ite ((quiet_drop _).then fun _ => ?fixed)
    ((quiet_expect _).then fun _ => (quiet_takeWhile _).then fun _ => .unless
      ((quiet_expect _).then fun _ => ?braces))
  all_goals
    refine (quiet_pure _).then fun digits => ?_
    dsimp only
    split
    · exact numbers_pure (covers_refl _)
    · exact numbers_failure

theorem numbers_readPlainEscape (c : Char) :
    Numbers 0 prior (readPlainEscape c) (fun escape => escape.nodes ++ prior) := by
  unfold readPlainEscape
  split
  · exact numbers_pure (covers_refl _)
  · exact numbers_pure (covers_refl _)
  · exact numbers_readHex 2
  · exact numbers_readHex 4
  · exact numbers_readHex 8
  · refine .ite (numbers_pure (covers_refl _)) (quiet_peek.then fun _ => .ite ?_ ?_)
    · exact quiet_readPropertyName.then fun _ => numbers_pure (covers_refl _)
    · split
      · exact numbers_pure (covers_refl _)
      · exact .ite numbers_failure (numbers_pure (covers_refl _))

theorem numbers_readOuterEscape (c : Char) :
    Numbers 0 prior (readOuterEscape c) (fun escape => escape.nodes ++ prior) := by
  have plain : ∀ node : Node, node.references = [] →
      Numbers 0 prior (pure (.node node) : Read Escape) (fun escape => escape.nodes ++ prior) :=
    fun node refersToNone => numbers_pure (covers_cons refersToNone)
  unfold readOuterEscape
  split
  · exact (quiet_takeIf _).then fun _ => .ite
      ((numbers_readNamedReference _ _).bind fun _ => numbers_pure (covers_refl _))
      ((quiet_takeIf _).then fun _ => .ite
        ((numbers_readNamedReference _ _).bind fun _ => numbers_pure (covers_refl _))
        numbers_failure)
  · exact plain _ rfl
  · exact plain _ rfl
  · exact quiet_peek.then fun _ => .ite numbers_failure (plain _ rfl)
  · exact quiet_peek.then fun _ => .ite numbers_failure (plain _ rfl)
  · exact plain _ rfl
  · exact plain _ rfl
  · exact plain _ rfl
  · exact plain _ rfl
  · exact numbers_readPlainEscape _

theorem numbers_readEscape (byteLength : Nat) (inClass : Bool) :
    Numbers 0 prior (readEscape byteLength inClass) (fun escape => escape.nodes ++ prior) := by
  refine quiet_peek.then fun c => ?_
  split
  · exact numbers_failure
  · refine .ite (.ite numbers_failure ?_) ((quiet_drop 1).then fun _ =>
      .ite (numbers_readPlainEscape _) (numbers_readOuterEscape _))
    exact (numbers_readNumberedReference _).bind fun _ => numbers_pure (covers_refl _)

theorem numbers_classNode (ignoreCase : Bool) (text : List Char) :
    Numbers 0 prior (classNode ignoreCase text) (fun node => [node] ++ prior) := by
  unfold classNode
  split
  · exact numbers_pure (covers_cons rfl)
  · exact numbers_failure

theorem numbers_toNode (escape : Escape) :
    Numbers 0 (escape.nodes ++ prior) escape.toNode (fun node => [node] ++ prior) := by
  refine quiet_flags.then fun flags => ?_
  cases escape with
  | literal c folds => exact numbers_pure (covers_cons rfl)
  | «class» text folds => exact numbers_classNode _ _
  | node other => exact numbers_pure (covers_refl _)

theorem numbers_readClassText (byteLength fuel depth : Nat) (text : List Char) :
    Numbers 0 prior (readClassText byteLength fuel depth text) (fun _ => prior) := by
  induction fuel generalizing depth text with
  | zero => exact numbers_failure
  | succ fuel ih =>
    refine quiet_peek.then fun c => ?_
    split
    · exact numbers_failure
    · refine (quiet_drop 1).then fun _ => (numbers_readEscape byteLength true).bind
        fun escape => ?_
      split
      · exact ih _ _
      · exact ih _ _
      · exact numbers_failure
    · exact (quiet_drop 1).then fun _ => ih _ _
    · exact (quiet_drop 1).then fun _ => .ite (numbers_pure (covers_refl _)) (ih _ _)
    · exact (quiet_drop 1).then fun _ => ih _ _

theorem numbers_readClass (byteLength : Nat) :
    Numbers 0 prior (readClass byteLength) (fun node => [node] ++ prior) := by
  refine (quiet_takeIf _).then fun _ => (quiet_takeIf _).then fun _ => quiet_rest.then fun _ => ?_
  exact (numbers_readClassText _ _ _ _).bind fun _ => quiet_flags.then fun _ =>
    numbers_classNode _ _

theorem numbers_readAtom {byteLength : Nat} {group : Read Node}
    (inner : ∀ prior, Numbers 1 prior group (fun node => [node] ++ prior)) :
    Numbers 0 prior (readAtom byteLength group) (fun node => [node] ++ prior) := by
  refine quiet_skipBlanks.then fun _ => quiet_flags.then fun flags => quiet_peek.then fun c => ?_
  have plain : ∀ node : Node, node.references = [] →
      Numbers 0 prior (pure node : Read Node) (fun node => [node] ++ prior) :=
    fun node refersToNone => numbers_pure (covers_cons refersToNone)
  have anchor : ∀ (p : Bool) (one other : Anchor),
      (Node.anchor (if p then one else other)).references = [] := fun _ _ _ => rfl
  split
  · exact plain _ rfl
  · split
    · exact (quiet_drop 1).then fun _ => plain _ rfl
    · exact (quiet_drop 1).then fun _ => plain _ (anchor _ _ _)
    · exact (quiet_drop 1).then fun _ => plain _ (anchor _ _ _)
    · exact .take (inner prior)
    · exact (quiet_drop 1).then fun _ => (numbers_readEscape _ _).bind numbers_toNode
    · exact (quiet_drop 1).then fun _ => numbers_readClass _
    · exact .ite (plain _ rfl) ((quiet_drop 1).then fun _ => plain _ rfl)

theorem numbers_readPiece {byteLength : Nat} {group : Read Node}
    (inner : ∀ prior, Numbers 1 prior group (fun node => [node] ++ prior)) :
    Numbers 0 prior (readPiece byteLength group) (fun node => [node] ++ prior) := by
  refine (numbers_readAtom inner).bind fun atom => quiet_skipBlanks.then fun _ =>
    quiet_readRepetition.then fun bounds => ?_
  split
  · exact numbers_pure (covers_refl _)
  · refine .unless (quiet_skipBlanks.then fun _ => (quiet_takeIf _).then fun _ =>
      quiet_flags.then fun _ => (quiet_takeIf _).then fun _ => .ite ?_ ?_)
    · exact numbers_pure (covers_head (Nat.le_refl _) (List.Subset.refl _))
    · exact numbers_pure (covers_head (Nat.le_refl _) (List.Subset.refl _))

/-! ## Branches -/

theorem Covers.trans {nodes between behind : List Node} (first : Covers nodes between)
    (last : Covers between behind) : Covers nodes behind where
  groups := first.groups.trans last.groups
  references := List.Subset.trans last.references first.references

/-- The order of nodes does not matter. -/
theorem covers_swap (nodes others : List Node) :
    Covers (others ++ (nodes ++ prior)) (nodes ++ others ++ prior) where
  groups := by
    simp only [lastGroups_append]
    omega
  references := by
    intro group member
    simp only [allReferences_append, List.mem_append] at member ⊢
    rcases member with (here | there) | before
    · exact .inr (.inl here)
    · exact .inl there
    · exact .inr (.inr before)

theorem covers_alternatives (branches : List Node) : Covers branches [.alternatives branches] where
  groups := by simp [lastGroups, lastGroup]
  references := by simp [Node.allReferences, Node.references]

theorem covers_concatenation (nodes : List Node) :
    Covers (nodes ++ prior) ([concatenation nodes] ++ prior) := by
  have whole : ∀ nodes, Covers nodes [.concat nodes] := fun nodes => by
    refine ⟨?_, ?_⟩
    · simp [lastGroups, lastGroup]
    · simp [Node.allReferences, Node.references]
  refine Covers.append ?_ prior
  cases nodes with
  | nil => exact covers_cons rfl
  | cons node nodes =>
    cases nodes with
    | nil => exact covers_refl _
    | cons second nodes => exact whole (node :: second :: nodes)

theorem lastGroup_of_isEmpty {node : Node} (empty : node.isEmpty = true) : lastGroup node = 0 := by
  cases node <;> first | rfl | cases empty

/-- A piece stands before the others, unless it is empty. -/
theorem covers_piece (node : Node) (pieces : List Node) :
    Covers (pieces ++ ([node] ++ prior))
      ((if node.isEmpty then pieces else node :: pieces) ++ prior) := by
  split
  · rename_i empty
    have none := lastGroup_of_isEmpty empty
    refine ⟨?_, ?_⟩
    · simp only [lastGroups_append, lastGroups]
      omega
    · simp only [allReferences_append]
      exact List.append_subset.mpr ⟨List.subset_append_left _ _,
        List.Subset.trans (List.subset_append_right _ _) (List.subset_append_right _ _)⟩
  · exact covers_swap [node] pieces

theorem numbers_readPieces {piece : Read Node}
    (inner : ∀ prior, Numbers 0 prior piece (fun node => [node] ++ prior)) (fuel : Nat) :
    Numbers 0 prior (readPieces piece fuel) (fun nodes => nodes ++ prior) := by
  induction fuel generalizing prior with
  | zero => exact numbers_pure (covers_refl _)
  | succ fuel ih =>
    intro state result after numbered success
    obtain ⟨_, _, got, success⟩ := bind_eq_some_iff.mp success
    cases got
    obtain ⟨c, _, seen, success⟩ := bind_eq_some_iff.mp success
    cases seen
    split at success
    · cases success
      exact ⟨numbered, Nat.le_refl _, List.Subset.refl _, Nat.le_refl _⟩
    · obtain ⟨node, between, one, success⟩ := bind_eq_some_iff.mp success
      have reads := inner prior state node between numbered one
      obtain ⟨_, _, got, success⟩ := bind_eq_some_iff.mp success
      cases got
      split at success
      · rename_i still
        cases success
        exact { reads with numbered := (inner prior).idle numbered one still }
      · have others : Numbers 0 ([node] ++ prior)
            (readPieces piece fuel >>= fun pieces =>
              pure (if node.isEmpty then pieces else node :: pieces))
            (fun nodes => nodes ++ prior) :=
          ih.bind fun pieces => numbers_pure (covers_piece node pieces)
        exact reads.trans (others between result after reads.numbered success)

theorem numbers_readBranch {byteLength : Nat} {group : Read Node}
    (inner : ∀ prior, Numbers 1 prior group (fun node => [node] ++ prior)) :
    Numbers 0 prior (readBranch byteLength group) (fun node => [node] ++ prior) :=
  quiet_rest.then fun _ => (numbers_readPieces (fun _ => numbers_readPiece inner) _).bind
    fun nodes => numbers_pure (covers_concatenation nodes)

theorem numbers_readBranches {branch : Read Node}
    (inner : ∀ prior, Numbers 0 prior branch (fun node => [node] ++ prior)) (fuel : Nat) :
    Numbers 0 prior (readBranches branch fuel) (fun nodes => nodes ++ prior) := by
  induction fuel generalizing prior with
  | zero => exact numbers_pure (covers_refl _)
  | succ fuel ih =>
    refine quiet_skipBlanks.then fun _ => (quiet_takeIf _).then fun _ =>
      .ite ((inner prior).bind fun node => ih.bind fun nodes => ?_) (numbers_pure (covers_refl _))
    exact numbers_pure (covers_swap [node] nodes)

theorem numbers_readExpression {byteLength : Nat} {group : Read Node}
    (inner : ∀ prior, Numbers 1 prior group (fun node => [node] ++ prior)) :
    Numbers 0 prior (readExpression byteLength group) (fun node => [node] ++ prior) := by
  refine (numbers_readBranch inner).bind fun first => quiet_rest.then fun text =>
    (numbers_readBranches (fun _ => numbers_readBranch inner) _).bind fun others => ?_
  split
  · exact quiet_get.then fun state => .ite numbers_failure (numbers_pure (covers_refl _))
  · exact numbers_pure ((covers_swap [first] others).trans ((covers_alternatives _).append prior))

/-! ## Groups -/

theorem numbers_readInner {expression : Read Node} {make : Node → Node} {before : List Node}
    (inner : ∀ prior, Numbers 0 prior expression (fun node => [node] ++ prior))
    (covers : ∀ node, Covers ([node] ++ before) [make node]) :
    Numbers 0 (before ++ prior) (readInner expression make) (fun node => [node] ++ prior) :=
  (inner _).bind fun node => quiet_closeGroup.then fun _ =>
    numbers_pure ((covers node).append prior)

/-- A group that is opened will stand in the tree. -/
theorem numbers_openGroup {k : Nat → Read β}
    (next : ∀ group, Numbers 0 ([.group group .empty] ++ prior) (k group) others) :
    Numbers 1 prior (openGroup >>= k) others := by
  intro state result after numbered success
  have opened : Numbered { state with groups := state.groups + 1 }
      ([.group (state.groups + 1) .empty] ++ prior) := by
    refine ⟨?_, fun group member => Nat.le_succ_of_le (numbered.counted group member), ?_⟩
    · exact (Nat.le_max_left _ _).trans (Nat.le_max_left _ _)
    · exact numbered.noted
  have reads := next (state.groups + 1) { state with groups := state.groups + 1 } result after
    opened success
  have := reads.opened
  simp only at this
  exact { reads with opened := by omega }

theorem covers_group (group : Nat) (inner : Node) :
    Covers ([inner] ++ [.group group .empty]) [.group group inner] where
  groups := by
    simp [lastGroups, lastGroup]
    omega
  references := by simp [Node.allReferences, Node.references]

section Expression

variable {byteLength : Nat} {expression : Read Node}

theorem numbers_readNamedGroup
    (inner : ∀ prior, Numbers 0 prior expression (fun node => [node] ++ prior)) :
    Numbers 1 prior (readNamedGroup expression) (fun node => [node] ++ prior) := by
  refine numbers_openGroup fun group => (quiet_readName _).then fun name => Quiet.then ?_ fun _ =>
    (inner _).bind fun node => quiet_closeGroup.then fun _ =>
      numbers_pure ((covers_group group node).append prior)
  rintro state _ _ ⟨⟩
  exact ⟨rfl, rfl, Nat.le_refl _⟩

theorem numbers_readFlagGroup
    (inner : ∀ prior, Numbers 0 prior expression (fun node => [node] ++ prior))
    (start : Nat) (outer : ReadFlags) (fuel : Nat) (value : Bool) :
    Numbers 0 prior (readFlagGroup expression start outer fuel value)
      (fun node => [node] ++ prior) := by
  induction fuel generalizing value with
  | zero => exact numbers_failure
  | succ fuel ih =>
    refine quiet_skipBlanks.then fun _ => quiet_get.then fun state => quiet_peek.then fun c => ?_
    split
    · exact numbers_failure
    · exact .unless ((quiet_drop 1).then fun _ => numbers_pure (covers_cons rfl))
    · exact .unless ((quiet_drop 1).then fun _ => (inner _).bind fun node =>
        (quiet_expect _).then fun _ => (quiet_setFlags _).then fun _ =>
          numbers_pure (covers_refl _))
    · exact .unless ((quiet_drop 1).then fun _ => ih _)
    · split
      · exact numbers_failure
      · exact (quiet_setFlags _).then fun _ => (quiet_drop 1).then fun _ => ih _

theorem numbers_readCondition
    (inner : ∀ prior, Numbers 0 prior expression (fun node => [node] ++ prior)) :
    Numbers 0 prior (readCondition byteLength expression) (fun node => [node] ++ prior) := by
  refine quiet_peek.then fun c => ?_
  split
  · exact numbers_failure
  · exact (quiet_drop 1).then fun _ => (numbers_readNamedReference _ _).bind fun _ =>
      numbers_pure (covers_refl _)
  · exact (quiet_drop 1).then fun _ => (numbers_readNamedReference _ _).bind fun _ =>
      numbers_pure (covers_refl _)
  · exact .ite ((numbers_readNumberedReference _).bind fun _ => numbers_pure (covers_refl _))
      (inner _)

theorem covers_asCondition (condition : Node) : Covers [condition] [asCondition condition] := by
  cases condition <;> exact ⟨Nat.le_refl _, List.Subset.refl _⟩

theorem covers_sides (body : Node) : Covers [body] [(sides body).1, (sides body).2] := by
  unfold sides
  split
  · exact ⟨by simp [lastGroups, lastGroup], by simp [Node.allReferences, Node.references]⟩
  · exact ⟨by simp [lastGroups, lastGroup], by simp [Node.allReferences, Node.references]⟩
  · exact ⟨by simp [lastGroups, lastGroup], by simp [Node.allReferences, Node.references]⟩

/-- A choice between nothing and nothing is its condition. -/
theorem covers_bareChoice {condition body yes no : Node} (split : sides body = (yes, no))
    (yesEmpty : yes.isEmpty = true) (noEmpty : no.isEmpty = true) :
    Covers ([body] ++ [condition]) [asCondition condition] := by
  have body := covers_sides body
  rw [split] at body
  have nothing := body.groups
  simp only [lastGroups, lastGroup_of_isEmpty yesEmpty, lastGroup_of_isEmpty noEmpty] at nothing
  refine Covers.trans ⟨?_, ?_⟩ (covers_asCondition condition)
  · simp only [List.cons_append, List.nil_append, lastGroups]
    omega
  · rw [allReferences_append]
    exact List.subset_append_right _ _

theorem covers_choice {condition body yes no : Node} (split : sides body = (yes, no)) :
    Covers ([body] ++ [condition]) [.conditional (asCondition condition) yes no] := by
  have body := covers_sides body
  rw [split] at body
  have condition := covers_asCondition condition
  refine ⟨?_, ?_⟩
  · have := body.groups
    have := condition.groups
    simp only [List.cons_append, List.nil_append, lastGroups, lastGroup] at *
    omega
  · intro group member
    simp only [Node.allReferences, Node.references, List.append_nil, List.mem_append] at member
    rw [allReferences_append, List.mem_append]
    rcases member with here | there
    · exact .inr (condition.references (by simpa [Node.allReferences] using here))
    · exact .inl (body.references (by simpa [Node.allReferences] using there))

theorem numbers_readChoice
    (inner : ∀ prior, Numbers 0 prior expression (fun node => [node] ++ prior)) :
    Numbers 0 prior (readChoice byteLength expression) (fun node => [node] ++ prior) := by
  refine (numbers_readCondition inner).bind fun condition => quiet_closeGroup.then fun _ => ?_
  intro state result after numbered success
  obtain ⟨_, _, got, success⟩ := bind_eq_some_iff.mp success
  cases got
  obtain ⟨body, between, one, success⟩ := bind_eq_some_iff.mp success
  have reads := inner _ state body between numbered one
  obtain ⟨_, _, got, success⟩ := bind_eq_some_iff.mp success
  cases got
  obtain ⟨_, closed, two, success⟩ := bind_eq_some_iff.mp success
  split at success
  · rename_i still
    have bare : Reads 0 ([condition] ++ prior) state between :=
      { reads with numbered := (inner _).idle numbered one still }
    have onward : Reads 0 ([condition] ++ prior) state closed :=
      bare.trans (quiet_closeGroup.numbers between () closed bare.numbered two)
    split at success
    · cases success
      exact onward.covered (covers_head (Nat.le_refl _) (List.Subset.refl _))
    · cases success
  · have onward : Reads 0 ([body] ++ ([condition] ++ prior)) state closed :=
      reads.trans (quiet_closeGroup.numbers between () closed reads.numbered two)
    cases split : sides body
    rw [split] at success
    dsimp only at success
    split at success
    · rename_i both
      rw [Bool.and_eq_true] at both
      cases success
      exact onward.covered ((covers_bareChoice split both.1 both.2).append prior)
    · cases success
      exact onward.covered ((covers_choice split).append prior)

theorem numbers_readGroup (depth : Nat) :
    Numbers 1 prior (readGroup byteLength depth) (fun node => [node] ++ prior) := by
  induction depth generalizing prior with
  | zero => exact numbers_failure
  | succ depth ih =>
    have expression : ∀ prior, Numbers 0 prior
        (readExpression byteLength (readGroup byteLength depth)) (fun node => [node] ++ prior) :=
      fun prior => numbers_readExpression fun _ => ih
    have named : Numbers 1 prior
        (readNamedGroup (readExpression byteLength (readGroup byteLength depth)))
        (fun node => [node] ++ prior) := numbers_readNamedGroup expression
    have within : ∀ make : Node → Node, (∀ node, Covers [node] [make node]) →
        Numbers 1 prior (readInner (readExpression byteLength (readGroup byteLength depth)) make)
          (fun node => [node] ++ prior) := by
      intro make covers
      have inner : Numbers 0 ([] ++ prior)
          (readInner (readExpression byteLength (readGroup byteLength depth)) make)
          (fun node => [node] ++ prior) := numbers_readInner expression covers
      exact inner.weaken
    refine quiet_skipBlanks.then fun _ => (quiet_takeIf _).then fun _ => .ite
      (within _ fun _ => covers_head (Nat.le_refl _) (List.Subset.refl _)) ?_
    refine (quiet_takeIf _).then fun _ => .ite
      (within _ fun _ => covers_head (Nat.le_refl _) (List.Subset.refl _)) ?_
    refine (quiet_takeIf _).then fun _ => .ite
      (within _ fun _ => covers_head (Nat.le_refl _) (List.Subset.refl _)) ?_
    refine (quiet_takeIf _).then fun _ => .ite
      (within _ fun _ => covers_head (Nat.le_refl _) (List.Subset.refl _)) ?_
    refine (quiet_takeIf _).then fun _ => .ite named ((quiet_takeIf _).then fun _ => .ite named ?_)
    refine (quiet_takeIf _).then fun _ => .ite ?_ ?_
    · exact ((numbers_readNamedReference _ _).bind fun _ => numbers_pure (covers_refl _)).weaken
    refine (quiet_takeIf _).then fun _ => .ite
      (within _ fun _ => covers_head (Nat.le_refl _) (List.Subset.refl _)) ?_
    refine (quiet_takeIf _).then fun _ => .ite (numbers_readChoice expression).weaken ?_
    refine (quiet_takeIf _).then fun _ => .ite ?_ ?_
    · exact (quiet_get.then fun state => numbers_readFlagGroup expression _ _ _ _).weaken
    · exact numbers_openGroup fun group => numbers_readInner expression (covers_group group)

end Expression

end Numbers

/--
Whatever an expression refers to is noted, and whatever is noted is a group of the expression.
-/
theorem Expression.numbered {text : String} {expression : Expression}
    (read : Expression.ofText? text = some expression) :
    (∀ group ∈ expression.root.references, group ∈ expression.referenced) ∧
      ∀ group ∈ expression.referenced, group ≤ lastGroup expression.root := by
  obtain ⟨after, success, _, referenced⟩ := Expression.ofText?_eq_some_iff.mp read
  have start : Numbered { rest := text.toList } [] :=
    ⟨Nat.le_refl _, by simp, by simp [Node.allReferences]⟩
  have reads :=
    numbers_readExpression (fun _ => numbers_readGroup maxGroupDepth) _ _ _ start success
  obtain ⟨opened, counted, noted⟩ := reads.numbered
  rw [referenced] at counted noted
  simp only [List.append_nil, lastGroups, Nat.max_zero, Node.allReferences] at opened noted
  exact ⟨noted, fun group member => (counted group member).trans opened⟩

end ToolGate.Pattern
