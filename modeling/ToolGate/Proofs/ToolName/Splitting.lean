import Mathlib.Data.List.Infix
import Mathlib.Data.Set.Function
import ToolGate.Proofs.ToolName

/-!
# Taking joined names apart

A joined name is cut at the first place where two underscores stand.  In a
run of underscores that is the leftmost pair, so the cut falls behind the
server's name only if that name neither holds the separator nor ends with an
underscore that runs into it.  For such servers joining and cutting are
inverse to each other; for all others the cut falls too early.
-/

namespace ToolGate.ToolName

/-- A text behind which the separator is the first one. -/
def Unbroken (text : List Char) : Prop :=
  ¬ ['_', '_'] <:+: text ∧ ¬ ['_'] <:+ text

/-- The name of a server behind which joining puts the first separator. -/
structure Separable (server : String) : Prop where
  /-- The name does not hold the separator. -/
  holdsNone : ¬ separator.toList <:+: server.toList
  /-- The name does not end with an underscore. -/
  endsClear : ¬ ['_'] <:+ server.toList

theorem separable_iff {server : String} : Separable server ↔ Unbroken server.toList :=
  ⟨fun separable => ⟨separable.holdsNone, separable.endsClear⟩,
    fun ⟨holdsNone, endsClear⟩ => ⟨holdsNone, endsClear⟩⟩

instance (server : String) : Decidable (Separable server) :=
  decidable_of_iff (¬ ['_', '_'] <:+: server.toList ∧ ¬ ['_'] <:+ server.toList)
    separable_iff.symm

@[simp]
theorem unbroken_nil : Unbroken [] := by
  simp [Unbroken]

/-- A character in front breaks a text if it is an underscore before the end or another one. -/
theorem unbroken_cons_iff {c : Char} {text : List Char} :
    Unbroken (c :: text) ↔
      Unbroken text ∧ (c = '_' → text ≠ [] ∧ ∀ rest, text ≠ '_' :: rest) := by
  have doubled : ['_', '_'] <+: c :: text ↔ c = '_' ∧ ∃ rest, text = '_' :: rest := by
    constructor
    · rintro ⟨rest, same⟩
      obtain ⟨rfl, rfl⟩ := List.cons.inj same
      exact ⟨rfl, rest, rfl⟩
    · rintro ⟨rfl, rest, rfl⟩
      exact ⟨rest, rfl⟩
  have last : ['_'] = c :: text ↔ c = '_' ∧ text = [] := by
    simp [eq_comm]
  simp only [Unbroken, List.infix_cons_iff, List.suffix_cons_iff, doubled, last]
  grind

/-- A text is cut at its first separator. -/
theorem cut?_eq_some_iff {text before after : List Char} :
    cut? text = some (before, after) ↔
      text = before ++ '_' :: '_' :: after ∧ Unbroken before := by
  induction text using cut?.induct generalizing before after with
  | case1 rest =>
      simp only [cut?, Option.some.injEq, Prod.mk.injEq]
      constructor
      · rintro ⟨rfl, rfl⟩
        exact ⟨rfl, unbroken_nil⟩
      · rintro ⟨same, unbroken⟩
        match before with
        | [] => simpa using same
        | [first] =>
            obtain ⟨rfl, _⟩ := List.cons.inj same
            exact absurd rfl ((unbroken_cons_iff.mp unbroken).2 rfl).1
        | first :: second :: more =>
            simp only [List.cons_append, List.cons.injEq] at same
            obtain ⟨rfl, rfl, _⟩ := same
            exact absurd rfl (((unbroken_cons_iff.mp unbroken).2 rfl).2 more)
  | case2 c rest notHere ih =>
      have later : cut? (c :: rest) = some (before, after) ↔
          ∃ inner, cut? rest = some (inner, after) ∧ c :: inner = before := by
        simp [cut?]
      rw [later]
      constructor
      · rintro ⟨inner, found, rfl⟩
        obtain ⟨rfl, unbroken⟩ := ih.mp found
        refine ⟨rfl, unbroken_cons_iff.mpr ⟨unbroken, ?_⟩⟩
        rintro rfl
        refine ⟨?_, ?_⟩
        · rintro rfl
          exact notHere _ rfl rfl
        · rintro more rfl
          exact notHere _ rfl rfl
      · rintro ⟨same, unbroken⟩
        match before with
        | [] =>
            obtain ⟨rfl, rfl⟩ := List.cons.inj same
            exact (notHere _ rfl rfl).elim
        | first :: inner =>
            obtain ⟨rfl, rfl⟩ := List.cons.inj same
            exact ⟨inner, ih.mpr ⟨rfl, (unbroken_cons_iff.mp unbroken).1⟩, rfl⟩
  | case3 => simp [cut?]

/-- A name is split exactly into the parts of which it is joined, if the first one is separable. -/
theorem split?_eq_some_iff {name server tool : String} :
    split? name = some (server, tool) ↔
      name = join server tool ∧ server ≠ "" ∧ tool ≠ "" ∧ Separable server := by
  have cut : cut? name.toList = some (server.toList, tool.toList) ↔
      name = join server tool ∧ Separable server := by
    rw [cut?_eq_some_iff, separable_iff, ← toList_join, String.toList_inj]
  constructor
  · intro split
    match found : cut? name.toList with
    | none => simp [split?, found] at split
    | some (before, after) =>
        simp only [split?, found, Option.ite_none_left_eq_some, Option.some.injEq,
          Prod.mk.injEq, Bool.or_eq_true, List.isEmpty_iff, not_or] at split
        obtain ⟨⟨named, toolNamed⟩, rfl, rfl⟩ := split
        obtain ⟨joined, separable⟩ := cut.mp (by simpa using found)
        exact ⟨joined, by simpa using named, by simpa using toolNamed, separable⟩
  · rintro ⟨joined, named, toolNamed, separable⟩
    rw [split?, cut.mpr ⟨joined, separable⟩]
    simp [named, toolNamed]

-- the underscore that ends a server's name goes over to the tool
example : split? (join "a_" "b") = some ("a", "_b") := by decide +kernel

/-- Joining and splitting invert each other wherever the server's name allows it. -/
theorem splitting_inverts_joining :
    (∀ server tool : String,
      split? (join server tool) = some (server, tool) ↔
        server ≠ "" ∧ tool ≠ "" ∧ Separable server)
    ∧ (∀ name server tool : String,
      split? name = some (server, tool) →
        join server tool = name ∧ server ≠ "" ∧ tool ≠ "" ∧ Separable server)
    ∧ Set.InjOn (fun names : String × String => join names.1 names.2)
        { names | names.1 ≠ "" ∧ names.2 ≠ "" ∧ Separable names.1 } := by
  refine ⟨?_, ?_, ?_⟩
  · intro server tool
    simp [split?_eq_some_iff]
  · intro name server tool split
    obtain ⟨rfl, parts⟩ := split?_eq_some_iff.mp split
    exact ⟨rfl, parts⟩
  · rintro ⟨server, tool⟩ parts ⟨other, otherTool⟩ otherParts same
    have first : split? (join server tool) = some (server, tool) :=
      split?_eq_some_iff.mpr ⟨rfl, parts⟩
    have second : split? (join server tool) = some (other, otherTool) :=
      split?_eq_some_iff.mpr ⟨same, otherParts⟩
    exact Option.some.inj (first.symm.trans second)

end ToolGate.ToolName
