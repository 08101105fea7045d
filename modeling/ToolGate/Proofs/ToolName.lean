import Mathlib.Data.List.Basic
import ToolGate.ToolName

/-!
# When joined names coincide

A joined name does not tell where the name of the server ends: the separator
may stand in either part, and an underscore at the end of a server's name
runs into it.  Two servers can share a joined name exactly if the name of one
continues that of the other, by a separator and any text or by an underscore
alone.
-/

namespace ToolGate.ToolName

/-- The name is a shorter one followed by an underscore, or by the separator and any text. -/
def Continues (name base : String) : Prop :=
  name = base ++ "_" ∨ ∃ rest, name = base ++ separator ++ rest

/-- Neither of two names continues the other. -/
def Apart (first second : String) : Prop :=
  ¬ Continues first second ∧ ¬ Continues second first

instance (name base : String) : Decidable (Continues name base) :=
  decidable_of_iff (name = base ++ "_" ∨ (base ++ separator).toList <+: name.toList) <| by
    refine or_congr_right ⟨?_, ?_⟩
    · rintro ⟨rest, split⟩
      exact ⟨String.ofList rest, by rw [← String.toList_inj, ← split]; simp⟩
    · rintro ⟨rest, rfl⟩
      exact ⟨rest.toList, by simp⟩

instance (first second : String) : Decidable (Apart first second) :=
  inferInstanceAs (Decidable (_ ∧ _))

@[simp]
theorem toList_join (server tool : String) :
    (join server tool).toList = server.toList ++ '_' :: '_' :: tool.toList := by
  simp [join, separator]

theorem continues_iff {name base : String} :
    Continues name base ↔
      ∃ more, name.toList = base.toList ++ more ∧
        (more = ['_'] ∨ ∃ rest, more = '_' :: '_' :: rest) := by
  constructor
  · rintro (rfl | ⟨rest, rfl⟩)
    · exact ⟨['_'], by simp, .inl rfl⟩
    · exact ⟨'_' :: '_' :: rest.toList, by simp [separator], .inr ⟨rest.toList, rfl⟩⟩
  · rintro ⟨more, split, rfl | ⟨rest, rfl⟩⟩
    · left
      rw [← String.toList_inj, split]
      simp
    · right
      refine ⟨String.ofList rest, ?_⟩
      rw [← String.toList_inj, split]
      simp [separator]

/-- What follows a server's name in a joined name is also cut by a longer server's name. -/
theorem continues_of_separator {base name : String} {more : List Char} {tool other : String}
    (longer : name.toList = base.toList ++ more)
    (same : '_' :: '_' :: tool.toList = more ++ '_' :: '_' :: other.toList) :
    base = name ∨ Continues name base := by
  match more with
  | [] =>
      rw [List.append_nil, String.toList_inj] at longer
      exact .inl longer.symm
  | [first] =>
      simp only [List.cons_append, List.cons.injEq] at same
      obtain ⟨rfl, _⟩ := same
      exact .inr (continues_iff.mpr ⟨['_'], longer, .inl rfl⟩)
  | first :: second :: rest =>
      simp only [List.cons_append, List.cons.injEq] at same
      obtain ⟨rfl, rfl, _⟩ := same
      exact .inr (continues_iff.mpr ⟨'_' :: '_' :: rest, longer, .inr ⟨rest, rfl⟩⟩)

/-- Tools of different servers share a joined name only if one server's name continues the other. -/
theorem continues_of_join_eq_join {first second tool other : String}
    (same : join first tool = join second other) :
    first = second ∨ Continues first second ∨ Continues second first := by
  rw [← String.toList_inj, toList_join, toList_join] at same
  rcases List.append_eq_append_iff.mp same with ⟨more, longer, split⟩ | ⟨more, longer, split⟩
  · rcases continues_of_separator longer split with equal | continued
    · exact .inl equal
    · exact .inr (.inr continued)
  · rcases continues_of_separator longer split with equal | continued
    · exact .inl equal.symm
    · exact .inr (.inl continued)

/-- If one server's name continues the other's, some tools of both share a joined name. -/
theorem Continues.exists_join_eq_join {name base : String} (continued : Continues name base) :
    ∃ tool other, join name tool = join base other := by
  rcases continued with rfl | ⟨rest, rfl⟩
  · exact ⟨"", "_", by simp [← String.toList_inj]⟩
  · exact ⟨"", join rest "", by simp [← String.toList_inj, separator]⟩

/-- Names of different servers are apart exactly if none of their tools share a joined name. -/
theorem apart_iff {first second : String} (different : first ≠ second) :
    Apart first second ↔ ∀ tool other, join first tool ≠ join second other := by
  constructor
  · intro apart tool other same
    rcases continues_of_join_eq_join same with equal | continued | continued
    · exact different equal
    · exact apart.1 continued
    · exact apart.2 continued
  · intro unshared
    constructor
    · intro continued
      rcases continued.exists_join_eq_join with ⟨tool, other, same⟩
      exact unshared tool other same
    · intro continued
      rcases continued.exists_join_eq_join with ⟨other, tool, same⟩
      exact unshared tool other same.symm

end ToolGate.ToolName
