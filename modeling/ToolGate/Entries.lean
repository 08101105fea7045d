/-!
# Entries in insertion order

Objects, parameter maps and registries are lists of named entries with
distinct names.  Their order is the order of first insertion: writing to a
present name keeps its place, and removal comes in two forms, one that keeps
the order of the others and one that moves the last entry into the gap.
-/

namespace ToolGate.Entries

variable {α : Type _}

/-- The names, in order. -/
def names (entries : List (String × α)) : List String :=
  entries.map Prod.fst

/-- No name occurs twice. -/
def Distinct (entries : List (String × α)) : Prop :=
  (names entries).Nodup

/-- A name is present. -/
def contains (entries : List (String × α)) (name : String) : Bool :=
  entries.any (fun entry => entry.1 == name)

/-- Write a value: in place if the name is present, else at the end. -/
def insert (name : String) (value : α) : List (String × α) → List (String × α)
  | [] => [(name, value)]
  | entry :: rest =>
      if entry.1 = name then (name, value) :: rest else entry :: insert name value rest

/-- Write a list of entries one after the other, so that the last value of a name counts. -/
def ofList (entries : List (String × α)) : List (String × α) :=
  entries.foldl (fun collected entry => insert entry.1 entry.2 collected) []

/-- Remove a name and keep the order of the others. -/
def erase (entries : List (String × α)) (name : String) : List (String × α) :=
  entries.filter (fun entry => entry.1 != name)

/-- Remove a name; the last entry takes its place. -/
def swapErase (name : String) : List (String × α) → List (String × α)
  | [] => []
  | entry :: rest =>
      if entry.1 = name then
        match rest.getLast? with
        | none => []
        | some last => last :: rest.dropLast
      else
        entry :: swapErase name rest

end ToolGate.Entries
