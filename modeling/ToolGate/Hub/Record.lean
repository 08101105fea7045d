import ToolGate.Json.Basic

/-!
# Records of the hub

The hub sends records in one of two forms: as an object with the fields
under their names, where others are ignored, or as a list of the fields in
their order, where only fields that may be missing can be left out, and only
at the end.  Reading is strict: a field of another type, or one that is
missing, spoils the whole record.
-/

namespace ToolGate.Hub

/-- The fields of a record by name, from either form. -/
def fields? (names : List String) : Json → Option (List (String × Json))
  | .object members => some members
  | .array elements =>
      if elements.length ≤ names.length then some (names.zip elements) else none
  | _ => none

/-- A field that must be there. -/
def requiredField {α : Type} (read : Json → Option α) (fields : List (String × Json))
    (name : String) : Option α :=
  (fields.lookup name).bind read

/-- A field that may be missing or `null`. -/
def optionalField {α : Type} (read : Json → Option α) (fields : List (String × Json))
    (name : String) : Option (Option α) :=
  match fields.lookup name with
  | none => some none
  | some .null => some none
  | some value => (read value).map some

/-- A list whose elements are all read. -/
def list? {α : Type} (read : Json → Option α) : Json → Option (List α)
  | .array elements => elements.mapM read
  | _ => none

/-- A member that is written if its text is there. -/
def optionalText (name : String) (text : Option String) : List (String × Json) :=
  match text with
  | some text => [(name, .string text)]
  | none => []

/-- A list of strings. -/
def strings (texts : List String) : Json :=
  .array (texts.map .string)

end ToolGate.Hub
