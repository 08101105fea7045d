import ToolGate.Schema.Basic

/-!
# Equality of schema nodes

Nodes are equal if all their keywords are: named children up to order,
bounds by value, and values inside `enum` and `const` by form.
-/

namespace ToolGate

/-- Equality of two optional things by an equality of the things. -/
def equalOptions {α : Type} (equal : α → α → Bool) : Option α → Option α → Bool
  | none, none => true
  | some a, some b => equal a b
  | _, _ => false

/-- Equality of the keywords without nodes inside. -/
def Keywords.equal (a b : Keywords) : Bool :=
  a.type == b.type
    && a.description == b.description
    && equalOptions (fun xs ys => (Json.array xs).sameForm (.array ys)) a.enumeration b.enumeration
    && equalOptions Json.sameForm a.constant b.constant
    && a.nullable == b.nullable
    && a.minItems == b.minItems
    && a.maxItems == b.maxItems
    && a.minLength == b.minLength
    && a.maxLength == b.maxLength
    && a.pattern == b.pattern
    && a.format == b.format
    && equalOptions Binary64.sameValue a.minimum b.minimum
    && equalOptions Binary64.sameValue a.maximum b.maximum
    && equalOptions Binary64.sameValue a.exclusiveMinimum b.exclusiveMinimum
    && equalOptions Binary64.sameValue a.exclusiveMaximum b.exclusiveMaximum

namespace SchemaNode

mutual

/-- Equality of nodes. -/
def equal : SchemaNode → SchemaNode → Bool
  | ⟨keywords, properties, additionalProperties, items, prefixItems, anyOf, oneOf, allOf⟩,
      other =>
      keywords.equal other.keywords
        && equalMembers? properties other.properties
        && equal? additionalProperties other.additionalProperties
        && equal? items other.items
        && equalLists? prefixItems other.prefixItems
        && equalLists? anyOf other.anyOf
        && equalLists? oneOf other.oneOf
        && equalLists? allOf other.allOf

/-- Equality of optional children. -/
def equal? : Option SchemaNode → Option SchemaNode → Bool
  | none, none => true
  | some a, some b => equal a b
  | _, _ => false

/-- Equality of optional lists of children. -/
def equalLists? : Option (List SchemaNode) → Option (List SchemaNode) → Bool
  | none, none => true
  | some a, some b => equalLists a b
  | _, _ => false

/-- Equality of optional named children. -/
def equalMembers? :
    Option (List (String × SchemaNode)) → Option (List (String × SchemaNode)) → Bool
  | none, none => true
  | some a, some b => a.length == b.length && equalMembers a b
  | _, _ => false

/-- Nodes are equal one by one. -/
def equalLists : List SchemaNode → List SchemaNode → Bool
  | [], [] => true
  | a :: rest, b :: others => equal a b && equalLists rest others
  | _, _ => false

/-- Every named node has an equal one under its name. -/
def equalMembers : List (String × SchemaNode) → List (String × SchemaNode) → Bool
  | [], _ => true
  | (name, a) :: rest, others =>
      (match others.lookup name with
        | some b => equal a b
        | none => false)
      && equalMembers rest others

end

end SchemaNode

end ToolGate
