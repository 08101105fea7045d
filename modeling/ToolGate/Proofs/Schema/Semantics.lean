import ToolGate.Format
import ToolGate.Pattern
import ToolGate.Proofs.Schema.Structure
import ToolGate.Validator.Basic

/-!
# What a schema node admits

This module says which values a node admits, keyword by keyword and without
a validator.  A constant goes before alternatives, these before a
conjunction, and this before the type.  A node with a type that can be
listed goes by its list of values if it has one, and by its other rules if
not.  A property may be missing from an object only if its node is not
constrained at all.
-/

namespace ToolGate

namespace Keywords

/-- The text has an admitted length, the pattern and the format, as far as they are given. -/
structure AdmitsText (keywords : Keywords) (text : String) : Prop where
  minLength : ∀ minimum ∈ keywords.minLength, minimum.toNat ≤ text.length
  maxLength : ∀ maximum ∈ keywords.maxLength, text.length ≤ maximum.toNat
  /-- A source that is no regular expression does not count. -/
  pattern : ∀ source ∈ keywords.pattern, ∀ pattern ∈ Pattern.whole? source,
    pattern.isMatch text = true
  format : ∀ format ∈ keywords.format, format.accepts text = true

/-- The number lies within the bounds that are given. -/
structure AdmitsNumber (keywords : Keywords) (x : Binary64) : Prop where
  minimum : ∀ bound ∈ keywords.minimum, bound.units ≤ x.units
  maximum : ∀ bound ∈ keywords.maximum, x.units ≤ bound.units
  exclusiveMinimum : ∀ bound ∈ keywords.exclusiveMinimum, bound.units < x.units
  exclusiveMaximum : ∀ bound ∈ keywords.exclusiveMaximum, x.units < bound.units

/-- The number of elements lies within the bounds that are given. -/
structure AdmitsSize (keywords : Keywords) (count : Nat) : Prop where
  minItems : ∀ minimum ∈ keywords.minItems, minimum.toNat ≤ count
  maxItems : ∀ maximum ∈ keywords.maxItems, count ≤ maximum.toNat

/-- There is no list of admitted values, or it is empty. -/
def Unlisted (keywords : Keywords) : Prop :=
  ∀ values ∈ keywords.enumeration, values = []

end Keywords

/-- The types whose values may be listed. -/
def SchemaType.Listable : SchemaType → Prop
  | .string | .number | .integer => True
  | _ => False

namespace SchemaNode

/-- The node says nothing about values: a value that it describes may be missing. -/
inductive Unconstrained : SchemaNode → Prop where
  | untyped {node : SchemaNode} (decided : node.DecidedByType none) : Unconstrained node
  | unrecognized {node : SchemaNode} {name : String}
      (decided : node.DecidedByType (some (.unrecognized name))) : Unconstrained node
  | bareObject {node : SchemaNode} (decided : node.DecidedByType (some .object))
      (properties : node.properties = none)
      (additionalProperties : node.additionalProperties = none) : Unconstrained node
  | noAlternative {node : SchemaNode} (constant : node.keywords.constant = none)
      (given : node.alternatives = some []) : Unconstrained node
  | oneAlternative {node branch : SchemaNode} (constant : node.keywords.constant = none)
      (given : node.alternatives = some [branch]) (unconstrained : Unconstrained branch) :
      Unconstrained node
  | noConjunct {node : SchemaNode} (constant : node.keywords.constant = none)
      (alternatives : node.alternatives = none) (given : node.allOf = some []) :
      Unconstrained node
  | oneConjunct {node branch : SchemaNode} (constant : node.keywords.constant = none)
      (alternatives : node.alternatives = none) (given : node.allOf = some [branch])
      (unconstrained : Unconstrained branch) : Unconstrained node

/-- The node admits a value, given what happens to undeclared members of objects. -/
inductive Admits (policy : UnknownKeys) : SchemaNode → Json → Prop where
  | nullable {node : SchemaNode} (nullable : node.keywords.nullable = true) :
      Admits policy node .null
  | constant {node : SchemaNode} {expected value : Json}
      (given : node.keywords.constant = some expected)
      (same : expected.sameValue value = true) : Admits policy node value
  | noAlternative {node : SchemaNode} {value : Json} (constant : node.keywords.constant = none)
      (given : node.alternatives = some []) : Admits policy node value
  | alternative {node branch : SchemaNode} {branches : List SchemaNode} {value : Json}
      (constant : node.keywords.constant = none) (given : node.alternatives = some branches)
      (member : branch ∈ branches) (admitted : Admits policy branch value) :
      Admits policy node value
  | conjunction {node : SchemaNode} {branches : List SchemaNode} {value : Json}
      (constant : node.keywords.constant = none) (alternatives : node.alternatives = none)
      (given : node.allOf = some branches)
      (admitted : ∀ branch ∈ branches, Admits policy branch value) : Admits policy node value
  | listed {node : SchemaNode} {type : SchemaType} {values : List Json} {expected value : Json}
      (decided : node.DecidedByType (some type)) (listable : type.Listable)
      (given : node.keywords.enumeration = some values) (member : expected ∈ values)
      (same : expected.sameValue value = true) : Admits policy node value
  | string {node : SchemaNode} {text : String} (decided : node.DecidedByType (some .string))
      (unlisted : node.keywords.Unlisted) (rules : node.keywords.AdmitsText text) :
      Admits policy node (.string text)
  | number {node : SchemaNode} {n : JsonNumber} (decided : node.DecidedByType (some .number))
      (unlisted : node.keywords.Unlisted) (rules : node.keywords.AdmitsNumber n.toBinary64) :
      Admits policy node (.number n)
  | integer {node : SchemaNode} {n : JsonNumber} (decided : node.DecidedByType (some .integer))
      (unlisted : node.keywords.Unlisted)
      (whole : (Binary64.unitsPerOne : Int) ∣ n.toBinary64.units)
      (rules : node.keywords.AdmitsNumber n.toBinary64) : Admits policy node (.number n)
  | boolean {node : SchemaNode} {truth : Bool} (decided : node.DecidedByType (some .boolean)) :
      Admits policy node (.bool truth)
  | null {node : SchemaNode} (decided : node.DecidedByType (some .null)) :
      Admits policy node .null
  /-- Members are admitted, missing ones are not constrained, and a strict policy has no others. -/
  | object {node : SchemaNode} {entries : List (String × SchemaNode)}
      {members : List (String × Json)} (decided : node.DecidedByType (some .object))
      (declared : node.properties = some entries)
      (present : ∀ entry ∈ entries, ∀ value, members.lookup entry.1 = some value →
        Admits policy entry.2 value)
      (absent : ∀ entry ∈ entries, members.lookup entry.1 = none → entry.2.Unconstrained)
      (undeclared : policy = .strict → ∀ member ∈ members, member.1 ∈ Entries.names entries) :
      Admits policy node (.object members)
  | record {node values : SchemaNode} {members : List (String × Json)}
      (decided : node.DecidedByType (some .object)) (properties : node.properties = none)
      (given : node.additionalProperties = some values)
      (admitted : ∀ member ∈ members, Admits policy values member.2) :
      Admits policy node (.object members)
  | bareObject {node : SchemaNode} {value : Json} (decided : node.DecidedByType (some .object))
      (properties : node.properties = none)
      (additionalProperties : node.additionalProperties = none) : Admits policy node value
  | tuple {node : SchemaNode} {slots : List SchemaNode} {elements : List Json}
      (decided : node.DecidedByType (some .array)) (given : node.prefixItems = some slots)
      (arity : elements.length = slots.length)
      (admitted : ∀ pair ∈ slots.zip elements, Admits policy pair.1 pair.2) :
      Admits policy node (.array elements)
  | array {node items : SchemaNode} {elements : List Json}
      (decided : node.DecidedByType (some .array)) (prefixItems : node.prefixItems = none)
      (given : node.items = some items) (size : node.keywords.AdmitsSize elements.length)
      (admitted : ∀ element ∈ elements, Admits policy items element) :
      Admits policy node (.array elements)
  | bareArray {node : SchemaNode} {elements : List Json}
      (decided : node.DecidedByType (some .array)) (prefixItems : node.prefixItems = none)
      (items : node.items = none) : Admits policy node (.array elements)
  | untyped {node : SchemaNode} {value : Json} (decided : node.DecidedByType none) :
      Admits policy node value
  | unrecognized {node : SchemaNode} {name : String} {value : Json}
      (decided : node.DecidedByType (some (.unrecognized name))) : Admits policy node value

end SchemaNode

end ToolGate
