import MachineTypes.Kind
import MachineTypes.Tag
import MachineTypes.Text.Notation

/-!
# `MachineTypes.Error`: why a type could not be made

All failures of making a type, from a bad field name to a descriptor that nests too deep. Some of
them name one of the four capabilities that the provider of a foreign type must have, so these stand
here too.
-/

set_option autoImplicit false

namespace MachineTypes.Foreign

/-! ## The four things a provider can do

A foreign type needs a provider that can clone, free, hash and compare its values. A slot names
one of these four capabilities.
-/

/-- One of the four capabilities of a foreign type. -/
inductive Slot where
  | clone
  | free
  | hash
  | equals
  deriving DecidableEq, Repr

namespace Slot

/-- The slots, in the order in which they are checked. -/
def all : List Slot := [clone, free, hash, equals]

/-- The slot as it is named in messages. -/
def name : Slot → String
  | clone => "clone"
  | free => "free"
  | hash => "hash"
  | equals => "equals"

instance : ToString Slot := ⟨name⟩

end Slot

end MachineTypes.Foreign

namespace MachineTypes

/-! ## Errors

One constructor for each cause. `TypeError.message` holds the wording of all of them.
-/

/-- The reasons why making a type fails. -/
inductive TypeError where
  /-- A described node lacks a part, or its slot count differs from its arity. -/
  | malformedNode (kind : Kind)
  /-- A primitive type was asked for, with a kind that is not primitive. -/
  | notPrimitive (kind : Kind)
  /-- The provider of a foreign type lacks a capability. -/
  | missingCapability (tag : Tag) (slot : Foreign.Slot)
  /-- A tuple must have at least one field. -/
  | invalidArity (arity : Nat)
  /-- A tuple of this arity has no field with this index. -/
  | fieldIndexOutOfRange (index arity : Nat)
  /-- A field name is empty or too long. -/
  | invalidFieldName (name : String)
  /-- The field with this index has no type. -/
  | fieldTypeUnset (index : Nat)
  /-- The field with this index has no name. -/
  | fieldNameUnset (index : Nat)
  /-- A descriptor has a node below the deepest level allowed. -/
  | nestingTooDeep (limit : Nat)
  deriving DecidableEq, Repr

namespace TypeError

/-- The wording of the error. -/
def message : TypeError → String
  | malformedNode kind => "invalid type expression: malformed " ++ kind.name ++ " node"
  | notPrimitive kind => "expected a primitive type kind, got " ++ kind.name
  | missingCapability tag slot =>
    "foreign type " ++ tag.display ++ " has no " ++ slot.name ++ " capability"
  | invalidArity arity => "invalid tuple arity " ++ toString arity ++ " (must be positive)"
  | fieldIndexOutOfRange index arity =>
    "field index " ++ toString index ++ " out of range for arity " ++ toString arity
  | invalidFieldName name => "invalid field name " ++ Text.quote name
  | fieldTypeUnset index => "field " ++ toString index ++ " has no type assigned"
  | fieldNameUnset index => "field " ++ toString index ++ " has no name assigned"
  | nestingTooDeep limit =>
    "type descriptor nests deeper than " ++ toString limit ++ " levels"

instance : ToString TypeError := ⟨message⟩

end TypeError

end MachineTypes
