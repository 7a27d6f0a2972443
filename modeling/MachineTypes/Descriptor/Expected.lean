import MachineTypes.Descriptor.Basic
import MachineTypes.Descriptor.Convert
import MachineTypes.Ty.Basic

/-!
# `MachineTypes.Descriptor.Expected`: what a conversion is to give

The conversion of a descriptor walks down the descriptor with builders. What it is to come to is
said here without a walk: a type is given for the descriptors of that type (`ofTy`), and an error is
the first of all that is wrong (`violations`).
-/

set_option autoImplicit false

namespace MachineTypes.Descriptor

/-! ## The descriptor of a type

`ofTy` describes a type node for node, with every part present and every arity declared as it
is. It is the other direction of the conversion.
-/

mutual

/-- The complete description of a type. -/
def ofTy : Ty → Descriptor
  | .any => any
  | .bool => bool
  | .event => event
  | .machine => machine
  | .int => int
  | .null => null
  | .foreign type => foreign (some ⟨type.tag, type.provider.capabilities.parts⟩)
  | .map domain codomain => map (some (ofTy domain)) (some (ofTy codomain))
  | .seq inner => seq (some (ofTy inner))
  | .tuple fields => tuple fields.length (some (slotsOf fields))
  | .namedTuple fields =>
    namedTuple fields.length (some (fields.map fun field => some field.name.text))
      (some (fieldSlotsOf fields))

/-- The slots that describe a list of types. -/
def slotsOf : List Ty → List (Option Descriptor)
  | [] => []
  | type :: rest => some (ofTy type) :: slotsOf rest

/-- The slots that describe the types of a list of fields. -/
def fieldSlotsOf : List (Field Ty) → List (Option Descriptor)
  | [] => []
  | ⟨_, type⟩ :: rest => some (ofTy type) :: fieldSlotsOf rest

end

/-! ## Everything that is wrong with a descriptor

`violations` lists all that a descriptor is at fault for, in the order of a walk from the root
and from left to right. A node that is too deep or lacks a part hides what is below it. The
conversion reports the first entry of this list, and succeeds if there is none.
-/

/-- What is wrong with the parts of a foreign type: the first missing slot. -/
def partViolations (record : ForeignDescriptor) : List TypeError :=
  (record.parts.firstMissing?.map (.missingCapability record.tag)).toList

/-- What is wrong with the names in the slots of a list of which the first has the given
index. -/
def nameViolations : Nat → List (Option String) → List TypeError
  | _, [] => []
  | index, none :: rest => .fieldNameUnset index :: nameViolations (index + 1) rest
  | index, some text :: rest =>
    if FieldName.Valid text then nameViolations (index + 1) rest
    else .invalidFieldName text :: nameViolations (index + 1) rest

mutual

/-- What is wrong with a node at the given level and with the nodes below it. -/
def violations (level : Nat) (descriptor : Descriptor) : List TypeError :=
  if level > maxLevel then
    [.nestingTooDeep maxLevel]
  else
    match descriptor with
    | foreign (some record) => partViolations record
    | foreign none => [.malformedNode .foreign]
    | map (some domain) (some codomain) =>
      domain.violations (level + 1) ++ codomain.violations (level + 1)
    | map _ _ => [.malformedNode .map]
    | seq (some inner) => inner.violations (level + 1)
    | seq none => [.malformedNode .seq]
    | tuple arity (some slots) =>
      if 0 < arity ∧ slots.length = arity then slotViolations (level + 1) 0 slots
      else [.malformedNode .tuple]
    | tuple _ none => [.malformedNode .tuple]
    | namedTuple arity (some nameSlots) (some slots) =>
      if 0 < arity ∧ nameSlots.length = arity ∧ slots.length = arity then
        nameViolations 0 nameSlots ++ slotViolations (level + 1) 0 slots
      else
        [.malformedNode .namedTuple]
    | namedTuple _ _ _ => [.malformedNode .namedTuple]
    | _ => []

/-- What is wrong in the slots of a list of which the first has the given index. -/
def slotViolations (level : Nat) : Nat → List (Option Descriptor) → List TypeError
  | _, [] => []
  | index, none :: rest => .fieldTypeUnset index :: slotViolations level (index + 1) rest
  | index, some descriptor :: rest =>
    descriptor.violations level ++ slotViolations level (index + 1) rest

end

end MachineTypes.Descriptor
