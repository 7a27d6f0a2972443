import MachineTypes.Builder.Basic
import MachineTypes.Descriptor.Basic

/-!
# `MachineTypes.Descriptor.Convert`: from descriptors to types

The conversion walks the whole descriptor and stops at the first thing wrong with it. The root
is at level 0. A node below level 256 is refused without a look at it. Otherwise a node is
checked for its own parts, then a named tuple for its names, and then the children from left to
right. Tuples and named tuples are made by their builders, which are filled slot by slot.
-/

set_option autoImplicit false

namespace MachineTypes.Descriptor

/-- The deepest level at which a node is accepted. -/
def maxLevel : Nat := 256

/-- The conversion of a part, to be run when its turn comes. -/
abbrev Pending := Thunk (Except TypeError Ty)

/-- Names the fields of a builder by the slots of a list of which the first has the given
index, up to the first slot that is unset or whose name is refused. -/
def writeNames :
    Nat → List (Option String) → NamedTupleBuilder → Except TypeError NamedTupleBuilder
  | _, [], builder => .ok builder
  | index, none :: _, _ => .error (.fieldNameUnset index)
  | index, some text :: rest, builder => do
    let next ← builder.setName index text
    writeNames (index + 1) rest next

/-- Gives the fields of a builder their types by the slots of a list of which the first has the
given index. A slot is converted when the slots before it are written. -/
def writeTypes {Builder : Type} (setType : Builder → Nat → Ty → Except TypeError Builder) :
    Nat → List (Option Pending) → Builder → Except TypeError Builder
  | _, [], builder => .ok builder
  | index, none :: _, _ => .error (.fieldTypeUnset index)
  | index, some pending :: rest, builder => do
    let type ← pending.get
    let next ← setType builder index type
    writeTypes setType (index + 1) rest next

mutual

/-- The type described by a node at the given level. -/
def convertAt (level : Nat) (descriptor : Descriptor) : Except TypeError Ty :=
  if level > maxLevel then
    .error (.nestingTooDeep maxLevel)
  else
    match descriptor with
    | any => .ok .any
    | bool => .ok .bool
    | event => .ok .event
    | machine => .ok .machine
    | int => .ok .int
    | null => .ok .null
    | foreign (some record) => Ty.foreignOfParts record.tag record.parts
    | foreign none => .error (.malformedNode .foreign)
    | map (some domain) (some codomain) => do
      let key ← domain.convertAt (level + 1)
      let value ← codomain.convertAt (level + 1)
      return .map key value
    | map _ _ => .error (.malformedNode .map)
    | seq (some inner) => do
      let element ← inner.convertAt (level + 1)
      return .seq element
    | seq none => .error (.malformedNode .seq)
    | tuple arity (some slots) =>
      if 0 < arity ∧ slots.length = arity then do
        let builder ← TupleBuilder.new arity
        let filled ← writeTypes TupleBuilder.setType 0 (pendingSlots (level + 1) slots) builder
        filled.build
      else
        .error (.malformedNode .tuple)
    | tuple _ none => .error (.malformedNode .tuple)
    | namedTuple arity (some nameSlots) (some slots) =>
      if 0 < arity ∧ nameSlots.length = arity ∧ slots.length = arity then do
        let builder ← NamedTupleBuilder.new arity
        let named ← writeNames 0 nameSlots builder
        let filled ← writeTypes NamedTupleBuilder.setType 0 (pendingSlots (level + 1) slots) named
        filled.build
      else
        .error (.malformedNode .namedTuple)
    | namedTuple _ _ _ => .error (.malformedNode .namedTuple)

/-- The conversions of the nodes in the slots of a list, all at one level. -/
def pendingSlots (level : Nat) : List (Option Descriptor) → List (Option Pending)
  | [] => []
  | none :: rest => none :: pendingSlots level rest
  | some descriptor :: rest =>
    some (Thunk.mk fun _ => descriptor.convertAt level) :: pendingSlots level rest

end

/-- The described type, or the first error found in the descriptor. -/
def convert (descriptor : Descriptor) : Except TypeError Ty :=
  descriptor.convertAt 0

end MachineTypes.Descriptor
