import MachineTypes.Error
import MachineTypes.Ty.Basic

/-!
# `MachineTypes.Builder.Basic`: tuples field by field

Tuples and named tuples are made from rows of slots, one for each field, which can be written in any
order and more than once. A builder is such a row, or two of them for a named tuple. It refuses a
write outside of its arity and a name that is not valid, and gives the type when nothing is missing.
-/

set_option autoImplicit false

namespace MachineTypes

/-! ## Slots

A row of slots has a fixed size. Each slot is unset at first and can be written any number of
times; the last write stays (`get?_set`). `collect` gives all values once every slot is set, and
otherwise reports the first unset one.
-/

/-- A row of slots, each holding a value or nothing. -/
structure Slots (α : Type) where
  entries : Array (Option α)

namespace Slots

variable {α : Type}

/-- A row of unset slots. -/
def unset (size : Nat) : Slots α := ⟨Array.replicate size none⟩

/-- The number of slots. -/
def size (slots : Slots α) : Nat := slots.entries.size

/-- The value in a slot, if the slot exists and is set. -/
def get? (slots : Slots α) (index : Nat) : Option α := slots.entries[index]?.join

/-- The row with a value in one slot. A row without that slot stays as it is. -/
def set (slots : Slots α) (index : Nat) (value : α) : Slots α :=
  ⟨slots.entries.setIfInBounds index (some value)⟩

/-- Passes if the row has a slot with the index. -/
def requireIndex (slots : Slots α) (index : Nat) : Except TypeError Unit :=
  if index < slots.size then .ok () else .error (.fieldIndexOutOfRange index slots.size)

/-- Whether every slot is set. -/
def isFull (slots : Slots α) : Bool := slots.entries.all (·.isSome)

/-- The values of a list of slots of which the first has the given index, or the error for the
first unset slot. -/
def collectFrom (error : Nat → TypeError) : Nat → List (Option α) → Except TypeError (List α)
  | _, [] => .ok []
  | index, none :: _ => .error (error index)
  | index, some value :: rest => do
    let values ← collectFrom error (index + 1) rest
    return value :: values

/-- The values of all slots in order, or the error for the first unset slot. -/
def collect (error : Nat → TypeError) (slots : Slots α) : Except TypeError (List α) :=
  collectFrom error 0 slots.entries.toList

/-- A new row has as many slots as were asked for. -/
@[simp] theorem size_unset (size : Nat) : (unset size : Slots α).size = size := by
  simp [unset, Slots.size]

/-- Nothing is set in a new row, and nothing can be read beyond its end. -/
@[simp] theorem get?_unset (size index : Nat) : (unset size : Slots α).get? index = none := by
  simp only [unset, get?, Array.getElem?_replicate]
  split <;> rfl

/-- A write never changes the number of slots, also when it is out of range. -/
@[simp] theorem size_set (slots : Slots α) (index : Nat) (value : α) :
    (slots.set index value).size = slots.size := by
  simp [set, size]

/-- After a write in range, its slot holds the value and every other slot is as before. -/
theorem get?_set (slots : Slots α) {index : Nat} (inRange : index < slots.size) (value : α)
    (other : Nat) :
    (slots.set index value).get? other
      = if other = index then some value else slots.get? other := by
  simp only [set, get?, Array.getElem?_setIfInBounds]
  by_cases same : index = other
  · -- The written slot exists, so reading it gives the value.
    subst same
    simp [show index < slots.entries.size from inRange]
  · simp [same, Ne.symm same]

end Slots

/-! ## Tuples

A builder has one slot for each field. The slots can be filled in any order, and `build` gives
the tuple once all are filled. An incomplete tuple is never a `Ty`.
-/

/-- A tuple under construction. -/
structure TupleBuilder where
  types : Slots Ty

namespace TupleBuilder

/-- A tuple with the given number of unset fields. There must be at least one. -/
def new (arity : Nat) : Except TypeError TupleBuilder :=
  if arity = 0 then .error (.invalidArity arity) else .ok ⟨.unset arity⟩

/-- The number of fields. -/
def arity (builder : TupleBuilder) : Nat := builder.types.size

/-- Sets the type of a field, replacing an earlier one. -/
def setType (builder : TupleBuilder) (index : Nat) (type : Ty) :
    Except TypeError TupleBuilder := do
  builder.types.requireIndex index
  return ⟨builder.types.set index type⟩

/-- Whether every field has its type. -/
def isComplete (builder : TupleBuilder) : Bool := builder.types.isFull

/-- The finished tuple, or the first field without a type. -/
def build (builder : TupleBuilder) : Except TypeError Ty := do
  return .tuple (← builder.types.collect .fieldTypeUnset)

/-- Sets the types of consecutive fields, from the given index on. -/
def setTypesFrom (builder : TupleBuilder) : Nat → List Ty → Except TypeError TupleBuilder
  | _, [] => .ok builder
  | index, type :: rest => do
    let next ← builder.setType index type
    next.setTypesFrom (index + 1) rest

end TupleBuilder

/-! ## Named tuples

A builder has two slots for each field, one for its name and one for its type. They can be
filled in any order. When something is missing, `build` reports a missing name before a missing
type.
-/

/-- A named tuple under construction. -/
structure NamedTupleBuilder where
  names : Slots FieldName
  types : Slots Ty
  /-- Each field has a slot for its name and one for its type. -/
  size_names : names.size = types.size

namespace NamedTupleBuilder

/-- A named tuple with the given number of unset fields. There must be at least one. -/
def new (arity : Nat) : Except TypeError NamedTupleBuilder :=
  if arity = 0 then .error (.invalidArity arity)
  else .ok ⟨.unset arity, .unset arity, by simp⟩

/-- The number of fields. -/
def arity (builder : NamedTupleBuilder) : Nat := builder.types.size

/-- Sets the type of a field, replacing an earlier one. -/
def setType (builder : NamedTupleBuilder) (index : Nat) (type : Ty) :
    Except TypeError NamedTupleBuilder := do
  builder.types.requireIndex index
  return { builder with
    types := builder.types.set index type
    size_names := by simp [builder.size_names] }

/-- Sets the name of a field, replacing an earlier one. The index is checked before the
name. -/
def setName (builder : NamedTupleBuilder) (index : Nat) (text : String) :
    Except TypeError NamedTupleBuilder := do
  builder.names.requireIndex index
  let name ← FieldName.ofString text
  return { builder with
    names := builder.names.set index name
    size_names := by simp [builder.size_names] }

/-- Whether every field has its name and its type. -/
def isComplete (builder : NamedTupleBuilder) : Bool :=
  builder.names.isFull && builder.types.isFull

/-- The finished named tuple, or the first field without a name, or else the first one without
a type. -/
def build (builder : NamedTupleBuilder) : Except TypeError Ty := do
  let names ← builder.names.collect .fieldNameUnset
  let types ← builder.types.collect .fieldTypeUnset
  return .namedTuple (names.zipWith Field.mk types)

/-- Sets the names and types of consecutive fields from the given index on, for each field the
name first. -/
def setFieldsFrom (builder : NamedTupleBuilder) :
    Nat → List (String × Ty) → Except TypeError NamedTupleBuilder
  | _, [] => .ok builder
  | index, (text, type) :: rest => do
    let named ← builder.setName index text
    let next ← named.setType index type
    next.setFieldsFrom (index + 1) rest

end NamedTupleBuilder

end MachineTypes
