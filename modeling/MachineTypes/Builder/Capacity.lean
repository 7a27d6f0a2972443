import MachineTypes.Builder.Basic

/-!
# `MachineTypes.Builder.Capacity`: builders for any requested arity

The slots of a builder lie in one block of memory, and a block has fewer than `2 ^ 63` bytes. An
arity that no block can hold is refused before a slot is made. `new` is for an arity that is the
length of a list at hand; `allocate` is for an arity that someone asks for. They agree on every
arity that fits.
-/

set_option autoImplicit false

namespace MachineTypes

/-- Why a builder of some arity cannot be had. -/
inductive AllocationError where
  /-- No tuple has this arity. -/
  | invalid (error : TypeError)
  /-- No block of memory can hold the slots. -/
  | capacityOverflow
  deriving DecidableEq, Repr

namespace AllocationError

/-- The wording of the error. -/
def message : AllocationError → String
  | invalid error => error.message
  | capacityOverflow => "capacity overflow"

instance : ToString AllocationError := ⟨message⟩

end AllocationError

namespace Slots

/-- The size of the widest slot, which holds a type, in bytes. -/
def slotBytes : Nat := 40

/-- The size of the largest block of memory, in bytes. -/
def maxBlockBytes : Nat := 0x7fffffffffffffff

/-- A row of this many slots lies in one block of memory. -/
def Fits (size : Nat) : Prop := size * slotBytes ≤ maxBlockBytes

instance (size : Nat) : Decidable (Fits size) :=
  inferInstanceAs (Decidable (_ ≤ _))

end Slots

/-- A tuple with the requested number of unset fields. -/
def TupleBuilder.allocate (arity : Nat) : Except AllocationError TupleBuilder :=
  if Slots.Fits arity then (TupleBuilder.new arity).mapError .invalid
  else .error .capacityOverflow

/-- A named tuple with the requested number of unset fields. -/
def NamedTupleBuilder.allocate (arity : Nat) : Except AllocationError NamedTupleBuilder :=
  if Slots.Fits arity then (NamedTupleBuilder.new arity).mapError .invalid
  else .error .capacityOverflow

end MachineTypes
