import MachineTypes.Foreign.Basic

/-!
# `MachineTypes.Foreign.Point`: a provider of points

Four plain functions for points with 32-bit coordinates. Each call leaves a note of the
capability used and of its tags. Values that are not points have no copy, share one hash and
equal each other.
-/

set_option autoImplicit false

namespace MachineTypes.Foreign.Point

/-- The copy of a point is the same point; anything else has no copy. -/
def clone : CloneFn := fun tag value => do
  Call.note ("clone " ++ tag.display)
  return match value.point? with
    | some (x, y) => .of (.point x y)
    | none => .absent

/-- Releasing notes whether a value was present. -/
def free : FreeFn := fun tag value =>
  Call.note ("free " ++ tag.display ++ " " ++ toString (!value.isAbsent))

/-- The hash of a value that is not a point. -/
def noPointHash : UInt32 := 4294967295

/-- The hash of a point mixes its coordinates, modulo `2 ^ 32`. -/
def hash : HashFn := fun tag value => do
  Call.note ("hash " ++ tag.display)
  return match value.point? with
    | some (x, y) => x.toUInt32 * 31 + y.toUInt32
    | none => noPointHash

/-- Two values are equal if their tags are equal and they hold the same point or none. -/
def equals : EqualsFn := fun tag₁ value₁ tag₂ value₂ => do
  Call.note ("equals " ++ tag₁.display ++ " " ++ tag₂.display)
  return tag₁ = tag₂ && value₁.point? = value₂.point?

/-- The capabilities of points. -/
def capabilities : Capabilities := { clone, free, hash, equals }

/-- The provider of points. -/
def provider : Provider := .table capabilities

end MachineTypes.Foreign.Point
