import MachineTypes.Error
import MachineTypes.Tag

/-!
# `MachineTypes.Foreign.Basic`: foreign types and their providers

The type system knows a foreign type by its tag and by nothing else. What is done with its values
(copying, releasing, hashing, comparing) is left to a provider, which it only carries along.

The sections follow the way from a value to a type: what a foreign value is, what a call of a
provider can do, the four functions of a provider, the type itself, and last the one foreign type
that is always there, the absent one.
-/

set_option autoImplicit false

namespace MachineTypes.Foreign

/-! ## Values

A foreign value is either absent or holds a payload. The type system never looks inside; only
the provider of the type does.
-/

/-- What a foreign value can hold. -/
inductive Payload where
  | int (value : Int64)
  | text (value : String)
  | point (x y : Int32)
  deriving DecidableEq, Repr

/-- A foreign value. -/
structure Value where
  /-- The payload, or nothing for the absent value. -/
  payload : Option Payload
  deriving DecidableEq, Repr

namespace Value

/-- The value that stands for no value. -/
def absent : Value := ⟨none⟩

/-- The value that holds a payload. -/
def of (payload : Payload) : Value := ⟨some payload⟩

/-- Whether this is the absent value. -/
def isAbsent (value : Value) : Bool := value.payload.isNone

/-- The coordinates of the value, if it holds a point. -/
def point? (value : Value) : Option (Int32 × Int32) :=
  match value.payload with
  | some (.point x y) => some (x, y)
  | _ => none

/-- What an inspection shows: whether a payload is present, and nothing of the payload. -/
def inspect (value : Value) : String :=
  if value.isAbsent then "ForeignValue(absent)" else "ForeignValue(..)"

end Value

/-! ## Calls

A provider may leave notes about the calls it gets, and it stops a call that breaks its
contract. `Call` has both effects. Notes left before a breach are kept.
-/

/-- The ways to call the absent type's provider wrongly. -/
inductive Breach where
  /-- The tag belongs to another type. -/
  | notAbsentType (tag : Tag)
  /-- The value holds a payload. -/
  | notAbsentValue
  /-- Neither operand of a comparison has the absent tag. -/
  | noAbsentOperand (tag₁ tag₂ : Tag)
  /-- An operand has the absent tag and holds a payload. -/
  | absentOperandHasValue
  deriving DecidableEq, Repr

namespace Breach

/-- The wording of the breach. -/
def message : Breach → String
  | notAbsentType tag => "expected the absent type, got tag " ++ tag.display
  | notAbsentValue => "expected the absent value"
  | noAbsentOperand tag₁ tag₂ =>
    "absent equality called without an absent operand (" ++ tag₁.display ++ ", " ++ tag₂.display
      ++ ")"
  | absentOperandHasValue => "absent-tagged operand carries a value"

instance : ToString Breach := ⟨message⟩

end Breach

/-- A call of a provider. It can leave notes and can stop with a breach. -/
abbrev Call := ExceptT Breach (StateM (Array String))

namespace Call

/-- Leaves a note. -/
def note (line : String) : Call Unit := modify (·.push line)

/-- Stops with `breach` unless the condition holds. -/
def require (condition : Bool) (breach : Breach) : Call Unit :=
  unless condition do throw breach

/-- Makes the call with no notes so far. The answer comes with the notes it left. -/
def perform {α : Type} (call : Call α) : Except Breach α × Array String :=
  StateT.run (ExceptT.run call) #[]

end Call

/-! ## The functions of a provider

`Capabilities` has one function for each slot. `Parts` is the same with functions possibly
missing; `Parts.assemble` turns it into capabilities, or reports the first missing slot.
-/

/-- Makes an independent copy of a value. -/
abbrev CloneFn := Tag → Value → Call Value

/-- Releases a value. -/
abbrev FreeFn := Tag → Value → Call Unit

/-- Computes the hash of a value. -/
abbrev HashFn := Tag → Value → Call UInt32

/-- Compares two values, each with the tag of its type. -/
abbrev EqualsFn := Tag → Value → Tag → Value → Call Bool

/-- The four functions of a provider. -/
structure Capabilities where
  clone : CloneFn
  free : FreeFn
  hash : HashFn
  equals : EqualsFn

/-- The functions of a provider, of which some may be missing. -/
structure Parts where
  clone : Option CloneFn
  free : Option FreeFn
  hash : Option HashFn
  equals : Option EqualsFn

/-- All the functions of a provider, as parts. -/
def Capabilities.parts (capabilities : Capabilities) : Parts where
  clone := some capabilities.clone
  free := some capabilities.free
  hash := some capabilities.hash
  equals := some capabilities.equals

namespace Parts

/-- Whether the function of a slot is present. -/
def has (parts : Parts) : Slot → Bool
  | .clone => parts.clone.isSome
  | .free => parts.free.isSome
  | .hash => parts.hash.isSome
  | .equals => parts.equals.isSome

/-- The first slot without a function. -/
def firstMissing? (parts : Parts) : Option Slot :=
  Slot.all.find? fun slot => !parts.has slot

/-- Keeps only the functions of the slots that satisfy the test. -/
def filter (parts : Parts) (keep : Slot → Bool) : Parts where
  clone := parts.clone.filter fun _ => keep .clone
  free := parts.free.filter fun _ => keep .free
  hash := parts.hash.filter fun _ => keep .hash
  equals := parts.equals.filter fun _ => keep .equals

/-- The part in a slot, or an error that names the tag and the slot. -/
def require {α : Type} (tag : Tag) (slot : Slot) : Option α → Except TypeError α
  | some function => .ok function
  | none => .error (.missingCapability tag slot)

/-- The capabilities made of the parts. All four must be present; of several missing ones the
first in slot order is reported. The tag only serves the report. -/
def assemble (tag : Tag) (parts : Parts) : Except TypeError Capabilities := do
  let clone ← require tag .clone parts.clone
  let free ← require tag .free parts.free
  let hash ← require tag .hash parts.hash
  let equals ← require tag .equals parts.equals
  return { clone, free, hash, equals }

/-- Complete parts assemble to the capabilities they came from. -/
theorem assemble_parts (tag : Tag) (capabilities : Capabilities) :
    assemble tag capabilities.parts = .ok capabilities := rfl

end Parts

end MachineTypes.Foreign

namespace MachineTypes

/-! ## Foreign types

A foreign type is a tag with a provider. The tag alone is its identity: two foreign types with
one tag are equal, whoever provides them. The type system carries the provider so that whoever
holds the values can reach it.
-/

namespace Foreign

/-- How the capabilities of a foreign type were supplied. -/
inductive Provider where
  /-- As a table of four plain functions. -/
  | table (functions : Capabilities)
  /-- As one object that has all four. -/
  | direct (object : Capabilities)

/-- What the provider can do. -/
def Provider.capabilities : Provider → Capabilities
  | table functions => functions
  | direct object => object

end Foreign

/-- A foreign type: a tag, and the provider of its values. -/
structure ForeignType where
  tag : Tag
  provider : Foreign.Provider

namespace ForeignType

open Foreign (Call Value)

/-- Tags identify foreign types. Providers are not compared. -/
instance : BEq ForeignType := ⟨fun a b => a.tag == b.tag⟩

/-- The type with this tag, supplied as a table with possibly missing functions. -/
def ofParts (tag : Tag) (parts : Foreign.Parts) : Except TypeError ForeignType := do
  return ⟨tag, .table (← parts.assemble tag)⟩

/-- Whether the type has the absent tag. -/
def isAbsent (type : ForeignType) : Bool := type.tag.isAbsent

/-- A copy of a value of this type, made by the provider. -/
def cloneValue (type : ForeignType) (value : Value) : Call Value :=
  type.provider.capabilities.clone type.tag value

/-- Has the provider release a value of this type. -/
def freeValue (type : ForeignType) (value : Value) : Call Unit :=
  type.provider.capabilities.free type.tag value

/-- The provider's hash of a value of this type. -/
def hashValue (type : ForeignType) (value : Value) : Call UInt32 :=
  type.provider.capabilities.hash type.tag value

/-- Has the provider compare a value of this type with a value of a type with another tag. -/
def valuesEqual (type : ForeignType) (value : Value) (otherTag : Tag) (other : Value) :
    Call Bool :=
  type.provider.capabilities.equals type.tag value otherTag other

/-- What an inspection shows: the tag as four decimal words. -/
def inspect (type : ForeignType) : String :=
  "ForeignType \x7b tag: TypeTag \x7b words: ["
    ++ ", ".intercalate (type.tag.words.map fun word => toString word.toNat)
    ++ "] \x7d \x7d"

end ForeignType

/-! ## The absent type

The absent type has the all-zero tag, and the absent value is its only value. It stands where no
foreign value is present. Its provider refuses other tags and other values.
-/

namespace Foreign.Absent

/-- Refuses a tag or a value that is not the absent one, the tag first. -/
def expectAbsent (tag : Tag) (value : Value) : Call Unit := do
  Call.require tag.isAbsent (.notAbsentType tag)
  Call.require value.isAbsent .notAbsentValue

/-- The capabilities of the absent type. A comparison needs an operand with the absent tag, and
says whether both operands have it. -/
def capabilities : Capabilities where
  clone tag value := do
    expectAbsent tag value
    return .absent
  free := expectAbsent
  hash tag value := do
    expectAbsent tag value
    return 0
  equals tag₁ value₁ tag₂ value₂ := do
    -- The value of an operand with another tag is not looked at.
    Call.require (tag₁.isAbsent || tag₂.isAbsent) (.noAbsentOperand tag₁ tag₂)
    Call.require (!tag₁.isAbsent || value₁.isAbsent) .absentOperandHasValue
    Call.require (!tag₂.isAbsent || value₂.isAbsent) .absentOperandHasValue
    return tag₁.isAbsent && tag₂.isAbsent

/-- The provider of the absent type. -/
def provider : Provider := .direct capabilities

end Foreign.Absent

/-- The absent type. -/
def ForeignType.absent : ForeignType := ⟨.absent, Foreign.Absent.provider⟩

end MachineTypes
