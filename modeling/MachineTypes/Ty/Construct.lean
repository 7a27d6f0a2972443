import MachineTypes.Builder.Basic
import MachineTypes.Builder.Calls
import MachineTypes.Descriptor.Convert
import MachineTypes.Ty.MapForeign

/-!
# `MachineTypes.Ty.Construct`: the ways to make a type

Tuples can be made in one step from the list of their fields. Together with the constructors, the
builders, the conversion and copying these are all the ways to make a type.
-/

set_option autoImplicit false

namespace MachineTypes

/-! ## Tuples from the list of their fields

`Ty.ofFields` and `Ty.ofNamedFields` make a tuple in one step. They run the builders, and say in
case of failure which kind of type could not be made.
-/

/-- A type of some kind could not be made from its fields. -/
structure ConstructionFailure where
  kind : Kind
  cause : TypeError
  deriving DecidableEq, Repr

namespace ConstructionFailure

/-- The wording of the failure. -/
def message (failure : ConstructionFailure) : String :=
  "cannot construct " ++ failure.kind.name ++ " type: " ++ failure.cause.message

instance : ToString ConstructionFailure := ⟨message⟩

end ConstructionFailure

namespace Ty

/-- The tuple with the given fields. There must be at least one. -/
def ofFields (fields : List Ty) : Except ConstructionFailure Ty :=
  Except.mapError (⟨.tuple, ·⟩) do
    let builder ← TupleBuilder.new fields.length
    let filled ← builder.setTypesFrom 0 fields
    filled.build

/-- The named tuple with the given fields. There must be at least one, and all names must be
valid. -/
def ofNamedFields (fields : List (String × Ty)) : Except ConstructionFailure Ty :=
  Except.mapError (⟨.namedTuple, ·⟩) do
    let builder ← NamedTupleBuilder.new fields.length
    let filled ← builder.setFieldsFrom 0 fields
    filled.build

end Ty

end MachineTypes

namespace MachineTypes.Ty

/-! ## The types that can be made

A type is built when it comes out of finitely many of the operations that make types: the
constructors of leaves and containers, the one-step constructors of tuples, builders under any
calls, the conversion of a descriptor, and copying.
-/

/-- The types that the operations make. A builder takes built types, whether or not the call that
brings one succeeds. -/
inductive Built : Ty → Prop where
  | primitive {kind : Kind} {type : Ty} : Ty.primitive kind = .ok type → Built type
  | foreign (type : ForeignType) : Built (.foreign type)
  | foreignOfParts {tag : Tag} {parts : Foreign.Parts} {type : Ty} :
    Ty.foreignOfParts tag parts = .ok type → Built type
  | absent : Built .absent
  | map {domain codomain : Ty} : Built domain → Built codomain → Built (.map domain codomain)
  | seq {inner : Ty} : Built inner → Built (.seq inner)
  | ofFields {fields : List Ty} {type : Ty} :
    (∀ field ∈ fields, Built field) → Ty.ofFields fields = .ok type → Built type
  | ofNamedFields {fields : List (String × Ty)} {type : Ty} :
    (∀ field ∈ fields, Built field.2) → Ty.ofNamedFields fields = .ok type → Built type
  | tupleBuilder {arity : Nat} {builder : TupleBuilder} {calls : List TupleBuilder.Call}
    {type : Ty} :
    TupleBuilder.new arity = .ok builder → (∀ call ∈ calls, Built call.type) →
      (builder.after calls).build = .ok type → Built type
  | namedTupleBuilder {arity : Nat} {builder : NamedTupleBuilder}
    {calls : List NamedTupleBuilder.Call} {type : Ty} :
    NamedTupleBuilder.new arity = .ok builder →
      (∀ index type, .setType index type ∈ calls → Built type) →
      (builder.after calls).build = .ok type → Built type
  | convert {descriptor : Descriptor} {type : Ty} : descriptor.convert = .ok type → Built type
  | clone {type : Ty} : Built type → Built type.clone

end MachineTypes.Ty
