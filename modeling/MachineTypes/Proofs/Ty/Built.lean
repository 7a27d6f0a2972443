import MachineTypes.Proofs.Builder.Calls
import MachineTypes.Proofs.Descriptor.RoundTrip
import MachineTypes.Proofs.Ty.Construct
import MachineTypes.Ty.Construct

/-!
# `MachineTypes.Proofs.Ty.Built`: every type that can be made is well-formed

Each operation that makes types keeps well-formedness, so `Built.wellFormed` is an induction with
one case for each of them. A builder only gives away a tuple when every field was written, and it
was made with at least one field. So no builder tries to make a tuple without fields, whatever the
calls on it.

Conversely every well-formed type can be made (`built_iff_wellFormed`): a hypothesis that a type is
well-formed excludes nothing that the operations make.

The main result is `built_nodes_wellFormed`. It goes from the type to its nodes: being well-formed
is being well-formed at the root of every node (`wellFormed_iff_everywhere`), and the node at a
position is one of them. Its other two parts are about the builders alone and hold after any calls,
the ones that fail included.
-/

set_option autoImplicit false

namespace MachineTypes

/-- What calls write to a field comes from calls that are not refused. -/
theorem mem_writtenBy_iff {Call α : Type} {error? : Call → Option TypeError}
    {value? : Nat → Call → Option α} {calls : List Call} {index : Nat} {value : α} :
    value ∈ writtenBy error? value? calls index ↔
      ∃ call ∈ calls, error? call = none ∧ value? index call = some value := by
  simp [writtenBy, and_assoc]

/-! ### What builders give away -/

namespace TupleBuilder

variable {arity : Nat} {builder : TupleBuilder} {calls : List Call}

/-- A type that is written to a field was brought by a call for this field. -/
theorem mem_of_mem_typesWritten {index : Nat} {type : Ty}
    (mem : type ∈ typesWritten arity calls index) : ⟨index, type⟩ ∈ calls := by
  obtain ⟨call, called, -, type_eq⟩ := mem_writtenBy_iff.mp mem
  rw [Call.typeAt?] at type_eq
  split at type_eq
  · rename_i here
    cases type_eq
    subst here
    exact called
  · cases type_eq

/-- A finished tuple has fields, and each was brought by a call. -/
theorem fields_of_build {type : Ty} (isNew : new arity = .ok builder)
    (built : (builder.after calls).build = .ok type) :
    ∃ fields, type = .tuple fields ∧ fields ≠ [] ∧ ∀ field ∈ fields, ∃ index,
      ⟨index, field⟩ ∈ calls := by
  have positive := (new_eq_ok_iff.mp isNew).1
  have reflects := reflects_of_holdsLast (holdsLast_after (holdsLast_of_new isNew) calls)
  obtain ⟨fields, rfl, length, get⟩ := reflects.build_ok type built
  refine ⟨fields, rfl, List.length_pos_iff.mp (by omega), ?_⟩
  intro field mem
  obtain ⟨index, inRange, rfl⟩ := List.getElem_of_mem mem
  -- What the field holds at last was written to it, so it is in some call.
  have last := get index (by omega)
  rw [List.getElem?_eq_getElem inRange] at last
  exact ⟨index, mem_of_mem_typesWritten (List.mem_of_getLast? last.symm)⟩

end TupleBuilder

namespace NamedTupleBuilder

variable {arity : Nat} {builder : NamedTupleBuilder} {calls : List Call}

/-- A type that is written to a field was brought by a call for this field. Calls that set names
write no type. -/
theorem mem_of_mem_typesWritten {index : Nat} {type : Ty}
    (mem : type ∈ typesWritten arity calls index) : .setType index type ∈ calls := by
  obtain ⟨call, called, -, type_eq⟩ := mem_writtenBy_iff.mp mem
  cases call with
  | setType index' type' =>
    rw [Call.typeAt?] at type_eq
    split at type_eq
    · rename_i here
      cases type_eq
      subst here
      exact called
    · cases type_eq
  | setName => cases type_eq

/-- A name is only written if it is valid. -/
theorem valid_of_mem_namesWritten {index : Nat} {name : FieldName}
    (mem : name ∈ namesWritten arity calls index) : FieldName.Valid name.text := by
  obtain ⟨call, -, isAccepted, name_eq⟩ := mem_writtenBy_iff.mp mem
  cases call with
  | setType => cases name_eq
  | setName index' text =>
    have name_text : name.text = text := by
      rw [Call.nameAt?] at name_eq
      split at name_eq <;> cases name_eq
      rfl
    rw [name_text]
    -- A call with an invalid name is refused, wherever its index is.
    by_contra invalid
    simp only [Call.error?, if_neg invalid] at isAccepted
    split at isAccepted <;> cases isAccepted

/-- A finished named tuple has fields, each has a valid name, and its type was brought by a
call. -/
theorem fields_of_build {type : Ty} (isNew : new arity = .ok builder)
    (built : (builder.after calls).build = .ok type) :
    ∃ fields, type = .namedTuple fields ∧ fields ≠ [] ∧ ∀ field ∈ fields,
      FieldName.Valid field.name.text ∧ ∃ index, .setType index field.type ∈ calls := by
  have positive := (new_eq_ok_iff.mp isNew).1
  have holds := (HoldsLast.of_new isNew).after calls
  obtain ⟨fields, rfl, length, get⟩ := holds.of_build built
  refine ⟨fields, rfl, List.length_pos_iff.mp (by omega), ?_⟩
  intro field mem
  obtain ⟨index, inRange, rfl⟩ := List.getElem_of_mem mem
  obtain ⟨field, isField, lastName, lastType⟩ := get index (by omega)
  rw [List.getElem?_eq_getElem inRange] at isField
  cases isField
  refine ⟨valid_of_mem_namesWritten (List.mem_of_getLast? lastName), index, ?_⟩
  exact mem_of_mem_typesWritten (List.mem_of_getLast? lastType)

end NamedTupleBuilder

/-! ### Built types -/

namespace Ty

/-- A primitive kind gives a leaf. -/
theorem wellFormed_of_primitive {kind : Kind} {type : Ty}
    (isPrimitive : primitive kind = .ok type) : type.WellFormed := by
  cases kind <;> cases isPrimitive <;> exact trivial

/-- A built type is well-formed. -/
theorem Built.wellFormed {type : Ty} (built : type.Built) : type.WellFormed := by
  -- One case for each operation. The hypothesis is for the types that it is applied to, and a
  -- descriptor is not made of types, so its case is closed by what conversions accept.
  induction built with
  | primitive isPrimitive => exact wellFormed_of_primitive isPrimitive
  | foreign => exact trivial
  | foreignOfParts made =>
    obtain ⟨type, -, rfl⟩ := map_eq_ok_iff.mp made
    exact trivial
  | absent => exact trivial
  | map _ _ ihDomain ihCodomain => exact ⟨ihDomain, ihCodomain⟩
  | seq _ ih => exact ih
  | ofFields _ made ih =>
    obtain ⟨nonempty, rfl⟩ := ofFields_eq_ok_iff.mp made
    exact wellFormed_tuple_iff.mpr ⟨nonempty, ih⟩
  | ofNamedFields _ made ih =>
    obtain ⟨fields, nonempty, rfl, valid, rfl⟩ := ofNamedFields_eq_ok_iff.mp made
    rw [List.forall_mem_map] at ih
    refine wellFormed_namedTuple_iff.mpr ⟨nonempty, ?_⟩
    intro field mem
    exact ⟨valid field mem, ih field mem⟩
  | tupleBuilder isNew _ built ih =>
    obtain ⟨fields, rfl, nonempty, called⟩ := TupleBuilder.fields_of_build isNew built
    refine wellFormed_tuple_iff.mpr ⟨nonempty, ?_⟩
    intro field mem
    obtain ⟨index, isCall⟩ := called field mem
    exact ih ⟨index, field⟩ isCall
  | namedTupleBuilder isNew _ built ih =>
    obtain ⟨fields, rfl, nonempty, called⟩ := NamedTupleBuilder.fields_of_build isNew built
    refine wellFormed_namedTuple_iff.mpr ⟨nonempty, ?_⟩
    intro field mem
    obtain ⟨valid, index, isCall⟩ := called field mem
    exact ⟨valid, ih index field.type isCall⟩
  | convert converted => exact (Descriptor.eq_ofTy_of_convertAt converted).2.wellFormed
  | clone _ ih =>
    rw [clone_eq]
    exact ih

/-- The built types are the well-formed ones. -/
theorem built_iff_wellFormed {type : Ty} : type.Built ↔ type.WellFormed := by
  constructor
  · exact Built.wellFormed
  · intro wellFormed
    induction type with
    | any => exact .primitive (rfl : primitive .any = _)
    | bool => exact .primitive (rfl : primitive .bool = _)
    | event => exact .primitive (rfl : primitive .event = _)
    | machine => exact .primitive (rfl : primitive .machine = _)
    | int => exact .primitive (rfl : primitive .int = _)
    | null => exact .primitive (rfl : primitive .null = _)
    | foreign type => exact .foreign type
    | map domain codomain ihDomain ihCodomain =>
      exact .map (ihDomain wellFormed.1) (ihCodomain wellFormed.2)
    | seq inner ih => exact .seq (ih wellFormed)
    | tuple fields ih =>
      obtain ⟨nonempty, below⟩ := wellFormed_tuple_iff.mp wellFormed
      refine .ofFields ?_ (ofFields_eq nonempty)
      intro field mem
      exact ih field mem (below field mem)
    | namedTuple fields ih =>
      obtain ⟨nonempty, below⟩ := wellFormed_namedTuple_iff.mp wellFormed
      have valid : ∀ field ∈ fields, FieldName.Valid field.name.text :=
        fun field mem => (below field mem).1
      refine .ofNamedFields ?_ (ofNamedFields_eq_ok_iff.mpr ⟨fields, nonempty, rfl, valid, rfl⟩)
      rw [List.forall_mem_map]
      intro field mem
      exact ih field mem (below field mem).2

/-- The check of a descriptor accepts the description of every well-formed node. -/
theorem isValid_ofTy {type : Ty} (wellFormed : type.RootWellFormed) :
    (Descriptor.ofTy type).isValid := by
  -- The check of a descriptor asks for a field and for nothing of the names.
  cases type with
  | any | bool | event | machine | int | null | foreign | map | seq => rfl
  | tuple fields =>
    have positive : 0 < fields.length := List.length_pos_iff.mpr wellFormed
    simp [Descriptor.ofTy, Descriptor.isValid, positive]
  | namedTuple fields =>
    have positive : 0 < fields.length := List.length_pos_iff.mpr wellFormed.1
    simp [Descriptor.ofTy, Descriptor.isValid, positive]

/-- Every node of a built type has its fields and valid names, so `isValid` says of it what the
check of its description says. Whatever the calls on a builder, it never makes a tuple without
fields. -/
theorem built_nodes_wellFormed :
    (∀ type : Ty, type.Built → ∀ position node, type.at? position = some node →
      node.RootWellFormed ∧ node.isValid = (Descriptor.ofTy node).isValid) ∧
    (∀ arity builder calls fields, TupleBuilder.new arity = .ok builder →
      (builder.after calls).build = .ok (.tuple fields) → fields ≠ []) ∧
    (∀ arity builder calls fields, NamedTupleBuilder.new arity = .ok builder →
      (builder.after calls).build = .ok (.namedTuple fields) → fields ≠ []) := by
  refine ⟨?_, ?_, ?_⟩
  · intro type built position node found
    have everywhere := wellFormed_iff_everywhere.mp built.wellFormed
    have root := everywhere_iff_at.mp everywhere position node found
    exact ⟨root, (isValid_ofTy root).symm⟩
  · intro arity builder calls fields isNew built
    obtain ⟨_, same, nonempty, -⟩ := TupleBuilder.fields_of_build isNew built
    cases same
    exact nonempty
  · intro arity builder calls fields isNew built
    obtain ⟨_, same, nonempty, -⟩ := NamedTupleBuilder.fields_of_build isNew built
    cases same
    exact nonempty

/-- Two calls fail before the only field has its name and its type. The tuple that comes out is a
well-formed node of a sequence. -/
theorem built_nodes_wellFormed_seq :
    let calls : List NamedTupleBuilder.Call :=
      [.setName 0 "", .setType 1 .int, .setName 0 "x", .setType 0 .bool]
    let made : Ty := .namedTuple [⟨⟨"x"⟩, .bool⟩]
    ∃ builder, NamedTupleBuilder.new 1 = .ok builder ∧ (builder.after calls).build = .ok made ∧
      (Ty.seq made).Built ∧ made.RootWellFormed ∧
        made.isValid = (Descriptor.ofTy made).isValid := by
  intro calls made
  have typesBuilt : ∀ index type, .setType index type ∈ calls → Built type := by
    intro index type isCall
    have which : type = .int ∨ type = .bool := by
      simp only [calls, List.mem_cons, List.not_mem_nil, or_false, reduceCtorEq, false_or,
        NamedTupleBuilder.Call.setType.injEq] at isCall
      exact isCall.imp And.right And.right
    rcases which with rfl | rfl
    · exact .primitive (rfl : primitive .int = _)
    · exact .primitive (rfl : primitive .bool = _)
  have isNew : NamedTupleBuilder.new 1 = .ok ⟨.unset 1, .unset 1, rfl⟩ := rfl
  have done : (NamedTupleBuilder.after ⟨.unset 1, .unset 1, rfl⟩ calls).build = .ok made := rfl
  have built : (Ty.seq made).Built := .seq (.namedTupleBuilder isNew typesBuilt done)
  exact ⟨_, isNew, done, built, built_nodes_wellFormed.1 _ built [0] made rfl⟩

end Ty

end MachineTypes
