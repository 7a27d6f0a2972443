import MachineTypes.Descriptor.Basic
import MachineTypes.Descriptor.Expected
import MachineTypes.Proofs.Descriptor.Success
import MachineTypes.Proofs.Ty.Nodes

/-!
# `MachineTypes.Proofs.Descriptor.RoundTrip`: accepted descriptors are descriptions of types

The conversion and `ofTy` are inverse to each other between the descriptors that are accepted and
the types that are well-formed, have tables as providers and are not too deep
(`convert_eq_ok_iff`). `Acceptable` says the same of the part of a type that starts at some level.

* `convertAt_ofTy`: the description of an acceptable type is converted back to the type.
* `eq_ofTy_of_convertAt`: what is converted to a type is the description of it, and the type is
  acceptable. So nothing of a descriptor is ignored or repaired.

The three conditions on the type are all needed. A type with an empty tuple or an invalid name has a
description, but the description is refused. A foreign type whose provider is no table can be
described by the functions of the provider, but what comes back is a table. And a type that is too
deep has a description that is too deep.
-/

set_option autoImplicit false

namespace MachineTypes

/-- The provider is a table of four functions. -/
def Foreign.Provider.IsTable : Foreign.Provider → Prop
  | table _ => True
  | direct _ => False

namespace Ty

/-- If the root is a foreign leaf, its provider is a table. -/
def RootHasTable : Ty → Prop
  | foreign type => type.provider.IsTable
  | _ => True

/-- The provider of every foreign leaf is a table. -/
def ForeignTables (type : Ty) : Prop := type.Everywhere RootHasTable

end Ty

namespace Descriptor

/-- The type can come from a node at the level: it is well-formed, its foreign types are
provided by tables, and its deepest node is not too deep. -/
structure Acceptable (level : Nat) (type : Ty) : Prop where
  wellFormed : type.WellFormed
  tables : type.ForeignTables
  shallow : level + type.height ≤ maxLevel

/-- A type is acceptable exactly when its root is, and its children are one level deeper. -/
theorem acceptable_iff {level : Nat} {type : Ty} :
    Acceptable level type ↔
      level ≤ maxLevel ∧ type.RootWellFormed ∧ type.RootHasTable ∧
        ∀ child ∈ type.children, Acceptable (level + 1) child := by
  constructor
  · intro acceptable
    obtain ⟨root, below⟩ := Ty.wellFormed_iff.mp acceptable.wellFormed
    obtain ⟨rootTable, tablesBelow⟩ := Ty.everywhere_iff.mp acceptable.tables
    obtain ⟨here, shallowBelow⟩ := (Ty.add_height_le_iff root).mp acceptable.shallow
    refine ⟨here, root, rootTable, ?_⟩
    intro child mem
    exact ⟨below child mem, tablesBelow child mem, shallowBelow child mem⟩
  · intro parts
    obtain ⟨here, root, rootTable, below⟩ := parts
    have wellFormed : type.WellFormed :=
      Ty.wellFormed_iff.mpr ⟨root, fun child mem => (below child mem).wellFormed⟩
    have tables : type.ForeignTables :=
      Ty.everywhere_iff.mpr ⟨rootTable, fun child mem => (below child mem).tables⟩
    have shallow : level + type.height ≤ maxLevel :=
      (Ty.add_height_le_iff root).mpr ⟨here, fun child mem => (below child mem).shallow⟩
    exact ⟨wellFormed, tables, shallow⟩

/-! ### Slots of descriptions -/

/-- The slots that describe types are filled with their descriptions, one by one. -/
theorem slotsOf_eq_map (types : List Ty) :
    slotsOf types = types.map fun type => some (ofTy type) := by
  induction types with
  | nil => rfl
  | cons type rest ih => rw [slotsOf, ih, List.map_cons]

/-- For the slots of fields only the types count. The names have slots of their own. -/
theorem fieldSlotsOf_eq_slotsOf (fields : List (Field Ty)) :
    fieldSlotsOf fields = slotsOf (fields.map (·.type)) := by
  induction fields with
  | nil => rfl
  | cons field rest ih => rw [fieldSlotsOf, ih, List.map_cons, slotsOf]

/-- The slots that describe types are converted back to the types if each description is. -/
theorem convertSlots_slotsOf {level : Nat} {types : List Ty}
    (each : ∀ type ∈ types, (ofTy type).convertAt level = .ok type) (index : Nat) :
    convertSlots level index (slotsOf types) = .ok types := by
  rw [convertSlots_eq_ok_iff, slotsOf_eq_map, List.forall₂_map_left_iff, List.forall₂_same]
  intro type mem
  exact ⟨ofTy type, rfl, each type mem⟩

/-- Slots that are converted to types are descriptions of them if each part is. -/
theorem eq_slotsOf_of_convertSlots {level index : Nat} {slots : List (Option Descriptor)}
    {types : List Ty} (converted : convertSlots level index slots = .ok types)
    (each : ∀ part, some part ∈ slots → ∀ type, part.convertAt level = .ok type →
      part = ofTy type ∧ Acceptable level type) :
    slots = slotsOf types ∧ ∀ type ∈ types, Acceptable level type := by
  rw [convertSlots_eq_ok_iff] at converted
  rw [slotsOf_eq_map]
  -- Along the pairs of slots and types. Each slot is filled, or it would not have been converted.
  induction converted with
  | nil => simp
  | @cons slot type slots types head _ ih =>
    obtain ⟨part, rfl, converted⟩ := head
    obtain ⟨rfl, acceptable⟩ := each part (by simp) type converted
    obtain ⟨same, others⟩ := ih fun part mem => each part (List.mem_cons_of_mem _ mem)
    refine ⟨?_, List.forall_mem_cons.mpr ⟨acceptable, others⟩⟩
    rw [List.map_cons, same]

/-! ### From types to descriptors and back -/

/-- The description of an acceptable type is converted to the type. -/
theorem convertAt_ofTy {level : Nat} {type : Ty} (acceptable : Acceptable level type) :
    (ofTy type).convertAt level = .ok type := by
  -- For all levels: the children of an acceptable type are acceptable one level deeper.
  induction type generalizing level with
  | any | bool | event | machine | int | null =>
    have shallow := (acceptable_iff.mp acceptable).1
    rw [ofTy, convertAt, if_neg (by omega)]
  | foreign type =>
    obtain ⟨shallow, -, table, -⟩ := acceptable_iff.mp acceptable
    obtain ⟨tag, provider⟩ := type
    cases provider with
    | table functions => exact (convertAt_foreign_eq_ok_iff shallow).mpr ⟨tag, functions, rfl, rfl⟩
    | direct =>
      -- The description would hold the functions of the provider, and a table would come back.
      exact table.elim
  | map domain codomain ihDomain ihCodomain =>
    obtain ⟨shallow, -, -, below⟩ := acceptable_iff.mp acceptable
    have key := ihDomain (below domain (by simp [Ty.children]))
    have value := ihCodomain (below codomain (by simp [Ty.children]))
    exact (convertAt_map_eq_ok_iff shallow).mpr
      ⟨ofTy domain, ofTy codomain, domain, codomain, rfl, rfl, key, value, rfl⟩
  | seq inner ih =>
    obtain ⟨shallow, -, -, below⟩ := acceptable_iff.mp acceptable
    have element := ih (below inner (by simp [Ty.children]))
    exact (convertAt_seq_eq_ok_iff shallow).mpr ⟨ofTy inner, inner, rfl, element, rfl⟩
  | tuple fields ih =>
    obtain ⟨shallow, nonempty, -, below⟩ := acceptable_iff.mp acceptable
    have types : convertSlots (level + 1) 0 (slotsOf fields) = .ok fields := by
      refine convertSlots_slotsOf ?_ 0
      intro type mem
      exact ih type mem (below type mem)
    exact (convertAt_tuple_eq_ok_iff shallow).mpr
      ⟨slotsOf fields, fields, rfl, types, nonempty, rfl, rfl⟩
  | namedTuple fields ih =>
    obtain ⟨shallow, ⟨nonempty, valid⟩, -, below⟩ := acceptable_iff.mp acceptable
    have types : convertSlots (level + 1) 0 (fieldSlotsOf fields) = .ok (fields.map (·.type)) := by
      rw [fieldSlotsOf_eq_slotsOf]
      refine convertSlots_slotsOf (List.forall_mem_map.mpr fun field mem => ?_) 0
      exact ih field mem (below field.type (List.mem_map_of_mem mem))
    exact (convertAt_namedTuple_eq_ok_iff shallow).mpr
      ⟨fieldSlotsOf fields, fields, rfl, valid, rfl, types, nonempty, rfl, rfl⟩

/-- What is converted to a type is the description of the type, and the type is acceptable. -/
theorem eq_ofTy_of_convertAt {level : Nat} {descriptor : Descriptor} {type : Ty}
    (converted : descriptor.convertAt level = .ok type) :
    descriptor = ofTy type ∧ Acceptable level type := by
  -- By induction on the descriptor, for all levels. A node that is converted has all its parts,
  -- so the hypotheses for the parts that are present cover every part.
  induction descriptor generalizing level type with
  | any | bool | event | machine | int | null =>
    have shallow := le_maxLevel_of_convertAt converted
    rw [convertAt, if_neg (by omega)] at converted
    cases converted
    exact ⟨rfl, acceptable_iff.mpr ⟨shallow, trivial, trivial, by simp [Ty.children]⟩⟩
  | foreign record =>
    have shallow := le_maxLevel_of_convertAt converted
    obtain ⟨tag, functions, rfl, rfl⟩ := (convertAt_foreign_eq_ok_iff shallow).mp converted
    exact ⟨rfl, acceptable_iff.mpr ⟨shallow, trivial, trivial, by simp [Ty.children]⟩⟩
  | map domain codomain ihDomain ihCodomain =>
    have shallow := le_maxLevel_of_convertAt converted
    obtain ⟨left, right, key, value, rfl, rfl, keyConverted, valueConverted, rfl⟩ :=
      (convertAt_map_eq_ok_iff shallow).mp converted
    obtain ⟨rfl, keyAcceptable⟩ := ihDomain left rfl keyConverted
    obtain ⟨rfl, valueAcceptable⟩ := ihCodomain right rfl valueConverted
    exact ⟨rfl, acceptable_iff.mpr ⟨shallow, trivial, trivial,
      List.forall_mem_cons.mpr ⟨keyAcceptable, List.forall_mem_singleton.mpr valueAcceptable⟩⟩⟩
  | seq inner ih =>
    have shallow := le_maxLevel_of_convertAt converted
    obtain ⟨part, element, rfl, elementConverted, rfl⟩ :=
      (convertAt_seq_eq_ok_iff shallow).mp converted
    obtain ⟨rfl, acceptable⟩ := ih part rfl elementConverted
    exact ⟨rfl, acceptable_iff.mpr ⟨shallow, trivial, trivial,
      List.forall_mem_singleton.mpr acceptable⟩⟩
  | tuple arity fields ih =>
    have shallow := le_maxLevel_of_convertAt converted
    obtain ⟨slots, types, rfl, typesConverted, nonempty, rfl, rfl⟩ :=
      (convertAt_tuple_eq_ok_iff shallow).mp converted
    obtain ⟨rfl, acceptable⟩ := eq_slotsOf_of_convertSlots typesConverted
      fun part mem type partConverted => ih slots rfl part mem partConverted
    exact ⟨rfl, acceptable_iff.mpr ⟨shallow, nonempty, trivial, acceptable⟩⟩
  | namedTuple arity names fields ih =>
    have shallow := le_maxLevel_of_convertAt converted
    obtain ⟨slots, members, rfl, valid, rfl, typesConverted, nonempty, rfl, rfl⟩ :=
      (convertAt_namedTuple_eq_ok_iff shallow).mp converted
    obtain ⟨rfl, acceptable⟩ := eq_slotsOf_of_convertSlots typesConverted
      fun part mem type partConverted => ih slots rfl part mem partConverted
    refine ⟨?_, acceptable_iff.mpr ⟨shallow, ⟨nonempty, valid⟩, trivial, acceptable⟩⟩
    rw [ofTy, fieldSlotsOf_eq_slotsOf]

/-- A node at a level is converted to a type exactly when it is the description of the type and
the type is acceptable there. -/
theorem convertAt_eq_ok_iff {level : Nat} {descriptor : Descriptor} {type : Ty} :
    descriptor.convertAt level = .ok type ↔ descriptor = ofTy type ∧ Acceptable level type := by
  constructor
  · exact eq_ofTy_of_convertAt
  · intro described
    rw [described.1]
    exact convertAt_ofTy described.2

/-- A descriptor is converted to a type exactly when it is the description of the type, and the
type is well-formed, has tables for all its foreign leaves, and has no node below level 256. -/
theorem convert_eq_ok_iff (descriptor : Descriptor) (type : Ty) :
    descriptor.convert = .ok type ↔
      descriptor = ofTy type ∧ type.WellFormed ∧ type.ForeignTables ∧ type.height ≤ 256 := by
  rw [convert, convertAt_eq_ok_iff]
  -- The root is at level 0, so the deepest level is the height.
  have level : 0 + type.height ≤ maxLevel ↔ type.height ≤ 256 := by rw [Nat.zero_add, maxLevel]
  constructor
  · intro accepted
    obtain ⟨same, wellFormed, tables, shallow⟩ := accepted
    exact ⟨same, wellFormed, tables, level.mp shallow⟩
  · intro described
    obtain ⟨same, wellFormed, tables, shallow⟩ := described
    exact ⟨same, wellFormed, tables, level.mpr shallow⟩

end Descriptor

end MachineTypes
