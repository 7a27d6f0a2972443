import MachineTypes.Ty.Basic

/-!
# `MachineTypes.Ty.MapForeign`: types with their foreign leaves replaced

`mapForeign` builds the tree of a type again, with another leaf for every foreign leaf. A copy of a
type is one such tree: it has nodes of its own, and its foreign leaves share their providers with
the leaves they are copies of. `clone_eq` says that nothing else is different.
-/

set_option autoImplicit false

namespace MachineTypes

/-- The field with its type replaced. -/
def Field.map {α β : Type} (f : α → β) (field : Field α) : Field β :=
  ⟨field.name, f field.type⟩

namespace Ty

mutual

/-- The type with every foreign leaf replaced. -/
def mapForeign (f : ForeignType → ForeignType) : Ty → Ty
  | foreign type => foreign (f type)
  | map domain codomain => map (domain.mapForeign f) (codomain.mapForeign f)
  | seq inner => seq (inner.mapForeign f)
  | tuple fields => tuple (mapForeignAll f fields)
  | namedTuple fields => namedTuple (mapForeignFields f fields)
  | any => any
  | bool => bool
  | event => event
  | machine => machine
  | int => int
  | null => null

/-- The types of a list with every foreign leaf replaced. -/
def mapForeignAll (f : ForeignType → ForeignType) : List Ty → List Ty
  | [] => []
  | type :: rest => type.mapForeign f :: mapForeignAll f rest

/-- The fields of a list with every foreign leaf replaced. -/
def mapForeignFields (f : ForeignType → ForeignType) : List (Field Ty) → List (Field Ty)
  | [] => []
  | ⟨name, type⟩ :: rest => ⟨name, type.mapForeign f⟩ :: mapForeignFields f rest

end

/-- The types of a list are replaced each for itself. -/
theorem mapForeignAll_eq_map (f : ForeignType → ForeignType) (types : List Ty) :
    mapForeignAll f types = types.map (mapForeign f) := by
  induction types with
  | nil => rfl
  | cons type rest ih => rw [mapForeignAll, ih, List.map_cons]

/-- The fields of a list are replaced each for itself. -/
theorem mapForeignFields_eq_map (f : ForeignType → ForeignType) (fields : List (Field Ty)) :
    mapForeignFields f fields = fields.map (Field.map (mapForeign f)) := by
  induction fields with
  | nil => rfl
  | cons field rest ih => rw [mapForeignFields, ih, List.map_cons, Field.map]

/-- The children of a type with replaced leaves are its children with replaced leaves. -/
@[simp] theorem children_mapForeign (f : ForeignType → ForeignType) (type : Ty) :
    (type.mapForeign f).children = type.children.map (mapForeign f) := by
  cases type with
  | tuple fields => exact mapForeignAll_eq_map f fields
  | namedTuple fields =>
    show (mapForeignFields f fields).map (·.type) = (fields.map (·.type)).map (mapForeign f)
    rw [mapForeignFields_eq_map, List.map_map, List.map_map]
    rfl
  | _ => rfl

/-- Replacing every foreign leaf by itself gives the same type. -/
theorem mapForeign_of_fixed {f : ForeignType → ForeignType} (fixed : ∀ type, f type = type)
    (type : Ty) : type.mapForeign f = type := by
  induction type with
  | any | bool | event | machine | int | null => rfl
  | foreign type => rw [mapForeign, fixed]
  | map domain codomain ihDomain ihCodomain => rw [mapForeign, ihDomain, ihCodomain]
  | seq inner ih => rw [mapForeign, ih]
  | tuple fields ih => rw [mapForeign, mapForeignAll_eq_map, List.map_congr_left ih, List.map_id']
  | namedTuple fields ih =>
    have each : ∀ field ∈ fields, field.map (mapForeign f) = field := by
      intro field mem
      rw [Field.map, ih field mem]
    rw [mapForeign, mapForeignFields_eq_map, List.map_congr_left each, List.map_id']

end Ty

/-! ### Copies -/

/-- A copy of a foreign type has its tag and shares its provider. -/
def ForeignType.clone (type : ForeignType) : ForeignType := ⟨type.tag, type.provider⟩

/-- A copy of the type, node for node. -/
def Ty.clone (type : Ty) : Ty := type.mapForeign ForeignType.clone

/-- A copy is the same tree with the same leaves. -/
theorem Ty.clone_eq (type : Ty) : type.clone = type :=
  mapForeign_of_fixed (fun _ => rfl) type

end MachineTypes
