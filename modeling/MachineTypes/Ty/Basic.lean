import MachineTypes.Error
import MachineTypes.Foreign.Basic

/-!
# `MachineTypes.Ty.Basic`: types

The types of a state machine language: primitive types, foreign types, maps, sequences, tuples and
named tuples. The module has the names of fields, the trees of types with their parts, and induction
over them.
-/

set_option autoImplicit false

namespace MachineTypes

/-! ## Field names

A field name is a text of 1 to 255 bytes in UTF-8. `ofString` is the checked way to make one,
and `Valid` says what it checks. Names are ordered by their bytes, which is the order by code
points.
-/

/-- The name of a field. -/
structure FieldName where
  text : String
  deriving DecidableEq, Repr

namespace FieldName

/-- A field name has fewer bytes than this. -/
def maxLength : Nat := 256

/-- The text can name a field: it is not empty, and it is shorter than `maxLength` bytes. -/
def Valid (text : String) : Prop :=
  0 < text.utf8ByteSize ∧ text.utf8ByteSize < maxLength

instance (text : String) : Decidable (Valid text) :=
  inferInstanceAs (Decidable (_ ∧ _))

/-- The name with the given text, if the text can name a field. -/
def ofString (text : String) : Except TypeError FieldName :=
  if Valid text then .ok ⟨text⟩ else .error (.invalidFieldName text)

/-- The length of the name in bytes. -/
def byteLength (name : FieldName) : Nat := name.text.utf8ByteSize

instance : ToString FieldName := ⟨text⟩

instance : Ord FieldName := ⟨fun a b => compare a.text b.text⟩

/-- Names with one text are one name. -/
theorem text_injective : Function.Injective text := by
  intro name name' same
  cases name
  cases name'
  exact congrArg mk same

/-- Making a name succeeds exactly on valid texts, and keeps the text. -/
theorem ofString_eq_ok_iff {text : String} {name : FieldName} :
    ofString text = .ok name ↔ Valid text ∧ name = ⟨text⟩ := by
  unfold ofString
  split <;> simp_all [eq_comm]

end FieldName

/-! ## Types

A type is a tree that owns its parts. Leaves are the primitive types and the foreign types.
Inner nodes are maps, sequences, tuples and named tuples. The constructors do not check
anything: `TupleBuilder` and `NamedTupleBuilder` are the checked ways to make a tuple, and
`Ty.WellFormed` says what they ensure.
-/

/-- A named field of a tuple. -/
structure Field (α : Type) where
  name : FieldName
  type : α

/-- A type. -/
inductive Ty where
  | any
  | bool
  | event
  | machine
  | int
  | null
  | foreign (type : ForeignType)
  /-- A container that maps keys from the domain to values in the codomain. -/
  | map (domain codomain : Ty)
  | seq (inner : Ty)
  | tuple (fields : List Ty)
  /-- The order of the fields matters. -/
  | namedTuple (fields : List (Field Ty))

namespace Ty

instance : Inhabited Ty := ⟨any⟩

/-- The kind of the root node. -/
def kind : Ty → Kind
  | any => .any
  | bool => .bool
  | event => .event
  | machine => .machine
  | int => .int
  | null => .null
  | foreign _ => .foreign
  | map _ _ => .map
  | seq _ => .seq
  | tuple _ => .tuple
  | namedTuple _ => .namedTuple

/-- The leaf of a primitive kind. -/
def primitive : Kind → Except TypeError Ty
  | .any => .ok any
  | .bool => .ok bool
  | .event => .ok event
  | .machine => .ok machine
  | .int => .ok int
  | .null => .ok null
  | kind => .error (.notPrimitive kind)

/-- The absent type. -/
def absent : Ty := foreign .absent

/-- A foreign type whose provider is a table with possibly missing functions. -/
def foreignOfParts (tag : Tag) (parts : Foreign.Parts) : Except TypeError Ty := do
  return foreign (← ForeignType.ofParts tag parts)

/-- Whether the node has all its parts. Every node of a `Ty` does; only the nodes of a
`Descriptor` can lack some. -/
def isValid (_ : Ty) : Bool := true

/-! ## Equality -/

mutual

/-- Whether two types are the same tree. Foreign leaves are compared by their tags. -/
def beq : Ty → Ty → Bool
  | foreign a, foreign b => a == b
  | map domain codomain, map domain' codomain' =>
    domain.beq domain' && codomain.beq codomain'
  | seq inner, seq inner' => inner.beq inner'
  | tuple fields, tuple fields' => beqAll fields fields'
  | namedTuple fields, namedTuple fields' => beqFields fields fields'
  | a, b => a.kind = b.kind

/-- Whether two lists hold the same types. -/
def beqAll : List Ty → List Ty → Bool
  | [], [] => true
  | type :: rest, type' :: rest' => type.beq type' && beqAll rest rest'
  | _, _ => false

/-- Whether two lists hold the same names and types. -/
def beqFields : List (Field Ty) → List (Field Ty) → Bool
  | [], [] => true
  | ⟨name, type⟩ :: rest, ⟨name', type'⟩ :: rest' =>
    name = name' && type.beq type' && beqFields rest rest'
  | _, _ => false

end

instance : BEq Ty := ⟨beq⟩

/-! ## Parts of a node -/

/-- The key type of a map. -/
def domain? : Ty → Option Ty
  | map domain _ => some domain
  | _ => none

/-- The value type of a map. -/
def codomain? : Ty → Option Ty
  | map _ codomain => some codomain
  | _ => none

/-- The element type of a sequence. -/
def inner? : Ty → Option Ty
  | seq inner => some inner
  | _ => none

/-- The number of fields of a tuple or named tuple. -/
def arity? : Ty → Option Nat
  | tuple fields => some fields.length
  | namedTuple fields => some fields.length
  | _ => none

/-- The field of a tuple at a position. -/
def field? : Ty → Nat → Option Ty
  | tuple fields, index => fields[index]?
  | _, _ => none

/-- The field of a named tuple at a position. -/
def namedField? : Ty → Nat → Option (Field Ty)
  | namedTuple fields, index => fields[index]?
  | _, _ => none

/-- The names of the fields of a named tuple, in order. -/
def names : Ty → List String
  | namedTuple fields => fields.map (·.name.text)
  | _ => []

/-- The type of the first field with the given name in a named tuple. -/
def fieldType? : Ty → String → Option Ty
  | namedTuple fields, name => (fields.find? (·.name.text = name)).map (·.type)
  | _, _ => none

/-- The types directly below the root, in order. -/
def children : Ty → List Ty
  | map domain codomain => [domain, codomain]
  | seq inner => [inner]
  | tuple fields => fields
  | namedTuple fields => fields.map (·.type)
  | _ => []

end Ty

end MachineTypes

namespace MachineTypes.Ty

/-! ## Induction

`Ty` is nested through lists of fields, so its own recursor has a motive for each kind of list.
`Ty.ind` has one motive: the hypothesis for a tuple speaks of every type in it, and the one for
a named tuple of every field. The `induction` tactic uses it. `Ty.ind_children` is for arguments
that treat all nodes alike.
-/

/-- A property of all types follows if each node has it whenever the types below it do. -/
@[induction_eliminator]
theorem ind {motive : Ty → Prop} (any : motive any) (bool : motive bool) (event : motive event)
    (machine : motive machine) (int : motive int) (null : motive null)
    (foreign : ∀ type, motive (foreign type))
    (map : ∀ domain codomain, motive domain → motive codomain → motive (map domain codomain))
    (seq : ∀ inner, motive inner → motive (seq inner))
    (tuple : ∀ fields, (∀ type ∈ fields, motive type) → motive (tuple fields))
    (namedTuple : ∀ fields, (∀ field ∈ fields, motive field.type) → motive (namedTuple fields))
    (type : Ty) : motive type :=
  Ty.rec
    (motive_1 := motive)
    (motive_2 := fun fields => ∀ type ∈ fields, motive type)
    (motive_3 := fun fields => ∀ field ∈ fields, motive field.type)
    (motive_4 := fun field => motive field.type)
    any bool event machine int null foreign map seq tuple namedTuple
    (fun _ mem => nomatch mem)
    (fun _ _ head rest => List.forall_mem_cons.mpr ⟨head, rest⟩)
    (fun _ mem => nomatch mem)
    (fun _ _ head rest => List.forall_mem_cons.mpr ⟨head, rest⟩)
    (fun _ _ ih => ih)
    type

/-- A property of all types follows if each type has it whenever its children do. -/
theorem ind_children {motive : Ty → Prop}
    (node : ∀ type, (∀ child ∈ type.children, motive child) → motive type) (type : Ty) :
    motive type := by
  induction type with
  | any | bool | event | machine | int | null | foreign =>
    exact node _ fun _ mem => nomatch mem
  | map domain codomain ihDomain ihCodomain =>
    exact node _ (List.forall_mem_cons.mpr ⟨ihDomain, List.forall_mem_singleton.mpr ihCodomain⟩)
  | seq inner ih => exact node _ (List.forall_mem_singleton.mpr ih)
  | tuple fields ih => exact node _ ih
  | namedTuple fields ih => exact node _ (List.forall_mem_map.mpr ih)

end MachineTypes.Ty
