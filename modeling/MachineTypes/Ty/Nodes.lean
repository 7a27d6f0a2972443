import MachineTypes.Ty.Basic

/-!
# `MachineTypes.Ty.Nodes`: the nodes of a type

What is said of the nodes of a type: how many they are and how deep, where they stand, what every
one of them satisfies in a type that has been made, and the type around one of them.
-/

set_option autoImplicit false

namespace MachineTypes.Ty

/-! ## Size

The node count of a type and its height. A leaf has height zero, so the height is the level of
the deepest node when the root is at level zero.
-/

mutual

/-- The number of nodes. -/
def nodeCount : Ty → Nat
  | map domain codomain => domain.nodeCount + codomain.nodeCount + 1
  | seq inner => inner.nodeCount + 1
  | tuple fields => nodeCountAll fields + 1
  | namedTuple fields => nodeCountFields fields + 1
  | _ => 1

/-- The number of nodes of all types of a list. -/
def nodeCountAll : List Ty → Nat
  | [] => 0
  | type :: rest => type.nodeCount + nodeCountAll rest

/-- The number of nodes of all fields of a list. -/
def nodeCountFields : List (Field Ty) → Nat
  | [] => 0
  | ⟨_, type⟩ :: rest => type.nodeCount + nodeCountFields rest

end

mutual

/-- The number of edges on the longest way down from the root. -/
def height : Ty → Nat
  | map domain codomain => max domain.height codomain.height + 1
  | seq inner => inner.height + 1
  | tuple fields => heightAll fields + 1
  | namedTuple fields => heightFields fields + 1
  | _ => 0

/-- The greatest height in a list of types. -/
def heightAll : List Ty → Nat
  | [] => 0
  | type :: rest => max type.height (heightAll rest)

/-- The greatest height in a list of fields. -/
def heightFields : List (Field Ty) → Nat
  | [] => 0
  | ⟨_, type⟩ :: rest => max type.height (heightFields rest)

end

/-- A bound on the height of a list is a bound on the height of each of its types. -/
theorem heightAll_le_iff {types : List Ty} {bound : Nat} :
    heightAll types ≤ bound ↔ ∀ type ∈ types, type.height ≤ bound := by
  induction types with
  | nil => simp [heightAll]
  | cons type rest ih => rw [heightAll, Nat.max_le, ih, List.forall_mem_cons]

/-! ## Positions

A position is the list of the child indexes on the way down from the root, so the root is at the
empty list. Positions are ordered as lists: a node comes before everything below it, and a child
with all that is below it comes before the next child. This is the order of a walk from the root
and from left to right.
-/

/-- The part of a type at a position, if the position is in the type. -/
def at? : Ty → List Nat → Option Ty
  | type, [] => some type
  | type, index :: rest => type.children[index]?.bind fun child => child.at? rest

mutual

/-- All positions of a type, in the order of the walk. -/
def positions : Ty → List (List Nat)
  | map domain codomain =>
    [] :: (domain.positions.map (0 :: ·) ++ codomain.positions.map (1 :: ·))
  | seq inner => [] :: inner.positions.map (0 :: ·)
  | tuple fields => [] :: positionsAll 0 fields
  | namedTuple fields => [] :: positionsFields 0 fields
  | _ => [[]]

/-- The positions in children of which the first has the given index. -/
def positionsAll : Nat → List Ty → List (List Nat)
  | _, [] => []
  | index, type :: rest => type.positions.map (index :: ·) ++ positionsAll (index + 1) rest

/-- The same for named fields. -/
def positionsFields : Nat → List (Field Ty) → List (List Nat)
  | _, [] => []
  | index, ⟨_, type⟩ :: rest =>
    type.positions.map (index :: ·) ++ positionsFields (index + 1) rest

end

/-- Both types have the position, with the given parts there. -/
structure SharedPosition (sub sup : Ty) (position : List Nat) (subPart supPart : Ty) : Prop where
  sub_at : sub.at? position = some subPart
  sup_at : sup.at? position = some supPart

/-- Every two types share the root. -/
theorem sharedPosition_nil_iff {sub sup subPart supPart : Ty} :
    SharedPosition sub sup [] subPart supPart ↔ subPart = sub ∧ supPart = sup := by
  constructor
  · intro shared
    obtain ⟨left, right⟩ := shared
    exact ⟨(Option.some.inj left).symm, (Option.some.inj right).symm⟩
  · rintro ⟨rfl, rfl⟩
    exact ⟨rfl, rfl⟩

/-- A position below the root is shared if both nodes have the child and the children share the
rest of the way. -/
theorem sharedPosition_cons_iff {sub sup subPart supPart : Ty} {index : Nat} {rest : List Nat} :
    SharedPosition sub sup (index :: rest) subPart supPart ↔
      ∃ child child', sub.children[index]? = some child ∧ sup.children[index]? = some child' ∧
        SharedPosition child child' rest subPart supPart := by
  constructor
  · intro shared
    obtain ⟨child, found, left⟩ := Option.bind_eq_some_iff.mp shared.sub_at
    obtain ⟨child', found', right⟩ := Option.bind_eq_some_iff.mp shared.sup_at
    exact ⟨child, child', found, found', left, right⟩
  · rintro ⟨child, child', found, found', left, right⟩
    exact ⟨Option.bind_eq_some_iff.mpr ⟨child, found, left⟩,
      Option.bind_eq_some_iff.mpr ⟨child', found', right⟩⟩

/-! ## Well-formed types

In a well-formed type every tuple and named tuple has a field, and every field name is valid.
The builders, the shorthands and the conversion of descriptors make nothing else.
-/

mutual

/-- At every node, a tuple or named tuple has at least one field, and field names are valid. -/
def WellFormed : Ty → Prop
  | map domain codomain => domain.WellFormed ∧ codomain.WellFormed
  | seq inner => inner.WellFormed
  | tuple fields => fields ≠ [] ∧ AllWellFormed fields
  | namedTuple fields => fields ≠ [] ∧ FieldsWellFormed fields
  | _ => True

/-- Every type of the list is well-formed. -/
def AllWellFormed : List Ty → Prop
  | [] => True
  | type :: rest => type.WellFormed ∧ AllWellFormed rest

/-- Every field of the list has a valid name and a well-formed type. -/
def FieldsWellFormed : List (Field Ty) → Prop
  | [] => True
  | ⟨name, type⟩ :: rest => FieldName.Valid name.text ∧ type.WellFormed ∧ FieldsWellFormed rest

end

/-- A list of types is well-formed exactly when each of its types is. -/
theorem allWellFormed_iff {types : List Ty} :
    AllWellFormed types ↔ ∀ type ∈ types, type.WellFormed := by
  induction types with
  | nil => simp [AllWellFormed]
  | cons type rest ih => simp [AllWellFormed, ih]

/-- A list of fields is well-formed exactly when each of its fields is. -/
theorem fieldsWellFormed_iff {fields : List (Field Ty)} :
    FieldsWellFormed fields ↔
      ∀ field ∈ fields, FieldName.Valid field.name.text ∧ field.type.WellFormed := by
  induction fields with
  | nil => simp [FieldsWellFormed]
  | cons field rest ih => simp [FieldsWellFormed, ih, and_assoc]

/-- A tuple is well-formed exactly when it has a field and all its fields are well-formed. -/
theorem wellFormed_tuple_iff {fields : List Ty} :
    (tuple fields).WellFormed ↔ fields ≠ [] ∧ ∀ type ∈ fields, type.WellFormed := by
  rw [WellFormed, allWellFormed_iff]

/-- A named tuple is well-formed exactly when it has a field, and each field has a valid name and a
well-formed type. -/
theorem wellFormed_namedTuple_iff {fields : List (Field Ty)} :
    (namedTuple fields).WellFormed ↔
      fields ≠ [] ∧ ∀ field ∈ fields, FieldName.Valid field.name.text ∧ field.type.WellFormed := by
  rw [WellFormed, fieldsWellFormed_iff]

/-! ## Types with a hole

A context is a type with one position left open. `fill` puts a type there.
-/

/-- A type with one hole. -/
inductive Context where
  | hole
  | domain (context : Context) (codomain : Ty)
  | codomain (domain : Ty) (context : Context)
  | inner (context : Context)
  | field (before : List Ty) (context : Context) (after : List Ty)
  | namedField (before : List (Field Ty)) (name : FieldName) (context : Context)
      (after : List (Field Ty))

/-- The type that has the given type in place of the hole. -/
def Context.fill (type : Ty) : Context → Ty
  | hole => type
  | domain context right => map (context.fill type) right
  | codomain left context => map left (context.fill type)
  | inner context => seq (context.fill type)
  | field before context after => tuple (before ++ context.fill type :: after)
  | namedField before name context after =>
    namedTuple (before ++ ⟨name, context.fill type⟩ :: after)

end MachineTypes.Ty
