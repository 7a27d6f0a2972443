import Mathlib.Data.List.Perm.Subperm
import MachineTypes.Ty.Basic
import MachineTypes.Ty.Nodes

/-!
# `MachineTypes.Proofs.Ty.Nodes`: nodes and positions

The nodes of a type are the parts at its positions. So what holds at every node can be said by going
down the tree or by going through the positions, and counting the ones is counting the others.

The definitions about nodes follow the constructors of types, with a list function beside each for
the fields. The first lemmas on each of them say the same of `children` (`wellFormed_iff`,
`positions_eq`, `nodeCount_eq`), and the proofs after them go by `ind_children`, which has one case
for all nodes.
-/

set_option autoImplicit false

namespace MachineTypes.Ty

/-! ## Properties of all nodes

`Everywhere p type` says that every node of the type satisfies `p`. A node is given by the type
that it is the root of.

* `everywhere_iff_at`: the nodes are the parts at the positions of the type.
* `wellFormed_iff_everywhere`: a type is well-formed exactly when every node is well-formed at
  its root.
* `add_height_le_iff`: the deepest node is within a bound exactly when the root is, and the
  deepest node below each child.
-/

/-- The property holds at every node of the type. -/
inductive Everywhere (p : Ty → Prop) : Ty → Prop where
  | node {type : Ty} : p type → (∀ child ∈ type.children, Everywhere p child) →
      Everywhere p type

/-- A property holds everywhere if it holds at the root and everywhere below. -/
theorem everywhere_iff {p : Ty → Prop} {type : Ty} :
    Everywhere p type ↔ p type ∧ ∀ child ∈ type.children, Everywhere p child := by
  constructor
  · intro everywhere
    cases everywhere with
    | node root below => exact ⟨root, below⟩
  · intro both
    exact .node both.1 both.2

/-- A property holds everywhere if it holds at every position. -/
theorem everywhere_iff_at {p : Ty → Prop} {type : Ty} :
    Everywhere p type ↔ ∀ position node, type.at? position = some node → p node := by
  constructor
  · intro everywhere position
    -- From the root down: along the position here, and along the type in the other direction.
    induction position generalizing type with
    | nil =>
      rintro node found
      cases found
      exact (everywhere_iff.mp everywhere).1
    | cons index rest ih =>
      intro node found
      obtain ⟨child, isChild, below⟩ := Option.bind_eq_some_iff.mp found
      have childEverywhere := (everywhere_iff.mp everywhere).2 child (List.mem_of_getElem? isChild)
      exact ih childEverywhere node below
  · intro atAll
    induction type using ind_children with
    | node type ih =>
      refine .node (atAll [] type rfl) ?_
      intro child mem
      obtain ⟨index, isChild⟩ := List.getElem?_of_mem mem
      refine ih child mem ?_
      intro position node found
      refine atAll (index :: position) node ?_
      exact Option.bind_eq_some_iff.mpr ⟨child, isChild, found⟩

/-- All field names of a named tuple have a property if those of the root have it, and all below. -/
theorem everywhere_names_namedTuple_iff {p : String → Prop} {fields : List (Field Ty)} :
    (namedTuple fields).Everywhere (fun node => ∀ name ∈ node.names, p name) ↔
      ∀ field ∈ fields, p field.name.text ∧
        field.type.Everywhere fun node => ∀ name ∈ node.names, p name := by
  rw [everywhere_iff, names, children, List.forall_mem_map, List.forall_mem_map]
  simp only [forall_and]

/-! ### Well-formed nodes -/

/-- If the root is a tuple or named tuple it has a field, and its field names are valid. -/
def RootWellFormed : Ty → Prop
  | tuple fields => fields ≠ []
  | namedTuple fields => fields ≠ [] ∧ ∀ field ∈ fields, FieldName.Valid field.name.text
  | _ => True

/-- A type is well-formed exactly when its root is and all its children are. -/
theorem wellFormed_iff {type : Ty} :
    type.WellFormed ↔ type.RootWellFormed ∧ ∀ child ∈ type.children, child.WellFormed := by
  cases type with
  | any | bool | event | machine | int | null | foreign | map | seq =>
    simp [WellFormed, RootWellFormed, children]
  | tuple fields => rw [wellFormed_tuple_iff, RootWellFormed, children]
  | namedTuple fields =>
    rw [wellFormed_namedTuple_iff, RootWellFormed, children, List.forall_mem_map, and_assoc]
    simp only [forall_and]

/-- A type is well-formed exactly when every node is well-formed at its root. -/
theorem wellFormed_iff_everywhere {type : Ty} :
    type.WellFormed ↔ type.Everywhere RootWellFormed := by
  induction type using ind_children with
  | node type ih =>
    rw [wellFormed_iff, everywhere_iff]
    exact and_congr_right fun _ => forall₂_congr ih

/-! ### The deepest node -/

/-- The height of a list of fields is that of the list of their types. -/
theorem heightFields_eq_heightAll (fields : List (Field Ty)) :
    heightFields fields = heightAll (fields.map (·.type)) := by
  induction fields with
  | nil => rfl
  | cons field rest ih => rw [heightFields, ih, List.map_cons, heightAll]

/-- The deepest node below a node with children is within a bound exactly when it is below each
child. -/
theorem add_heightAll_le_iff {types : List Ty} (nonempty : types ≠ []) {level bound : Nat} :
    level + (heightAll types + 1) ≤ bound ↔
      level ≤ bound ∧ ∀ type ∈ types, level + 1 + type.height ≤ bound := by
  constructor
  · intro within
    refine ⟨by omega, ?_⟩
    intro type mem
    have below : type.height ≤ heightAll types := heightAll_le_iff.mp (Nat.le_refl _) type mem
    omega
  · intro both
    have each := both.2
    have all : heightAll types ≤ bound - (level + 1) := by
      rw [heightAll_le_iff]
      intro type mem
      have within := each type mem
      omega
    -- The first child shows that there is room for one more level at all. Without children the
    -- difference above would be cut off at zero.
    obtain ⟨first, rest, rfl⟩ := List.exists_cons_of_ne_nil nonempty
    have room := each first (by simp)
    omega

/-- The deepest node is within a bound exactly when the root is, and the deepest node below each
child. A tuple without fields would count as a level of its own. -/
theorem add_height_le_iff {type : Ty} (wellFormed : type.RootWellFormed) {level bound : Nat} :
    level + type.height ≤ bound ↔
      level ≤ bound ∧ ∀ child ∈ type.children, level + 1 + child.height ≤ bound := by
  cases type with
  | any | bool | event | machine | int | null | foreign => simp [height, children]
  | map domain codomain =>
    rw [height, children, List.forall_mem_cons, List.forall_mem_singleton]
    omega
  | seq inner =>
    rw [height, children, List.forall_mem_singleton]
    omega
  | tuple fields => exact add_heightAll_le_iff wellFormed
  | namedTuple fields =>
    rw [height, heightFields_eq_heightAll, children]
    exact add_heightAll_le_iff (by simpa using wellFormed.1)

/-! ## The positions of a type

`positions` lists each position that `at?` finds a part at (`mem_positions`), and there are as many
as nodes (`length_positions`). So different positions in a type are at most as many as its nodes
(`length_le_nodeCount`), and no position is longer than the way down to the deepest node
(`length_le_height`).
-/

/-! ### Nodes by their children -/

/-- The positions in a list of fields are those in the list of their types. -/
theorem positionsFields_eq_positionsAll (index : Nat) (fields : List (Field Ty)) :
    positionsFields index fields = positionsAll index (fields.map (·.type)) := by
  induction fields generalizing index with
  | nil => rfl
  | cons field rest ih => rw [positionsFields, ih, List.map_cons, positionsAll]

/-- The nodes of a list of fields are those of the list of their types. -/
theorem nodeCountFields_eq_nodeCountAll (fields : List (Field Ty)) :
    nodeCountFields fields = nodeCountAll (fields.map (·.type)) := by
  induction fields with
  | nil => rfl
  | cons field rest ih => rw [nodeCountFields, ih, List.map_cons, nodeCountAll]

/-- The positions of every type: the root, and then those in its children. -/
theorem positions_eq (type : Ty) : type.positions = [] :: positionsAll 0 type.children := by
  cases type with
  | map | seq => simp [positions, children, positionsAll]
  | namedTuple fields => rw [positions, positionsFields_eq_positionsAll, children]
  | _ => rfl

/-- The nodes of every type: the root, and those of its children. -/
theorem nodeCount_eq (type : Ty) : type.nodeCount = nodeCountAll type.children + 1 := by
  cases type with
  | map | seq => simp [nodeCount, children, nodeCountAll]
  | namedTuple fields => rw [nodeCount, nodeCountFields_eq_nodeCountAll, children]
  | _ => rfl

/-! ### Positions and nodes -/

/-- Children have as many positions as nodes if each child has. -/
theorem length_positionsAll {types : List Ty}
    (each : ∀ type ∈ types, type.positions.length = type.nodeCount) (index : Nat) :
    (positionsAll index types).length = nodeCountAll types := by
  induction types generalizing index with
  | nil => rfl
  | cons type rest ih =>
    have here : type.positions.length = type.nodeCount := each type (by simp)
    have later := ih (fun other mem => each other (List.mem_cons_of_mem _ mem)) (index + 1)
    rw [positionsAll, List.length_append, List.length_map, here, later, nodeCountAll]

/-- A type has as many positions as nodes. -/
theorem length_positions (type : Ty) : type.positions.length = type.nodeCount := by
  induction type using ind_children with
  | node type ih =>
    rw [positions_eq, nodeCount_eq, List.length_cons, length_positionsAll ih]

/-- A position in a child is listed behind the index of the child. -/
theorem mem_positionsAll {types : List Ty} {offset : Nat} {type : Ty}
    (found : types[offset]? = some type) {position : List Nat} (mem : position ∈ type.positions)
    (start : Nat) : (start + offset) :: position ∈ positionsAll start types := by
  induction types generalizing offset start with
  | nil => simp at found
  | cons head rest ih =>
    rw [positionsAll, List.mem_append]
    cases offset with
    | zero =>
      cases found
      exact .inl (List.mem_map_of_mem mem)
    | succ offset =>
      have later := ih found (start + 1)
      rw [Nat.add_right_comm, Nat.add_assoc] at later
      exact .inr later

/-- Where there is a part, there is a position. -/
theorem mem_positions {type part : Ty} {position : List Nat}
    (found : type.at? position = some part) : position ∈ type.positions := by
  induction position generalizing type with
  | nil =>
    rw [positions_eq]
    exact List.mem_cons_self
  | cons index rest ih =>
    obtain ⟨child, isChild, below⟩ := Option.bind_eq_some_iff.mp found
    have listed := mem_positionsAll isChild (ih below) 0
    rw [positions_eq]
    rw [Nat.zero_add] at listed
    exact List.mem_cons_of_mem _ listed

/-- A type has at most as many different positions as nodes. -/
theorem length_le_nodeCount {type : Ty} {visited : List (List Nat)} (nodup : visited.Nodup)
    (each : ∀ position ∈ visited, ∃ part, type.at? position = some part) :
    visited.length ≤ type.nodeCount := by
  -- Different positions that are all listed are at most as many as the list is long.
  have listed : visited ⊆ type.positions := by
    intro position mem
    obtain ⟨part, found⟩ := each position mem
    exact mem_positions found
  rw [← length_positions]
  exact (List.subperm_of_subset nodup listed).length_le

/-! ### The deepest position -/

/-- A child is less high than the node above it. -/
theorem height_lt_of_mem_children {type child : Ty} (mem : child ∈ type.children) :
    child.height < type.height := by
  have below : ∀ types : List Ty, child ∈ types → child.height < heightAll types + 1 := by
    intro types mem
    have bounded := heightAll_le_iff.mp (Nat.le_refl (heightAll types)) child mem
    omega
  cases type with
  | any | bool | event | machine | int | null | foreign => simp [children] at mem
  | map domain codomain =>
    have either : child = domain ∨ child = codomain := by simpa [children] using mem
    rw [height]
    rcases either with rfl | rfl <;> omega
  | seq inner =>
    have same : child = inner := by simpa [children] using mem
    rw [height, same]
    omega
  | tuple fields => exact below fields mem
  | namedTuple fields =>
    rw [height, heightFields_eq_heightAll]
    exact below _ mem

/-- A position is at most as long as the way down to the deepest node. -/
theorem length_le_height {type part : Ty} {position : List Nat}
    (found : type.at? position = some part) : position.length ≤ type.height := by
  induction position generalizing type with
  | nil => exact Nat.zero_le _
  | cons index rest ih =>
    obtain ⟨child, isChild, below⟩ := Option.bind_eq_some_iff.mp found
    have inChild : rest.length ≤ child.height := ih below
    have higher : child.height < type.height :=
      height_lt_of_mem_children (List.mem_of_getElem? isChild)
    rw [List.length_cons]
    omega

end MachineTypes.Ty
