import MachineTypes.Foreign.Basic
import MachineTypes.Kind

/-!
# `MachineTypes.Descriptor.Basic`: unchecked descriptions of types

A descriptor is how a type arrives from outside, before anything of it has been checked. This module
has the descriptors with the cheap check of a single node, the part of a descriptor down to a level,
and induction over descriptors.
-/

set_option autoImplicit false

namespace MachineTypes

/-! ## Descriptors

A descriptor is how a type arrives from outside. Any part of it can be missing, and the arity a
tuple declares can differ from the number of its slots. `isValid` is the cheap check: it looks
at one node and not below it. `Descriptor.convert` is the full one.
-/

/-- The description of a foreign type: a tag, with the functions that were supplied. -/
structure ForeignDescriptor where
  tag : Tag
  parts : Foreign.Parts

/-- An unchecked description of a type. -/
inductive Descriptor where
  | any
  | bool
  | event
  | machine
  | int
  | null
  | foreign (record : Option ForeignDescriptor)
  | map (domain codomain : Option Descriptor)
  | seq (inner : Option Descriptor)
  | tuple (arity : Nat) (fields : Option (List (Option Descriptor)))
  | namedTuple (arity : Nat) (names : Option (List (Option String)))
      (fields : Option (List (Option Descriptor)))

namespace Descriptor

instance : Inhabited Descriptor := ⟨any⟩

/-- The kind of the described node. -/
def kind : Descriptor → Kind
  | any => .any
  | bool => .bool
  | event => .event
  | machine => .machine
  | int => .int
  | null => .null
  | foreign _ => .foreign
  | map _ _ => .map
  | seq _ => .seq
  | tuple _ _ => .tuple
  | namedTuple _ _ _ => .namedTuple

/-- Whether the node itself has all its parts. The nodes below it are not looked at, and neither
is the number of slots. -/
def isValid : Descriptor → Bool
  | foreign record => record.any fun r => Foreign.Slot.all.all r.parts.has
  | map domain codomain => domain.isSome && codomain.isSome
  | seq inner => inner.isSome
  | tuple arity fields => 0 < arity && fields.isSome
  | namedTuple arity names fields => 0 < arity && fields.isSome && names.isSome
  | _ => true

/-- Whether there is a node and it has all its parts. -/
def isValidNode (descriptor : Option Descriptor) : Bool :=
  descriptor.any isValid

end Descriptor

end MachineTypes

namespace MachineTypes.Descriptor

/-! ## Descriptors down to a level

The root of a descriptor is at level 0, and the nodes in the slots of a node are one level below
it. `cut` keeps the upper levels of a descriptor and puts a childless node in the place of every
node on the next one. `AgreeTo` says that two descriptors are the same down to a level: every node
there holds the same in both, and the same of its slots are filled, whatever they are filled with.
-/

/-- The slots for the nodes directly below the root, in order. -/
def slots : Descriptor → List (Option Descriptor)
  | map domain codomain => [domain, codomain]
  | seq inner => [inner]
  | tuple _ (some slots) => slots
  | namedTuple _ _ (some slots) => slots
  | _ => []

/-- The same node with another node in each slot that is filled. -/
def mapSlots (f : Descriptor → Descriptor) : Descriptor → Descriptor
  | map domain codomain => map (domain.map f) (codomain.map f)
  | seq inner => seq (inner.map f)
  | tuple arity fields => tuple arity (fields.map (List.map (Option.map f)))
  | namedTuple arity names fields => namedTuple arity names (fields.map (List.map (Option.map f)))
  | leaf => leaf

/-- The given number of levels, with `any` in the place of every node on the level below them. -/
def cut : Nat → Descriptor → Descriptor
  | 0 => fun _ => any
  | levels + 1 => mapSlots (cut levels)

/-- The node at a position, if the slots on the way there are filled. A position is the list of the
slot indexes on the way down from the root. -/
def at? : Descriptor → List Nat → Option Descriptor
  | descriptor, [] => some descriptor
  | descriptor, index :: rest => descriptor.slots[index]?.join.bind fun part => part.at? rest

/-- What the root itself holds: its kind, its record, arity and names, and which of its slots are
filled. -/
def shell (descriptor : Descriptor) : Descriptor := descriptor.cut 1

/-- The descriptors have nodes at the same positions down to the level, and these hold the same. -/
def AgreeTo (level : Nat) (descriptor other : Descriptor) : Prop :=
  ∀ position : List Nat, position.length ≤ level →
    (descriptor.at? position).map shell = (other.at? position).map shell

/-! ## Missing parts

A node is complete if it has all the parts that nodes of its kind have. What is done with a
descriptor is done with the parts of complete nodes, and a node that lacks one is treated alike
whatever its kind. `cases_complete` is the case analysis that goes with this: one case for each kind
of complete node, and one for all the others.
-/

/-- The node lacks a part that every complete node of its kind has. -/
inductive LacksPart : Descriptor → Prop where
  | record : LacksPart (foreign none)
  | domain (codomain : Option Descriptor) : LacksPart (map none codomain)
  | codomain (domain : Option Descriptor) : LacksPart (map domain none)
  | inner : LacksPart (seq none)
  | fields (arity : Nat) : LacksPart (tuple arity none)
  | names (arity : Nat) (fields : Option (List (Option Descriptor))) :
    LacksPart (namedTuple arity none fields)
  | namedFields (arity : Nat) (names : Option (List (Option String))) :
    LacksPart (namedTuple arity names none)

/-- A property holds of a node if it holds of the complete nodes of each kind, and of every node
that lacks a part. -/
theorem cases_complete {motive : Descriptor → Prop} (any : motive any) (bool : motive bool)
    (event : motive event) (machine : motive machine) (int : motive int) (null : motive null)
    (lacksPart : ∀ descriptor, LacksPart descriptor → motive descriptor)
    (foreign : ∀ record, motive (foreign (some record)))
    (map : ∀ domain codomain, motive (map (some domain) (some codomain)))
    (seq : ∀ inner, motive (seq (some inner)))
    (tuple : ∀ arity slots, motive (tuple arity (some slots)))
    (namedTuple : ∀ arity names slots, motive (namedTuple arity (some names) (some slots))) :
    ∀ descriptor, motive descriptor
  | .any => any
  | .bool => bool
  | .event => event
  | .machine => machine
  | .int => int
  | .null => null
  | .foreign none => lacksPart _ .record
  | .foreign (some record) => foreign record
  | .map none codomain => lacksPart _ (.domain codomain)
  | .map (some domain) none => lacksPart _ (.codomain (some domain))
  | .map (some domain) (some codomain) => map domain codomain
  | .seq none => lacksPart _ .inner
  | .seq (some inner) => seq inner
  | .tuple arity none => lacksPart _ (.fields arity)
  | .tuple arity (some slots) => tuple arity slots
  | .namedTuple arity none fields => lacksPart _ (.names arity fields)
  | .namedTuple arity (some names) none => lacksPart _ (.namedFields arity (some names))
  | .namedTuple arity (some names) (some slots) => namedTuple arity names slots

/-! ## Induction

`Descriptor` is nested through missing parts and lists of slots. `Descriptor.ind` has one motive:
the hypothesis for a node speaks of the descriptors that are present below it. The `induction`
tactic uses it. `Descriptor.ind_slots` is for arguments that treat all kinds of nodes alike.
-/

/-- A property of all descriptors follows if each node has it whenever the nodes present below
it do. -/
@[induction_eliminator]
theorem ind {motive : Descriptor → Prop} (any : motive any) (bool : motive bool)
    (event : motive event) (machine : motive machine) (int : motive int) (null : motive null)
    (foreign : ∀ record, motive (foreign record))
    (map : ∀ domain codomain, (∀ part, domain = some part → motive part) →
      (∀ part, codomain = some part → motive part) → motive (map domain codomain))
    (seq : ∀ inner, (∀ part, inner = some part → motive part) → motive (seq inner))
    (tuple : ∀ arity fields,
      (∀ slots, fields = some slots → ∀ part, some part ∈ slots → motive part) →
        motive (tuple arity fields))
    (namedTuple : ∀ arity names fields,
      (∀ slots, fields = some slots → ∀ part, some part ∈ slots → motive part) →
        motive (namedTuple arity names fields))
    (descriptor : Descriptor) : motive descriptor :=
  Descriptor.rec
    (motive_1 := motive)
    (motive_2 := fun part => ∀ present, part = some present → motive present)
    (motive_3 := fun fields =>
      ∀ slots, fields = some slots → ∀ part, some part ∈ slots → motive part)
    (motive_4 := fun slots => ∀ part, some part ∈ slots → motive part)
    any bool event machine int null foreign map seq tuple namedTuple
    (fun _ absent => nomatch absent)
    (fun _ ih _ same => Option.some.inj same ▸ ih)
    (fun _ absent => nomatch absent)
    (fun _ ih _ same => Option.some.inj same ▸ ih)
    (fun _ mem => nomatch mem)
    (fun _ _ ihHead ihRest part mem =>
      (List.mem_cons.mp mem).elim (fun same => ihHead part same.symm) (ihRest part))
    descriptor

/-- A property of all descriptors follows if each has it whenever the nodes in its slots do. -/
theorem ind_slots {motive : Descriptor → Prop}
    (node : ∀ descriptor, (∀ part, some part ∈ descriptor.slots → motive part) →
      motive descriptor)
    (descriptor : Descriptor) : motive descriptor := by
  induction descriptor with
  | any | bool | event | machine | int | null | foreign => exact node _ (by simp [slots])
  | map domain codomain ihDomain ihCodomain =>
    refine node _ fun part mem => ?_
    rcases List.mem_cons.mp mem with same | mem
    · exact ihDomain part same.symm
    · exact ihCodomain part (List.mem_singleton.mp mem).symm
  | seq inner ih =>
    refine node _ fun part mem => ?_
    exact ih part (List.mem_singleton.mp mem).symm
  | tuple arity fields ih =>
    cases fields with
    | none => exact node _ (by simp [slots])
    | some slots => exact node _ (ih slots rfl)
  | namedTuple arity names fields ih =>
    cases fields with
    | none => exact node _ (by simp [slots])
    | some slots => exact node _ (ih slots rfl)

end MachineTypes.Descriptor
