import Mathlib.Data.List.Forall2
import MachineTypes.Descriptor.Convert
import MachineTypes.Proofs.Builder.InOrder
import MachineTypes.Proofs.Outcome

/-!
# `MachineTypes.Proofs.Descriptor.Equations`: the conversion without builders

The conversion of a tuple fills a builder slot by slot. `convertNames` and `convertSlots` say
what that comes to: they convert the slots of a list one after the other and stop at the first
fault. `convertAt_tuple` and `convertAt_namedTuple` are the equations of the conversion in these
terms, and no builder is left in them. In particular no error of a builder is ever reported.

The other equations give the conversion at the other nodes, once the level is allowed. A node that
lacks a part is malformed, whatever its kind (`convertAt_of_lacksPart`).

All that is proved of the conversion goes by these equations, and the proofs share one outline.
`walk_ind` is the induction along the walk: either the level is too deep, or the nodes in the slots
can be assumed one level further down. In the second case `cases_complete` leaves one case for each
kind of complete node and one for all nodes that lack a part.
-/

set_option autoImplicit false

namespace MachineTypes.Descriptor

/-! ### Lists of slots -/

/-- The names in the slots of a list of which the first has the given index, or the error for
the first slot that is unset or whose name is invalid. -/
def convertNames : Nat → List (Option String) → Except TypeError (List FieldName)
  | _, [] => .ok []
  | index, none :: _ => .error (.fieldNameUnset index)
  | index, some text :: rest => do
    let name ← FieldName.ofString text
    let names ← convertNames (index + 1) rest
    return name :: names

/-- The types described in the slots of a list of which the first has the given index, all at
one level. An unset slot is reported in its place among its siblings. -/
def convertSlots (level : Nat) : Nat → List (Option Descriptor) → Except TypeError (List Ty)
  | _, [] => .ok []
  | index, none :: _ => .error (.fieldTypeUnset index)
  | index, some descriptor :: rest => do
    let type ← descriptor.convertAt level
    let types ← convertSlots level (index + 1) rest
    return type :: types

/-- Names come out exactly when every slot holds a valid one, and then they are those. -/
theorem convertNames_eq_ok_iff {index : Nat} {slots : List (Option String)}
    {names : List FieldName} :
    convertNames index slots = .ok names ↔
      slots = names.map (fun name => some name.text) ∧
        ∀ name ∈ names, FieldName.Valid name.text := by
  -- For every index: it is only used in errors.
  induction slots generalizing index names with
  | nil => cases names <;> simp [convertNames]
  | cons slot rest ih =>
    cases slot with
    | none => cases names <;> simp [convertNames]
    | some text =>
      simp only [convertNames, bind_eq_ok_iff, FieldName.ofString_eq_ok_iff, ih]
      constructor
      · intro accepted
        obtain ⟨name, ⟨valid, rfl⟩, others, ⟨rfl, othersValid⟩, same⟩ := accepted
        cases same
        exact ⟨rfl, List.forall_mem_cons.mpr ⟨valid, othersValid⟩⟩
      · intro described
        obtain ⟨same, allValid⟩ := described
        cases names with
        | nil => cases same
        | cons name others =>
          obtain ⟨sameText, rfl⟩ := List.cons.inj same
          cases sameText
          obtain ⟨valid, othersValid⟩ := List.forall_mem_cons.mp allValid
          exact ⟨name, ⟨valid, rfl⟩, others, ⟨rfl, othersValid⟩, rfl⟩

/-- Types come out exactly when every slot holds a descriptor of one, and then they are those. -/
theorem convertSlots_eq_ok_iff {level index : Nat} {slots : List (Option Descriptor)}
    {types : List Ty} :
    convertSlots level index slots = .ok types ↔
      List.Forall₂ (fun slot type => ∃ descriptor, slot = some descriptor ∧
        descriptor.convertAt level = .ok type) slots types := by
  -- A success takes apart into the type of the first slot and those of the rest, and both ways the
  -- pairs are the same.
  induction slots generalizing index types with
  | nil => cases types <;> simp [convertSlots]
  | cons slot rest ih =>
    cases slot with
    | none => cases types <;> simp [convertSlots]
    | some descriptor =>
      simp only [convertSlots, bind_eq_ok_iff, ih]
      constructor
      · intro accepted
        obtain ⟨type, converted, others, pairs, same⟩ := accepted
        cases same
        exact .cons ⟨descriptor, rfl, converted⟩ pairs
      · intro pairs
        cases pairs with
        | @cons _ type _ others head pairs =>
          obtain ⟨_, same, converted⟩ := head
          cases same
          exact ⟨type, converted, others, pairs, rfl⟩

/-! ### Filling a builder -/

/-- Naming the fields of a builder in order is converting the names. -/
theorem writeNames_filled {arity : Nat} (types : List Ty) (slots : List (Option String))
    (done : List FieldName) (length : done.length + slots.length = arity) :
    writeNames done.length slots (.filled arity done types)
      = (convertNames done.length slots).map
          fun names => .filled arity (done ++ names) types := by
  -- By induction on the slots to come, for all names already given: each write moves one name
  -- over, and the builder stays of the form `filled`.
  induction slots generalizing done with
  | nil => simp [writeNames, convertNames, Except.map]
  | cons slot rest ih =>
    cases slot with
    | none => rfl
    | some text =>
      have room : done.length < arity := by simp only [List.length_cons] at length; omega
      rw [writeNames, convertNames, NamedTupleBuilder.setName_filled types room]
      cases FieldName.ofString text with
      | error => rfl
      | ok name =>
        have restLength : (done ++ [name]).length + rest.length = arity := by
          rw [List.length_cons] at length
          rw [List.length_append, List.length_singleton]
          omega
        have rest' := ih (done ++ [name]) restLength
        simp only [List.length_append, List.length_singleton, List.append_assoc,
          List.singleton_append] at rest'
        show writeNames (done.length + 1) rest (.filled arity (done ++ [name]) types)
          = Except.map _ (convertNames (done.length + 1) rest >>= fun names => pure (name :: names))
        rw [rest', map_cons_outcome]

/-- Giving the fields of a builder their types in order is converting the slots. `state` is the
builder after some of the types are set. -/
theorem writeTypes_state {Builder : Type} {setType : Builder → Nat → Ty → Except TypeError Builder}
    {arity : Nat} (state : List Ty → Builder)
    (accepts : ∀ done type, done.length < arity →
      setType (state done) done.length type = .ok (state (done ++ [type])))
    (level : Nat) (slots : List (Option Descriptor)) (done : List Ty)
    (length : done.length + slots.length = arity) :
    writeTypes setType done.length (pendingSlots level slots) (state done)
      = (convertSlots level done.length slots).map fun types => state (done ++ types) := by
  -- As for names: one write moves one type over, and `accepts` says that the write succeeds.
  induction slots generalizing done with
  | nil => simp [writeTypes, pendingSlots, convertSlots, Except.map]
  | cons slot rest ih =>
    cases slot with
    | none => rfl
    | some descriptor =>
      have room : done.length < arity := by simp only [List.length_cons] at length; omega
      rw [pendingSlots, writeTypes, convertSlots]
      show (descriptor.convertAt level >>= _) = _
      cases descriptor.convertAt level with
      | error => rfl
      | ok type =>
        have restLength : (done ++ [type]).length + rest.length = arity := by
          rw [List.length_cons] at length
          rw [List.length_append, List.length_singleton]
          omega
        have rest' := ih (done ++ [type]) restLength
        simp only [List.length_append, List.length_singleton, List.append_assoc,
          List.singleton_append] at rest'
        show (setType (state done) done.length type >>= fun next =>
            writeTypes setType (done.length + 1) (pendingSlots level rest) next)
          = Except.map _ (convertSlots level (done.length + 1) rest >>= fun types =>
              pure (type :: types))
        rw [accepts done type room, map_cons_outcome]
        exact rest'

/-! ### The conversion node by node -/

/-- Below the deepest level a node is refused, whatever it is. -/
theorem convertAt_of_tooDeep {level : Nat} (tooDeep : maxLevel < level)
    (descriptor : Descriptor) : descriptor.convertAt level = .error (.nestingTooDeep maxLevel) := by
  unfold convertAt
  rw [if_pos tooDeep]

/-- Induction along the walk of the conversion: a node that is too deep ends it, and any other node
is followed by the nodes in its slots, one level deeper. -/
theorem walk_ind {motive : Nat → Descriptor → Prop}
    (tooDeep : ∀ level descriptor, maxLevel < level → motive level descriptor)
    (node : ∀ level descriptor, level ≤ maxLevel →
      (∀ part, some part ∈ descriptor.slots → motive (level + 1) part) → motive level descriptor)
    (level : Nat) (descriptor : Descriptor) : motive level descriptor := by
  induction descriptor using ind_slots generalizing level with
  | node descriptor ih =>
    -- The level decides which of the two cases it is, and it is compared before the node is looked
    -- at.
    rcases Nat.lt_or_ge maxLevel level with deep | shallow
    · exact tooDeep level descriptor deep
    · exact node level descriptor shallow fun part mem => ih part mem (level + 1)

section
variable {level : Nat} (shallow : level ≤ maxLevel)
include shallow

/-- A node that lacks a part is malformed. -/
theorem convertAt_of_lacksPart {descriptor : Descriptor} (lacks : descriptor.LacksPart) :
    descriptor.convertAt level = .error (.malformedNode descriptor.kind) := by
  -- A missing codomain and missing fields are found behind a part that may be there or not.
  cases lacks with
  | record | domain | inner | fields | names => exact if_neg (Nat.not_lt.mpr shallow)
  | codomain domain => cases domain <;> exact if_neg (Nat.not_lt.mpr shallow)
  | namedFields arity names => cases names <;> exact if_neg (Nat.not_lt.mpr shallow)

/-- A foreign node is converted by making a foreign type from its record. -/
theorem convertAt_foreign (record : ForeignDescriptor) :
    (foreign (some record)).convertAt level = Ty.foreignOfParts record.tag record.parts :=
  if_neg (Nat.not_lt.mpr shallow)

/-- A map converts its domain and then its codomain, each one level deeper. -/
theorem convertAt_map (domain codomain : Descriptor) :
    (map (some domain) (some codomain)).convertAt level = do
      let key ← domain.convertAt (level + 1)
      let value ← codomain.convertAt (level + 1)
      return .map key value :=
  if_neg (Nat.not_lt.mpr shallow)

/-- A sequence converts its element one level deeper. -/
theorem convertAt_seq (inner : Descriptor) :
    (seq (some inner)).convertAt level = do
      let element ← inner.convertAt (level + 1)
      return .seq element :=
  if_neg (Nat.not_lt.mpr shallow)

/-- A tuple is converted by converting its slots, if there are as many as it declares. -/
theorem convertAt_tuple (arity : Nat) (slots : List (Option Descriptor)) :
    (tuple arity (some slots)).convertAt level =
      if 0 < arity ∧ slots.length = arity then
        (convertSlots (level + 1) 0 slots).map .tuple
      else .error (.malformedNode .tuple) := by
  refine (if_neg (Nat.not_lt.mpr shallow)).trans ?_
  split
  case isFalse => rfl
  case isTrue counts =>
    obtain ⟨positive, length⟩ := counts
    have written := writeTypes_state (TupleBuilder.filled arity)
      (fun _ type room => TupleBuilder.setType_filled room type) (level + 1) slots []
      (by simpa using length)
    rw [TupleBuilder.new_eq_filled positive]
    show (writeTypes TupleBuilder.setType 0 (pendingSlots (level + 1) slots) (.filled arity [])
      >>= _) = _
    rw [List.length_nil] at written
    rw [written]
    -- If the slots are converted, there is one type for each, and `build` finds none missing.
    cases converted : convertSlots (level + 1) 0 slots with
    | error => rfl
    | ok types =>
      have typesLength : types.length = arity :=
        (convertSlots_eq_ok_iff.mp converted).length_eq ▸ length
      exact TupleBuilder.build_filled typesLength

/-- A named tuple is converted by converting its names and then its slots, if there are as many
of each as it declares. -/
theorem convertAt_namedTuple (arity : Nat) (nameSlots : List (Option String))
    (slots : List (Option Descriptor)) :
    (namedTuple arity (some nameSlots) (some slots)).convertAt level =
      if 0 < arity ∧ nameSlots.length = arity ∧ slots.length = arity then do
        let names ← convertNames 0 nameSlots
        let types ← convertSlots (level + 1) 0 slots
        return .namedTuple (names.zipWith Field.mk types)
      else .error (.malformedNode .namedTuple) := by
  refine (if_neg (Nat.not_lt.mpr shallow)).trans ?_
  split
  case isFalse => rfl
  case isTrue counts =>
    obtain ⟨positive, nameCount, count⟩ := counts
    have named := writeNames_filled [] nameSlots [] (by simpa using nameCount)
    rw [NamedTupleBuilder.new_eq_filled positive]
    show (writeNames 0 nameSlots (.filled arity [] []) >>= _) = _
    rw [List.length_nil] at named
    rw [named]
    cases convertedNames : convertNames 0 nameSlots with
    | error => rfl
    | ok names =>
      have namesLength : names.length = arity := by
        rw [← nameCount, (convertNames_eq_ok_iff.mp convertedNames).1, List.length_map]
      have written := writeTypes_state (NamedTupleBuilder.filled arity names)
        (fun _ type room => NamedTupleBuilder.setType_filled names room type) (level + 1) slots []
        (by simpa using count)
      rw [List.length_nil] at written
      show (writeTypes NamedTupleBuilder.setType 0 (pendingSlots (level + 1) slots)
        (.filled arity names []) >>= _) = (convertSlots (level + 1) 0 slots >>= _)
      rw [written]
      cases converted : convertSlots (level + 1) 0 slots with
      | error => rfl
      | ok types =>
        have typesLength : types.length = arity :=
          (convertSlots_eq_ok_iff.mp converted).length_eq ▸ count
        exact NamedTupleBuilder.build_filled namesLength typesLength

end

end MachineTypes.Descriptor
