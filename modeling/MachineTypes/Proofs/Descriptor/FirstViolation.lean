import MachineTypes.Descriptor.Basic
import MachineTypes.Descriptor.Expected
import MachineTypes.Proofs.Descriptor.Equations

/-!
# `MachineTypes.Proofs.Descriptor.FirstViolation`: the conversion reports the first violation

`violations` lists all that is wrong with a descriptor and knows nothing of errors that stop a
walk. The conversion stops at the first error and knows of no other. `convertAt_reports` says
that they agree at every node and every level, and `convert_reports_first_violation` that the
conversion of a whole descriptor fails exactly with the head of the list.

Each loop of the conversion has its own list of violations (`convertNames_reports`,
`convertSlots_reports`). `Reports.bind` puts them together in the order of the walk.

The list of violations goes on after a fault, the conversion does not. So the two are compared by
`Reports`, which asks for the first fault only. No condition on the descriptor is needed: it can be
incomplete, have wrong counts and be of any depth.

The last part of the main result is about errors that no descriptor causes. The conversion calls the
builders, which have errors for a wrong arity or index, and these never come out: a node with a
wrong count is refused before it has a builder (`ofDescriptor_of_mem_violations`).
-/

set_option autoImplicit false

namespace MachineTypes

/-- The error can come from a descriptor. The other errors are about calls that name a kind, an
arity or an index of their own. -/
def TypeError.OfDescriptor : TypeError → Prop
  | notPrimitive _ | invalidArity _ | fieldIndexOutOfRange _ _ => False
  | _ => True

namespace Descriptor

/-! ### Parts, names and slots -/

/-- Parts of a foreign type are refused for the first missing slot. -/
theorem foreignOfParts_reports (record : ForeignDescriptor) :
    Reports (Ty.foreignOfParts record.tag record.parts) (partViolations record) := by
  obtain ⟨tag, clone, free, hash, equals⟩ := record
  -- The parts are looked at in the order of the slots, up to the first that is missing.
  cases clone with
  | none => rfl
  | some =>
    cases free with
    | none => rfl
    | some =>
      cases hash with
      | none => rfl
      | some => cases equals <;> rfl

/-- Names are refused for the first slot that is unset or holds no valid name. -/
theorem convertNames_reports (index : Nat) (slots : List (Option String)) :
    Reports (convertNames index slots) (nameViolations index slots) := by
  induction slots generalizing index with
  | nil => rfl
  | cons slot rest ih =>
    cases slot with
    | none => rfl
    | some text =>
      rw [convertNames, nameViolations, FieldName.ofString]
      -- A valid name adds no fault and is put before the others. An invalid one is the first fault.
      by_cases valid : FieldName.Valid text
      · rw [if_pos valid, if_pos valid]
        exact Reports.map (ih (index + 1)) (FieldName.mk text :: ·)
      · rw [if_neg valid, if_neg valid]
        rfl

/-- Slots report the violations of their nodes in order, if each node does. An unset slot counts
in its place. -/
theorem convertSlots_reports {level : Nat} (slots : List (Option Descriptor))
    (each : ∀ part, some part ∈ slots → Reports (part.convertAt level) (part.violations level))
    (index : Nat) :
    Reports (convertSlots level index slots) (slotViolations level index slots) := by
  induction slots generalizing index with
  | nil => rfl
  | cons slot rest ih =>
    -- An unset slot is a fault in its place. A node is converted before the slots after it are
    -- looked at.
    cases slot with
    | none => rfl
    | some part =>
      rw [convertSlots, slotViolations]
      have head : Reports (part.convertAt level) (part.violations level) := each part (by simp)
      have tail : Reports (convertSlots level (index + 1) rest)
          (slotViolations level (index + 1) rest) := by
        refine ih ?_ (index + 1)
        intro other mem
        exact each other (List.mem_cons_of_mem _ mem)
      exact head.bind fun type _ => tail.map (type :: ·)

/-! ### Nodes -/

/-- Below the deepest level nothing counts but the level. -/
theorem violations_of_tooDeep {level : Nat} (tooDeep : maxLevel < level)
    (descriptor : Descriptor) : descriptor.violations level = [.nestingTooDeep maxLevel] := by
  unfold violations
  rw [if_pos tooDeep]

section
variable {level : Nat} (shallow : level ≤ maxLevel)
include shallow

/-- A node that lacks a part is at fault for that and for nothing else. -/
theorem violations_of_lacksPart {descriptor : Descriptor} (lacks : descriptor.LacksPart) :
    descriptor.violations level = [.malformedNode descriptor.kind] := by
  cases lacks with
  | record | domain | inner | fields | names => exact if_neg (Nat.not_lt.mpr shallow)
  | codomain domain => cases domain <;> exact if_neg (Nat.not_lt.mpr shallow)
  | namedFields arity names => cases names <;> exact if_neg (Nat.not_lt.mpr shallow)

/-- A foreign node has the faults of its record. -/
theorem violations_foreign (record : ForeignDescriptor) :
    (foreign (some record)).violations level = partViolations record :=
  if_neg (Nat.not_lt.mpr shallow)

/-- A map has the faults of its domain before those of its codomain. -/
theorem violations_map (domain codomain : Descriptor) :
    (map (some domain) (some codomain)).violations level
      = domain.violations (level + 1) ++ codomain.violations (level + 1) :=
  if_neg (Nat.not_lt.mpr shallow)

/-- A sequence has the faults of its element. -/
theorem violations_seq (inner : Descriptor) :
    (seq (some inner)).violations level = inner.violations (level + 1) :=
  if_neg (Nat.not_lt.mpr shallow)

/-- A tuple has the faults in its slots, if there are as many as it declares. -/
theorem violations_tuple (arity : Nat) (slots : List (Option Descriptor)) :
    (tuple arity (some slots)).violations level =
      if 0 < arity ∧ slots.length = arity then slotViolations (level + 1) 0 slots
      else [.malformedNode .tuple] :=
  if_neg (Nat.not_lt.mpr shallow)

/-- A named tuple has the faults of all its names before those in its slots, if there are as many of
each as it declares. -/
theorem violations_namedTuple (arity : Nat) (nameSlots : List (Option String))
    (slots : List (Option Descriptor)) :
    (namedTuple arity (some nameSlots) (some slots)).violations level =
      if 0 < arity ∧ nameSlots.length = arity ∧ slots.length = arity then
        nameViolations 0 nameSlots ++ slotViolations (level + 1) 0 slots
      else [.malformedNode .namedTuple] :=
  if_neg (Nat.not_lt.mpr shallow)

end

/-- At every level, a node is refused for the first violation in it or below it. -/
theorem convertAt_reports (level : Nat) (descriptor : Descriptor) :
    Reports (descriptor.convertAt level) (descriptor.violations level) := by
  induction level, descriptor using walk_ind with
  | tooDeep level descriptor tooDeep =>
    rw [convertAt_of_tooDeep tooDeep, violations_of_tooDeep tooDeep]
    rfl
  | node level descriptor shallow ih =>
    cases descriptor using cases_complete with
    | any | bool | event | machine | int | null =>
      simp [convertAt, violations, Nat.not_lt.mpr shallow, Reports]
    | lacksPart descriptor lacks =>
      rw [convertAt_of_lacksPart shallow lacks, violations_of_lacksPart shallow lacks]
      rfl
    | foreign record =>
      rw [convertAt_foreign shallow, violations_foreign shallow]
      exact foreignOfParts_reports record
    | map domain codomain =>
      -- The faults of the codomain come after those of the domain, and are met only if there are
      -- none of these.
      rw [convertAt_map shallow, violations_map shallow]
      have key := ih domain (by simp [slots])
      have value := ih codomain (by simp [slots])
      exact key.bind fun domain _ => value.map (Ty.map domain)
    | seq inner =>
      rw [convertAt_seq shallow, violations_seq shallow]
      have element := ih inner (by simp [slots])
      exact element.map Ty.seq
    | tuple arity slots =>
      rw [convertAt_tuple shallow, violations_tuple shallow]
      split
      case isFalse => rfl
      case isTrue => exact (convertSlots_reports slots ih 0).map Ty.tuple
    | namedTuple arity nameSlots slots =>
      rw [convertAt_namedTuple shallow, violations_namedTuple shallow]
      split
      case isFalse => rfl
      case isTrue =>
        -- All names come before all fields.
        have texts := convertNames_reports 0 nameSlots
        have types := convertSlots_reports slots ih 0
        exact texts.bind fun names _ => types.map fun types =>
          Ty.namedTuple (names.zipWith Field.mk types)

/-! ### Errors of other origin -/

/-- A missing part of a foreign type is about the record in the descriptor. -/
theorem ofDescriptor_of_mem_partViolations {record : ForeignDescriptor} :
    ∀ error ∈ partViolations record, error.OfDescriptor := by
  intro error mem
  rw [partViolations, Option.mem_toList, Option.map_eq_some_iff] at mem
  obtain ⟨slot, -, rfl⟩ := mem
  trivial

/-- What is wrong with names is wrong with the texts in the slots. -/
theorem ofDescriptor_of_mem_nameViolations {index : Nat} {slots : List (Option String)} :
    ∀ error ∈ nameViolations index slots, error.OfDescriptor := by
  induction slots generalizing index with
  | nil => simp [nameViolations]
  | cons slot rest ih =>
    cases slot with
    | none => exact List.forall_mem_cons.mpr ⟨trivial, ih⟩
    | some text =>
      rw [nameViolations]
      split
      · exact ih
      · exact List.forall_mem_cons.mpr ⟨trivial, ih⟩

/-- Slots add nothing of their own but unset types. The rest comes from the nodes in them. -/
theorem ofDescriptor_of_mem_slotViolations {level : Nat} {slots : List (Option Descriptor)}
    (each : ∀ part, some part ∈ slots → ∀ error ∈ part.violations level, error.OfDescriptor)
    {index : Nat} : ∀ error ∈ slotViolations level index slots, error.OfDescriptor := by
  induction slots generalizing index with
  | nil => simp [slotViolations]
  | cons slot rest ih =>
    have tail : ∀ error ∈ slotViolations level (index + 1) rest, error.OfDescriptor := by
      refine ih ?_
      intro other mem
      exact each other (List.mem_cons_of_mem _ mem)
    cases slot with
    | none => exact List.forall_mem_cons.mpr ⟨trivial, tail⟩
    | some part => exact List.forall_mem_append.mpr ⟨each part (by simp), tail⟩

/-- Every violation is about the descriptor itself: no arity, index or kind is refused on its
own, because a node with a bad count is refused before it has a builder. -/
theorem ofDescriptor_of_mem_violations (level : Nat) (descriptor : Descriptor) :
    ∀ error ∈ descriptor.violations level, error.OfDescriptor := by
  induction level, descriptor using walk_ind with
  | tooDeep level descriptor tooDeep =>
    rw [violations_of_tooDeep tooDeep]
    exact List.forall_mem_singleton.mpr trivial
  | node level descriptor shallow ih =>
    cases descriptor using cases_complete with
    | any | bool | event | machine | int | null =>
      simp [violations, Nat.not_lt.mpr shallow]
    | lacksPart descriptor lacks =>
      rw [violations_of_lacksPart shallow lacks]
      exact List.forall_mem_singleton.mpr trivial
    | foreign record =>
      rw [violations_foreign shallow]
      exact ofDescriptor_of_mem_partViolations
    | map domain codomain =>
      rw [violations_map shallow]
      have key := ih domain (by simp [slots])
      have value := ih codomain (by simp [slots])
      exact List.forall_mem_append.mpr ⟨key, value⟩
    | seq inner =>
      rw [violations_seq shallow]
      exact ih inner (by simp [slots])
    | tuple arity slots =>
      rw [violations_tuple shallow]
      split
      · exact ofDescriptor_of_mem_slotViolations ih
      · exact List.forall_mem_singleton.mpr trivial
    | namedTuple arity nameSlots slots =>
      rw [violations_namedTuple shallow]
      split
      · exact List.forall_mem_append.mpr
          ⟨ofDescriptor_of_mem_nameViolations, ofDescriptor_of_mem_slotViolations ih⟩
      · exact List.forall_mem_singleton.mpr trivial

/-- The conversion fails exactly with the first violation, and succeeds exactly if there is none.
It never fails with an error about an arity, an index or a kind of primitive type. -/
theorem convert_reports_first_violation (descriptor : Descriptor) :
    (∀ error, descriptor.convert = .error error ↔ (descriptor.violations 0).head? = some error) ∧
      ((∃ type, descriptor.convert = .ok type) ↔ descriptor.violations 0 = []) ∧
      (∀ arity, descriptor.convert ≠ .error (.invalidArity arity)) ∧
      (∀ index arity, descriptor.convert ≠ .error (.fieldIndexOutOfRange index arity)) ∧
      ∀ kind, descriptor.convert ≠ .error (.notPrimitive kind) := by
  have reports : Reports descriptor.convert (descriptor.violations 0) :=
    convertAt_reports 0 descriptor
  -- What is reported is an entry of the list, and no entry is an error of the other origins.
  have origin : ∀ error, descriptor.convert = .error error → error.OfDescriptor := by
    intro error failed
    have first : (descriptor.violations 0).head? = some error := reports.error_iff.mp failed
    exact ofDescriptor_of_mem_violations 0 descriptor error (List.mem_of_head? first)
  refine ⟨fun error => reports.error_iff, reports.ok_iff, ?_, ?_, ?_⟩
  · intro arity failed
    exact origin _ failed
  · intro index arity failed
    exact origin _ failed
  · intro kind failed
    exact origin _ failed

end Descriptor

end MachineTypes
