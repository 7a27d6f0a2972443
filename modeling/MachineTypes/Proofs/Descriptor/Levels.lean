import MachineTypes.Proofs.Descriptor.RoundTrip

/-!
# `MachineTypes.Proofs.Descriptor.Levels`: one descriptor at two levels

A descriptor that stands deeper in another one is converted from a deeper level on. `CutShort` says
what this does to an outcome: it stays, or the walk reaches a node that is too deep first. The
relation is closed under the steps of a sequence (`CutShort.bind`), because a walk that is cut short
has done the same as the other one up to there. So `convertAt_cutShort` goes by the constructors,
and the level itself plays no part in it.

For a descriptor that is accepted, the height of its type says at which levels it still is
(`convertAt_at_levels`).

The first part of the main result is for every descriptor, also for one that is refused at the upper
level. There the deeper walk can end with a different error: a node that is too deep can stand
before the fault that the upper walk found. The witness `convertAt_at_levels_seq` shows this.
-/

set_option autoImplicit false

namespace MachineTypes

/-- The outcome is the other one, unless a node that is too deep was met first. -/
def CutShort {α : Type} (deep shallow : Except TypeError α) : Prop :=
  deep = .error (.nestingTooDeep Descriptor.maxLevel) ∨ deep = shallow

section
variable {α β : Type}

/-- An outcome is not cut short against itself. -/
theorem CutShort.refl (outcome : Except TypeError α) : CutShort outcome outcome := .inr rfl

/-- If the first step is cut short, so is the whole. Otherwise both sides go on with the same value,
and the rest can be cut short. -/
theorem CutShort.bind {deep shallow : Except TypeError α} {rest rest' : α → Except TypeError β}
    (first : CutShort deep shallow) (later : ∀ value, CutShort (rest value) (rest' value)) :
    CutShort (deep >>= rest) (shallow >>= rest') := by
  cases first with
  | inl tooDeep =>
    subst tooDeep
    exact .inl rfl
  | inr same =>
    subst same
    -- The first steps have one outcome. If it is an error, neither side goes on.
    cases deep with
    | error => exact .inr rfl
    | ok value => exact later value

/-- What is made of the value of a walk does not matter to whether it is cut short. -/
theorem CutShort.map {deep shallow : Except TypeError α} (first : CutShort deep shallow)
    (f : α → β) : CutShort (deep.map f) (shallow.map f) := by
  cases first with
  | inl tooDeep =>
    subst tooDeep
    exact .inl rfl
  | inr same =>
    subst same
    exact .inr rfl

end

namespace Descriptor

/-! ### The walk from two levels -/

/-- Slots are cut short at the first slot whose node is. -/
theorem convertSlots_cutShort {level level' : Nat} {slots : List (Option Descriptor)}
    (each : ∀ part, some part ∈ slots → CutShort (part.convertAt level') (part.convertAt level))
    (index : Nat) :
    CutShort (convertSlots level' index slots) (convertSlots level index slots) := by
  induction slots generalizing index with
  | nil => exact .refl _
  | cons slot rest ih =>
    have later : CutShort (convertSlots level' (index + 1) rest)
        (convertSlots level (index + 1) rest) := by
      refine ih ?_ (index + 1)
      intro part mem
      exact each part (List.mem_cons_of_mem _ mem)
    -- An unset slot is the same error on both sides, since its index does not depend on the level.
    cases slot with
    | none => exact .refl _
    | some part =>
      have here : CutShort (part.convertAt level') (part.convertAt level) := each part (by simp)
      exact here.bind fun type => later.bind fun types => .refl (pure (type :: types))

/-- From a deeper level on, the conversion of a descriptor has the same outcome or is cut short. -/
theorem convertAt_cutShort {level level' : Nat} (deeper : level ≤ level')
    (descriptor : Descriptor) :
    CutShort (descriptor.convertAt level') (descriptor.convertAt level) := by
  -- The walk is that from the deeper level, for all levels above it: the parts of a node are one
  -- level below it on both sides.
  induction level', descriptor using walk_ind generalizing level with
  | tooDeep level' descriptor tooDeep => exact .inl (convertAt_of_tooDeep tooDeep descriptor)
  | node level' descriptor shallow' ih =>
    have shallow : level ≤ maxLevel := Nat.le_trans deeper shallow'
    have below : ∀ part, some part ∈ descriptor.slots →
        CutShort (part.convertAt (level' + 1)) (part.convertAt (level + 1)) := by
      intro part mem
      exact ih part mem (Nat.succ_le_succ deeper)
    cases descriptor using cases_complete with
    | any | bool | event | machine | int | null =>
      right
      simp [convertAt, Nat.not_lt.mpr shallow', Nat.not_lt.mpr shallow]
    | lacksPart descriptor lacks =>
      rw [convertAt_of_lacksPart shallow' lacks, convertAt_of_lacksPart shallow lacks]
      exact .refl _
    | foreign record =>
      rw [convertAt_foreign shallow', convertAt_foreign shallow]
      exact .refl _
    | map domain codomain =>
      rw [convertAt_map shallow', convertAt_map shallow]
      have key := below domain (by simp [slots])
      have value := below codomain (by simp [slots])
      exact key.bind fun domain => value.map (Ty.map domain)
    | seq inner =>
      rw [convertAt_seq shallow', convertAt_seq shallow]
      have element := below inner (by simp [slots])
      exact element.map Ty.seq
    | tuple arity slots =>
      rw [convertAt_tuple shallow', convertAt_tuple shallow]
      split
      · exact (convertSlots_cutShort below 0).map Ty.tuple
      · exact .refl _
    | namedTuple arity nameSlots slots =>
      rw [convertAt_namedTuple shallow', convertAt_namedTuple shallow]
      split
      · -- The names have no level, so they are the same on both sides.
        have types := convertSlots_cutShort below 0
        refine (CutShort.refl (convertNames 0 nameSlots)).bind fun names => ?_
        exact types.map fun types => Ty.namedTuple (names.zipWith Field.mk types)
      · exact .refl _

/-! ### Accepted descriptors -/

/-- A descriptor that is accepted at the root is accepted at the levels from which its deepest node
is not too deep. -/
theorem convertAt_eq_ok_iff_convert {level : Nat} {descriptor : Descriptor} {type : Ty} :
    descriptor.convertAt level = .ok type ↔
      descriptor.convertAt 0 = .ok type ∧ level + type.height ≤ maxLevel := by
  rw [convertAt_eq_ok_iff, convertAt_eq_ok_iff]
  constructor
  · intro accepted
    obtain ⟨described, wellFormed, tables, shallow⟩ := accepted
    exact ⟨⟨described, wellFormed, tables, by omega⟩, shallow⟩
  · intro accepted
    obtain ⟨⟨described, wellFormed, tables, -⟩, shallow⟩ := accepted
    exact ⟨described, wellFormed, tables, shallow⟩

/-- When a descriptor is converted from a deeper level on, it has the same outcome or is refused for
a node that is too deep. If it is accepted at the upper level, it is refused at the deeper one
exactly if the deepest node of its type is below level 256 there. So for each type there is one
condition on the level alone. -/
theorem convertAt_at_levels (descriptor : Descriptor) :
    (∀ level level', level ≤ level' →
      descriptor.convertAt level' = .error (.nestingTooDeep 256) ∨
        descriptor.convertAt level' = descriptor.convertAt level) ∧
    (∀ level type, descriptor.convertAt level = .ok type ↔
      descriptor.convertAt 0 = .ok type ∧ level + type.height ≤ 256) ∧
    ∀ level level' type, level ≤ level' → descriptor.convertAt level = .ok type →
      (descriptor.convertAt level' = .error (.nestingTooDeep 256) ↔
        256 < level' + type.height) := by
  refine ⟨fun _ _ deeper => convertAt_cutShort deeper descriptor,
    fun _ _ => convertAt_eq_ok_iff_convert, ?_⟩
  intro level level' type deeper accepted
  have atRoot : descriptor.convertAt 0 = .ok type := (convertAt_eq_ok_iff_convert.mp accepted).1
  constructor
  · intro refused
    -- If the height still fitted, the descriptor would be accepted at the deeper level too.
    by_contra shallow
    have accepted' : descriptor.convertAt level' = .ok type :=
      convertAt_eq_ok_iff_convert.mpr ⟨atRoot, Nat.not_lt.mp shallow⟩
    rw [refused] at accepted'
    cases accepted'
  · intro tooDeep
    cases convertAt_cutShort deeper descriptor with
    | inl refused => exact refused
    | inr same =>
      have accepted' : descriptor.convertAt level' = .ok type := same.trans accepted
      have shallow := (convertAt_eq_ok_iff_convert.mp accepted').2
      exact absurd shallow (Nat.not_le.mpr tooDeep)

/-- Two sequences around a leaf are accepted down to level 254. In a tuple at level 255, the leaf of
a sequence is refused for its level before the missing field after it is found. -/
theorem convertAt_at_levels_seq :
    let nested := seq (some (seq (some any)))
    let incomplete := tuple 2 (some [some (seq (some any)), none])
    254 ≤ 255 ∧ nested.convertAt 254 = .ok (.seq (.seq .any)) ∧
      nested.convertAt 255 = .error (.nestingTooDeep 256) ∧
      incomplete.convertAt 254 = .error (.fieldTypeUnset 1) ∧
      incomplete.convertAt 255 = .error (.nestingTooDeep 256) := by
  intro nested incomplete
  have deeper : 254 ≤ 255 := by decide
  have accepted : nested.convertAt 254 = .ok (.seq (.seq .any)) := rfl
  have refused := (convertAt_at_levels nested).2.2 254 255 _ deeper accepted
  have unset : incomplete.convertAt 254 = .error (.fieldTypeUnset 1) := rfl
  have changed : incomplete.convertAt 255 ≠ incomplete.convertAt 254 := by
    rw [unset]
    exact nofun
  exact ⟨deeper, accepted, refused.mpr (by decide), unset,
    ((convertAt_at_levels incomplete).1 254 255 deeper).resolve_right changed⟩

end Descriptor

end MachineTypes
