import MachineTypes.Descriptor.Basic
import MachineTypes.Proofs.Descriptor.FirstViolation
import MachineTypes.Proofs.Ty.Built

/-!
# `MachineTypes.Proofs.Descriptor.ShallowCheck`: the check of one node and the conversion of all

`isValid` looks at a node and not below it, and the conversion goes through all nodes and has
conditions of its own. They agree: what is converted passes the check at every node, and a node that
does not pass it is refused before anything below it is looked at (`convertAt_of_not_valid`).

Of the other nodes the conversion only calls those malformed that have a wrong number of slots. Its
error does not say where the node is, but there is one:

* `malformedHereOrBelow_of_mem_violations`: what is called malformed is the node itself, or it is
  found from one of its slots on. This is one level of the walk.
* `exists_malformed_of_mem_violations`: the walk ends at a malformed node.
-/

set_option autoImplicit false

namespace MachineTypes.Descriptor

/-! ### Nodes that do not pass the check -/

/-- The error says what the node itself lacks: a node with the record of a foreign type lacks the
function of a slot, the first in the order of slots, and any other one is malformed. -/
inductive OwnFault : Descriptor → TypeError → Prop where
  | capability {record : ForeignDescriptor} {slot : Foreign.Slot}
    (first : record.parts.firstMissing? = some slot) :
    OwnFault (foreign (some record)) (.missingCapability record.tag slot)
  | malformed {descriptor : Descriptor}
    (noRecord : ∀ record, descriptor ≠ foreign (some record)) :
    OwnFault descriptor (.malformedNode descriptor.kind)

/-- Only a record can lack a function. Any other node can only be malformed. -/
theorem OwnFault.eq_malformedNode {descriptor : Descriptor} {error : TypeError}
    (fault : OwnFault descriptor error) (noRecord : ∀ record, descriptor ≠ foreign (some record)) :
    error = .malformedNode descriptor.kind := by
  cases fault with
  | @capability record => exact absurd rfl (noRecord record)
  | malformed => rfl

/-- A record that does not pass the check lacks a function, so there is a first one. -/
theorem exists_firstMissing? {record : ForeignDescriptor}
    (invalid : (foreign (some record)).isValid = false) :
    ∃ slot, record.parts.firstMissing? = some slot := by
  rw [← Option.isSome_iff_exists, Foreign.Parts.firstMissing?, List.find?_isSome]
  simpa [isValid] using invalid

section
variable {level : Nat} (shallow : level ≤ maxLevel)
include shallow

/-- A record is refused for the first missing function, and the error names the tag and the slot. -/
theorem convertAt_of_firstMissing? {record : ForeignDescriptor} {slot : Foreign.Slot}
    (first : record.parts.firstMissing? = some slot) :
    (foreign (some record)).convertAt level = .error (.missingCapability record.tag slot) := by
  rw [convertAt_foreign shallow, (foreignOfParts_reports record).error_iff, partViolations, first]
  rfl

/-- A node that does not pass the check is refused for what it lacks itself, whatever is below
it. -/
theorem convertAt_of_not_valid {descriptor : Descriptor} (invalid : descriptor.isValid = false) :
    ∃ error, OwnFault descriptor error ∧ descriptor.convertAt level = .error error := by
  cases descriptor using cases_complete with
  | any | bool | event | machine | int | null | map | seq => cases invalid
  | lacksPart descriptor lacks =>
    refine ⟨.malformedNode descriptor.kind, .malformed ?_, convertAt_of_lacksPart shallow lacks⟩
    -- A record does not lack a part of its node, only functions.
    rintro record rfl
    cases lacks
  | foreign record =>
    obtain ⟨slot, first⟩ := exists_firstMissing? invalid
    exact ⟨_, .capability first, convertAt_of_firstMissing? shallow first⟩
  | tuple arity slots =>
    have noFields : ¬ 0 < arity := by simpa [isValid] using invalid
    refine ⟨.malformedNode .tuple, .malformed (by simp), ?_⟩
    rw [convertAt_tuple shallow, if_neg (fun counts => noFields counts.1)]
  | namedTuple arity nameSlots slots =>
    have noFields : ¬ 0 < arity := by simpa [isValid] using invalid
    refine ⟨.malformedNode .namedTuple, .malformed (by simp), ?_⟩
    rw [convertAt_namedTuple shallow, if_neg (fun counts => noFields counts.1)]

end

/-! ### Nodes of accepted descriptors -/

/-- The slots of a description are filled with the descriptions of the children, in order. -/
theorem slots_ofTy (type : Ty) :
    (ofTy type).slots = type.children.map fun child => some (ofTy child) := by
  cases type with
  | tuple fields => exact slotsOf_eq_map fields
  | namedTuple fields =>
    show fieldSlotsOf fields = _
    rw [fieldSlotsOf_eq_slotsOf, slotsOf_eq_map]
    rfl
  | _ => rfl

/-- The nodes of the description of a type are the descriptions of its nodes. -/
theorem at?_ofTy (type : Ty) (position : List Nat) :
    (ofTy type).at? position = (type.at? position).map ofTy := by
  -- Each step goes to a child, and the slot with its index holds the description of the child.
  induction position generalizing type with
  | nil => rfl
  | cons index rest ih =>
    rw [at?, Ty.at?, slots_ofTy, List.getElem?_map]
    cases type.children[index]? with
    | none => rfl
    | some child => exact ih child

/-- What is converted passes the check at every node. -/
theorem isValid_of_convertAt {level : Nat} {descriptor : Descriptor} {type : Ty}
    (converted : descriptor.convertAt level = .ok type) {position : List Nat} {node : Descriptor}
    (found : descriptor.at? position = some node) : node.isValid := by
  -- What is converted is the description of a type, and every node of that type is well-formed.
  obtain ⟨rfl, acceptable⟩ := eq_ofTy_of_convertAt converted
  rw [at?_ofTy, Option.map_eq_some_iff] at found
  obtain ⟨part, isPart, rfl⟩ := found
  have everywhere := Ty.wellFormed_iff_everywhere.mp acceptable.wellFormed
  exact Ty.isValid_ofTy (Ty.everywhere_iff_at.mp everywhere position part isPart)

/-! ### Malformed nodes -/

/-- The node is a tuple or named tuple, and there are not as many slots as it declares: for its
names or for its fields. -/
def CountsDiffer : Descriptor → Prop
  | tuple arity fields => ∃ slots ∈ fields, slots.length ≠ arity
  | namedTuple arity names fields =>
    (∃ slots ∈ names, slots.length ≠ arity) ∨ ∃ slots ∈ fields, slots.length ≠ arity
  | _ => False

/-- The check of a node finds every missing part. -/
theorem isValid_of_lacksPart {descriptor : Descriptor} (lacks : descriptor.LacksPart) :
    descriptor.isValid = false := by
  cases lacks with
  | record | domain | inner => rfl
  | codomain domain => simp [isValid]
  | fields arity => simp [isValid]
  | names arity fields => simp [isValid]
  | namedFields arity names => simp [isValid]

/-- A tuple with a wrong count has no fields at all, which the check finds, or the number of slots
is not the one declared. -/
theorem tuple_malformed {arity : Nat} {slots : List (Option Descriptor)}
    (counts : ¬ (0 < arity ∧ slots.length = arity)) :
    (tuple arity (some slots)).isValid = false ∨ (tuple arity (some slots)).CountsDiffer := by
  by_cases positive : 0 < arity
  · exact .inr ⟨slots, rfl, fun length => counts ⟨positive, length⟩⟩
  · exact .inl (by simp [isValid, positive])

/-- A named tuple with a wrong count has no fields at all, which the check finds, or the number of
names or of slots is not the one declared. -/
theorem namedTuple_malformed {arity : Nat} {nameSlots : List (Option String)}
    {slots : List (Option Descriptor)}
    (counts : ¬ (0 < arity ∧ nameSlots.length = arity ∧ slots.length = arity)) :
    (namedTuple arity (some nameSlots) (some slots)).isValid = false ∨
      (namedTuple arity (some nameSlots) (some slots)).CountsDiffer := by
  by_cases positive : 0 < arity
  · by_cases nameCount : nameSlots.length = arity
    · exact .inr (.inr ⟨slots, rfl, fun length => counts ⟨positive, nameCount, length⟩⟩)
    · exact .inr (.inl ⟨nameSlots, rfl, nameCount⟩)
  · exact .inl (by simp [isValid, positive])

/-- A missing function is never reported as a malformed node. -/
theorem malformedNode_notMem_partViolations {kind : Kind} (record : ForeignDescriptor) :
    .malformedNode kind ∉ partViolations record := by
  simp [partViolations]

/-- A name that is unset or invalid is never reported as a malformed node. -/
theorem malformedNode_notMem_nameViolations {kind : Kind} (index : Nat)
    (slots : List (Option String)) : .malformedNode kind ∉ nameViolations index slots := by
  induction slots generalizing index with
  | nil => simp [nameViolations]
  | cons slot rest ih =>
    cases slot with
    | none => simp [nameViolations, ih]
    | some text =>
      rw [nameViolations]
      split <;> simp [ih]

/-- Among slots only the nodes in them can be malformed. -/
theorem exists_slot_of_mem_slotViolations {level index : Nat} {kind : Kind}
    {slots : List (Option Descriptor)}
    (mem : .malformedNode kind ∈ slotViolations level index slots) :
    ∃ part, some part ∈ slots ∧ .malformedNode kind ∈ part.violations level := by
  induction slots generalizing index with
  | nil => simp [slotViolations] at mem
  | cons slot rest ih =>
    have fromRest : .malformedNode kind ∈ slotViolations level (index + 1) rest →
        ∃ part, some part ∈ slot :: rest ∧ .malformedNode kind ∈ part.violations level := by
      intro memRest
      obtain ⟨part, isSlot, isFault⟩ := ih memRest
      exact ⟨part, List.mem_cons_of_mem _ isSlot, isFault⟩
    cases slot with
    | none =>
      rcases List.mem_cons.mp mem with same | memRest
      · cases same
      · exact fromRest memRest
    | some part =>
      rcases List.mem_append.mp mem with isFault | memRest
      · exact ⟨part, List.mem_cons_self, isFault⟩
      · exact fromRest memRest

/-- Below the deepest level no node is called malformed. -/
theorem le_maxLevel_of_mem_violations {level : Nat} {kind : Kind} {descriptor : Descriptor}
    (mem : .malformedNode kind ∈ descriptor.violations level) : level ≤ maxLevel := by
  by_contra tooDeep
  rw [violations_of_tooDeep (by omega), List.mem_singleton] at mem
  cases mem

/-- The malformed node is the root, or what is wrong is wrong with a node in a slot of the root. -/
inductive MalformedHereOrBelow (level : Nat) (kind : Kind) (descriptor : Descriptor) : Prop where
  | here (kind_eq : descriptor.kind = kind)
    (malformed : descriptor.isValid = false ∨ descriptor.CountsDiffer)
  | below {part : Descriptor} (isSlot : some part ∈ descriptor.slots)
    (isFault : .malformedNode kind ∈ part.violations (level + 1))

/-- One level of the walk. -/
theorem malformedHereOrBelow_of_mem_violations {level : Nat} {kind : Kind} {descriptor : Descriptor}
    (mem : .malformedNode kind ∈ descriptor.violations level) :
    MalformedHereOrBelow level kind descriptor := by
  have shallow : level ≤ maxLevel := le_maxLevel_of_mem_violations mem
  cases descriptor using cases_complete with
  | any | bool | event | machine | int | null =>
    simp [violations, Nat.not_lt.mpr shallow] at mem
  | lacksPart descriptor lacks =>
    rw [violations_of_lacksPart shallow lacks, List.mem_singleton] at mem
    cases mem
    exact .here rfl (.inl (isValid_of_lacksPart lacks))
  | foreign record =>
    rw [violations_foreign shallow] at mem
    exact absurd mem (malformedNode_notMem_partViolations record)
  | map domain codomain =>
    rw [violations_map shallow] at mem
    -- The node itself has no fault here, so the fault is that of one of its parts.
    rcases List.mem_append.mp mem with inDomain | inCodomain
    · exact .below (by simp [slots]) inDomain
    · exact .below (by simp [slots]) inCodomain
  | seq inner =>
    rw [violations_seq shallow] at mem
    exact .below (by simp [slots]) mem
  | tuple arity slots =>
    rw [violations_tuple shallow] at mem
    split at mem
    case isTrue =>
      obtain ⟨part, isSlot, isFault⟩ := exists_slot_of_mem_slotViolations mem
      exact .below isSlot isFault
    case isFalse counts =>
      obtain rfl : kind = .tuple := by simpa using mem
      exact .here rfl (tuple_malformed counts)
  | namedTuple arity nameSlots slots =>
    rw [violations_namedTuple shallow] at mem
    split at mem
    case isTrue =>
      rcases List.mem_append.mp mem with inNames | inSlots
      · exact absurd inNames (malformedNode_notMem_nameViolations 0 nameSlots)
      · obtain ⟨part, isSlot, isFault⟩ := exists_slot_of_mem_slotViolations inSlots
        exact .below isSlot isFault
    case isFalse counts =>
      obtain rfl : kind = .namedTuple := by simpa using mem
      exact .here rfl (namedTuple_malformed counts)

/-- What a descriptor is called malformed for is the fault of one of its nodes. -/
theorem exists_malformed_of_mem_violations {level : Nat} {kind : Kind} {descriptor : Descriptor}
    (mem : .malformedNode kind ∈ descriptor.violations level) :
    ∃ position node, level + position.length ≤ maxLevel ∧ descriptor.at? position = some node ∧
      node.kind = kind ∧ (node.isValid = false ∨ node.CountsDiffer) := by
  -- By induction on the descriptor, for all levels. The position of a node below is that in the
  -- slot with the index of the slot before it.
  induction descriptor using ind_slots generalizing level with
  | node descriptor ih =>
    cases malformedHereOrBelow_of_mem_violations mem with
    | here kind_eq malformed =>
      exact ⟨[], descriptor, le_maxLevel_of_mem_violations mem, rfl, kind_eq, malformed⟩
    | @below part isSlot isFault =>
      obtain ⟨position, node, within, found, isMalformed⟩ := ih part isSlot isFault
      obtain ⟨index, slot⟩ := List.getElem?_of_mem isSlot
      refine ⟨index :: position, node, ?_, ?_, isMalformed⟩
      · rw [List.length_cons]
        omega
      · rw [at?, slot]
        exact found

/-- What is converted passes the check at every node. What does not pass it fails with an error
about itself. What fails as malformed has a malformed node of that kind, at a level that is
allowed. -/
theorem check_agrees_with_conversion (descriptor : Descriptor) :
    (∀ type, descriptor.convert = .ok type →
      ∀ position node, descriptor.at? position = some node → node.isValid) ∧
    (descriptor.isValid = false →
      ∃ error, OwnFault descriptor error ∧ descriptor.convert = .error error) ∧
    ∀ kind, descriptor.convert = .error (.malformedNode kind) →
      ∃ position node, position.length ≤ 256 ∧ descriptor.at? position = some node ∧
        node.kind = kind ∧ (node.isValid = false ∨ node.CountsDiffer) := by
  refine ⟨?_, convertAt_of_not_valid (Nat.zero_le _), ?_⟩
  · intro type converted position node found
    exact isValid_of_convertAt converted found
  · intro kind failed
    have first := (convertAt_reports 0 descriptor).error_iff.mp failed
    obtain ⟨position, node, within, found, isMalformed⟩ :=
      exists_malformed_of_mem_violations (List.mem_of_head? first)
    rw [Nat.zero_add] at within
    exact ⟨position, node, within, found, isMalformed⟩

/-- A sequence is converted and passes the check at its element. A record without any function is
refused for the first, and a map without a domain for that although its codomain lacks a part too. A
sequence passes the check, but fails for the tuple in it that declares a field too many. -/
theorem check_agrees_with_conversion_nested :
    let accepted : Descriptor := seq (some int)
    let record : ForeignDescriptor := ⟨.absent, ⟨none, none, none, none⟩⟩
    let refused : Descriptor := map none (some (seq none))
    let deeper : Descriptor := seq (some (tuple 2 (some [some int])))
    (∃ node, accepted.at? [0] = some node ∧ node.isValid) ∧
      (foreign (some record)).convert = .error (.missingCapability .absent .clone) ∧
      refused.convert = .error (.malformedNode .map) ∧
      deeper.isValid ∧ ∃ position node, position.length ≤ 256 ∧
        deeper.at? position = some node ∧ node.kind = .tuple ∧
          (node.isValid = false ∨ node.CountsDiffer) := by
  intro accepted record refused deeper
  refine ⟨?_, ?_, ?_, rfl, ?_⟩
  · have converted : accepted.convert = .ok (.seq .int) := rfl
    exact ⟨int, rfl, (check_agrees_with_conversion accepted).1 _ converted [0] int rfl⟩
  · obtain ⟨error, fault, failed⟩ := (check_agrees_with_conversion (foreign (some record))).2.1 rfl
    cases fault with
    | @capability _ slot first =>
      obtain rfl : Foreign.Slot.clone = slot := Option.some.inj first
      exact failed
    | malformed noRecord => exact absurd rfl (noRecord record)
  · obtain ⟨error, fault, failed⟩ := (check_agrees_with_conversion refused).2.1 rfl
    rw [failed, fault.eq_malformedNode (by simp [refused])]
    rfl
  · have failed : deeper.convert = .error (.malformedNode .tuple) := rfl
    exact (check_agrees_with_conversion deeper).2.2 .tuple failed

end MachineTypes.Descriptor
