import MachineTypes.Proofs.Descriptor.Equations

/-!
# `MachineTypes.Proofs.Descriptor.Success`: when a node is converted

For each constructor with parts, the exact condition under which a node is converted to a type:
which parts are present, what they are converted to, and which type comes out. The proofs about
accepted descriptors go by these and never unfold the conversion.
-/

set_option autoImplicit false

namespace MachineTypes

/-- Parts assemble exactly when they are complete, and then to the capabilities they are the
parts of. -/
theorem Foreign.Parts.assemble_eq_ok_iff {tag : Tag} {parts : Foreign.Parts}
    {capabilities : Foreign.Capabilities} :
    assemble tag parts = .ok capabilities ↔ parts = capabilities.parts := by
  constructor
  · intro assembled
    obtain ⟨clone, free, hash, equals⟩ := parts
    cases clone <;> cases free <;> cases hash <;> cases equals <;> cases assembled
    rfl
  · rintro rfl
    exact assemble_parts tag capabilities

namespace Descriptor

/-! ### Names and types of fields -/

/-- As many names as types are the names and types of fields. -/
theorem exists_fields {names : List FieldName} {types : List Ty}
    (length : names.length = types.length) :
    ∃ fields : List (Field Ty), names = fields.map (·.name) ∧ types = fields.map (·.type) := by
  induction names generalizing types with
  | nil =>
    cases types with
    | nil => exact ⟨[], rfl, rfl⟩
    | cons => cases length
  | cons name names ih =>
    cases types with
    | nil => cases length
    | cons type types =>
      obtain ⟨fields, rfl, rfl⟩ := ih (by simpa using length)
      exact ⟨⟨name, type⟩ :: fields, rfl, rfl⟩

/-- There are as many types as slots. -/
theorem length_of_convertSlots {level index : Nat} {slots : List (Option Descriptor)}
    {types : List Ty} (converted : convertSlots level index slots = .ok types) :
    slots.length = types.length :=
  (convertSlots_eq_ok_iff.mp converted).length_eq

/-! ### Nodes -/

/-- Only nodes at an allowed level are converted. -/
theorem le_maxLevel_of_convertAt {level : Nat} {descriptor : Descriptor} {type : Ty}
    (converted : descriptor.convertAt level = .ok type) : level ≤ maxLevel := by
  by_contra tooDeep
  rw [convertAt_of_tooDeep (by omega)] at converted
  cases converted

section
variable {level : Nat} (shallow : level ≤ maxLevel) {type : Ty}
include shallow

/-- A foreign node is converted exactly when all four functions are present. -/
theorem convertAt_foreign_eq_ok_iff {record : Option ForeignDescriptor} :
    (foreign record).convertAt level = .ok type ↔
      ∃ tag functions, record = some ⟨tag, functions.parts⟩ ∧
        type = .foreign ⟨tag, .table functions⟩ := by
  cases record with
  | none => simp [convertAt_of_lacksPart shallow .record]
  | some record =>
    obtain ⟨tag, parts⟩ := record
    rw [convertAt_foreign shallow, Ty.foreignOfParts, bind_eq_ok_iff]
    simp only [ForeignType.ofParts, bind_eq_ok_iff, Foreign.Parts.assemble_eq_ok_iff]
    constructor
    · intro accepted
      obtain ⟨foreignType, ⟨functions, rfl, made⟩, same⟩ := accepted
      cases made
      cases same
      exact ⟨tag, functions, rfl, rfl⟩
    · intro complete
      obtain ⟨_, functions, same, rfl⟩ := complete
      cases same
      exact ⟨_, ⟨functions, rfl, rfl⟩, rfl⟩

/-- A map is converted exactly when both parts are present and converted. -/
theorem convertAt_map_eq_ok_iff {domain codomain : Option Descriptor} :
    (map domain codomain).convertAt level = .ok type ↔
      ∃ left right key value, domain = some left ∧ codomain = some right ∧
        left.convertAt (level + 1) = .ok key ∧ right.convertAt (level + 1) = .ok value ∧
          type = .map key value := by
  cases domain with
  | none => simp [convertAt_of_lacksPart shallow (.domain codomain)]
  | some left =>
    cases codomain with
    | none => simp [convertAt_of_lacksPart shallow (.codomain _)]
    | some right =>
      rw [convertAt_map shallow, bind_eq_ok_iff]
      simp only [bind_eq_ok_iff]
      constructor
      · intro accepted
        obtain ⟨key, keyConverted, value, valueConverted, same⟩ := accepted
        cases same
        exact ⟨left, right, key, value, rfl, rfl, keyConverted, valueConverted, rfl⟩
      · intro present
        obtain ⟨_, _, key, value, sameLeft, sameRight, keyConverted, valueConverted, rfl⟩ :=
          present
        cases sameLeft
        cases sameRight
        exact ⟨key, keyConverted, value, valueConverted, rfl⟩

/-- A sequence is converted exactly when its part is present and converted. -/
theorem convertAt_seq_eq_ok_iff {inner : Option Descriptor} :
    (seq inner).convertAt level = .ok type ↔
      ∃ part element, inner = some part ∧ part.convertAt (level + 1) = .ok element ∧
        type = .seq element := by
  cases inner with
  | none => simp [convertAt_of_lacksPart shallow .inner]
  | some part =>
    rw [convertAt_seq shallow, bind_eq_ok_iff]
    constructor
    · intro accepted
      obtain ⟨element, converted, same⟩ := accepted
      cases same
      exact ⟨part, element, rfl, converted, rfl⟩
    · intro present
      obtain ⟨_, element, same, converted, rfl⟩ := present
      cases same
      exact ⟨element, converted, rfl⟩

/-- A tuple is converted exactly when its slots are present and converted, there is at least
one, and there are as many as declared. -/
theorem convertAt_tuple_eq_ok_iff {arity : Nat} {fields : Option (List (Option Descriptor))} :
    (tuple arity fields).convertAt level = .ok type ↔
      ∃ slots types, fields = some slots ∧ convertSlots (level + 1) 0 slots = .ok types ∧
        types ≠ [] ∧ arity = types.length ∧ type = .tuple types := by
  cases fields with
  | none => simp [convertAt_of_lacksPart shallow (.fields arity)]
  | some slots =>
    rw [convertAt_tuple shallow]
    constructor
    · intro accepted
      split at accepted
      case isFalse => cases accepted
      case isTrue counts =>
        obtain ⟨types, converted, rfl⟩ := map_eq_ok_iff.mp accepted
        have length : slots.length = types.length := length_of_convertSlots converted
        have nonempty : types ≠ [] := List.length_pos_iff.mp (by omega)
        have declared : arity = types.length := by omega
        exact ⟨slots, types, rfl, converted, nonempty, declared, rfl⟩
    · intro present
      obtain ⟨_, types, same, converted, nonempty, rfl, rfl⟩ := present
      cases same
      have counts : 0 < types.length ∧ slots.length = types.length :=
        ⟨List.length_pos_iff.mpr nonempty, length_of_convertSlots converted⟩
      rw [if_pos counts, converted]
      rfl

/-- A named tuple is converted exactly when its names are present and valid, its slots are
present and converted, there is at least one, and there are as many of each as declared. -/
theorem convertAt_namedTuple_eq_ok_iff {arity : Nat} {names : Option (List (Option String))}
    {fields : Option (List (Option Descriptor))} :
    (namedTuple arity names fields).convertAt level = .ok type ↔
      ∃ slots members, names = some (members.map fun member => some member.name.text) ∧
        (∀ member ∈ members, FieldName.Valid member.name.text) ∧ fields = some slots ∧
          convertSlots (level + 1) 0 slots = .ok (members.map (·.type)) ∧ members ≠ [] ∧
            arity = members.length ∧ type = .namedTuple members := by
  cases names with
  | none => simp [convertAt_of_lacksPart shallow (.names arity fields)]
  | some nameSlots =>
    cases fields with
    | none => simp [convertAt_of_lacksPart shallow (.namedFields arity _)]
    | some slots =>
      rw [convertAt_namedTuple shallow]
      constructor
      · intro accepted
        split at accepted
        case isFalse => cases accepted
        case isTrue counts =>
          obtain ⟨names, namesConverted, accepted⟩ := bind_eq_ok_iff.mp accepted
          obtain ⟨types, converted, same⟩ := bind_eq_ok_iff.mp accepted
          obtain ⟨rfl, valid⟩ := convertNames_eq_ok_iff.mp namesConverted
          have length := length_of_convertSlots converted
          rw [List.length_map] at counts
          -- Both lists are as long as declared, so they are the two halves of fields.
          obtain ⟨members, rfl, rfl⟩ := exists_fields (by omega : names.length = types.length)
          rw [zipWith_mk_map] at same
          cases same
          rw [List.length_map] at counts length
          rw [List.forall_mem_map] at valid
          have nonempty : members ≠ [] := List.length_pos_iff.mp (by omega)
          have declared : arity = members.length := by omega
          refine ⟨slots, members, ?_, valid, rfl, converted, nonempty, declared, rfl⟩
          rw [List.map_map]
          rfl
      · intro present
        obtain ⟨_, members, sameNames, valid, same, converted, nonempty, rfl, rfl⟩ := present
        cases sameNames
        cases same
        have namesConverted : convertNames 0 (members.map fun member => some member.name.text)
            = .ok (members.map (·.name)) := by
          rw [convertNames_eq_ok_iff, List.map_map, List.forall_mem_map]
          exact ⟨rfl, valid⟩
        have length := length_of_convertSlots converted
        rw [List.length_map] at length
        have positive : 0 < members.length := List.length_pos_iff.mpr nonempty
        rw [if_pos ⟨positive, by rw [List.length_map], length⟩, namesConverted, converted]
        show Except.ok (Ty.namedTuple _) = _
        rw [zipWith_mk_map]

end

end Descriptor

end MachineTypes
