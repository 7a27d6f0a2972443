import MachineTypes.Builder.Basic

/-!
# `MachineTypes.Proofs.Builder.InOrder`: builders filled from the first field to the last

Whoever has all fields at hand writes them in order. `Slots.written` is the row of slots after
some of these writes, and `TupleBuilder.filled` and `NamedTupleBuilder.filled` are the builders
over such rows. A write at the first unset slot succeeds and gives the next such builder. When
no slot is left, `build` gives the tuple of the values in their order.

So a builder that is filled in order never reports an index out of range or an unset slot.
-/

set_option autoImplicit false

namespace MachineTypes

/-! ### Rows of slots -/

namespace Slots

variable {α : Type}

/-- Rows of one size that read the same at every index are the same row. -/
theorem ext_get? {slots slots' : Slots α} (size : slots.size = slots'.size)
    (get : ∀ index, index < slots.size → slots.get? index = slots'.get? index) :
    slots = slots' := by
  obtain ⟨entries⟩ := slots
  obtain ⟨entries'⟩ := slots'
  congr 1
  refine Array.ext size ?_
  intro index bound bound'
  have same := get index bound
  simp only [get?] at same
  rwa [Array.getElem?_eq_getElem bound, Array.getElem?_eq_getElem bound', Option.join_some,
    Option.join_some] at same

/-- A row of the given size whose first slots hold the given values. -/
def written (size : Nat) (done : List α) : Slots α :=
  ⟨Array.ofFn fun index : Fin size => done[index.val]?⟩

/-- The row has its full size from the start, however many of its slots are written. -/
@[simp] theorem size_written (size : Nat) (done : List α) : (written size done).size = size := by
  simp [written, Slots.size]

/-- The first slots read as the values in their order, and the others as unset. -/
theorem get?_written {size index : Nat} (inRange : index < size) (done : List α) :
    (written size done).get? index = done[index]? := by
  simp [written, get?, inRange]

/-- Before the first write no slot is set. -/
theorem written_nil (size : Nat) : (written size [] : Slots α) = unset size := by
  refine ext_get? (by simp) ?_
  intro index inRange
  rw [get?_written (by simpa using inRange), get?_unset, List.getElem?_nil]

/-- A write at the first unset slot appends to the values. -/
theorem set_written {size : Nat} {done : List α} (room : done.length < size) (value : α) :
    (written size done).set done.length value = written size (done ++ [value]) := by
  refine ext_get? (by simp) ?_
  intro index inRange
  have inSize : index < size := by simpa using inRange
  rw [get?_set _ (by simpa using room), get?_written inSize, get?_written inSize]
  -- The slots before the new one keep their values, and those after it are unset on both sides.
  rcases Nat.lt_trichotomy index done.length with before | here | after
  · rw [if_neg (by omega), List.getElem?_append_left before]
  · subst here
    rw [if_pos rfl, List.getElem?_concat_length]
  · have after' : (done ++ [value]).length ≤ index := by
      rw [List.length_append, List.length_singleton]
      omega
    rw [if_neg (by omega), List.getElem?_eq_none (by omega), List.getElem?_eq_none after']

/-- While there is room, the first unset slot is in range. -/
theorem requireIndex_written {size : Nat} {done : List α} (room : done.length < size) :
    (written size done).requireIndex done.length = .ok () := by
  rw [requireIndex, size_written, if_pos room]

/-- Set slots are all collected. -/
theorem collectFrom_map_some (error : Nat → TypeError) (index : Nat) (done : List α) :
    collectFrom error index (done.map some) = .ok done := by
  induction done generalizing index with
  | nil => rfl
  | cons value rest ih =>
    show (collectFrom error (index + 1) (rest.map some) >>= fun values =>
      pure (value :: values)) = _
    rw [ih]
    rfl

/-- When every slot is written, the values come back in order. -/
theorem collect_written (error : Nat → TypeError) (done : List α) :
    (written done.length done).collect error = .ok done := by
  -- Read as a list, a row of which all slots are written is the list of its values.
  have entries : (written done.length done).entries.toList = done.map some := by
    refine List.ext_getElem (by simp [written]) fun index bound bound' => ?_
    simp [written]
  rw [collect, entries, collectFrom_map_some]

end Slots

/-! ### Tuples -/

namespace TupleBuilder

/-- A builder whose first fields have the given types. -/
def filled (arity : Nat) (types : List Ty) : TupleBuilder := ⟨.written arity types⟩

/-- A new builder has no field filled. -/
theorem new_eq_filled {arity : Nat} (positive : 0 < arity) : new arity = .ok (filled arity []) := by
  rw [new, if_neg (by omega), filled, Slots.written_nil]

/-- Setting the type of the first unset field succeeds and fills that field. -/
theorem setType_filled {arity : Nat} {types : List Ty} (room : types.length < arity) (type : Ty) :
    (filled arity types).setType types.length type = .ok (filled arity (types ++ [type])) := by
  -- The index is that of the first unset slot, so it is in range, and the write appends.
  rw [setType, filled, Slots.requireIndex_written room, Slots.set_written room]
  rfl

/-- When the last field is filled, the tuple has the types in the order of their writes. -/
theorem build_filled {arity : Nat} {types : List Ty} (length : types.length = arity) :
    (filled arity types).build = .ok (.tuple types) := by
  rw [build, filled, ← length, Slots.collect_written]
  rfl

end TupleBuilder

/-! ### Named tuples -/

/-- Fields are their names and types put together. -/
theorem zipWith_mk_map (fields : List (Field Ty)) :
    (fields.map (·.name)).zipWith Field.mk (fields.map (·.type)) = fields := by
  rw [List.zipWith_map, List.zipWith_self]
  exact List.map_id fields

namespace NamedTupleBuilder

/-- A builder whose first fields have the given names, and the first ones the given types. -/
def filled (arity : Nat) (names : List FieldName) (types : List Ty) : NamedTupleBuilder :=
  ⟨.written arity names, .written arity types, by simp⟩

/-- A new builder has no field filled. -/
theorem new_eq_filled {arity : Nat} (positive : 0 < arity) :
    new arity = .ok (filled arity [] []) := by
  rw [new, if_neg (by omega)]
  simp [filled, Slots.written_nil]

/-- Setting the type of the first field without one succeeds, whatever the names are. -/
theorem setType_filled {arity : Nat} (names : List FieldName) {types : List Ty}
    (room : types.length < arity) (type : Ty) :
    (filled arity names types).setType types.length type
      = .ok (filled arity names (types ++ [type])) := by
  unfold setType
  simp only [filled, Slots.requireIndex_written room, Slots.set_written room]
  rfl

/-- A name at the first unset slot is refused only if the text cannot be a name. -/
theorem setName_filled {arity : Nat} {names : List FieldName} (types : List Ty)
    (room : names.length < arity) (text : String) :
    (filled arity names types).setName names.length text
      = (FieldName.ofString text).map fun name => filled arity (names ++ [name]) types := by
  unfold setName
  simp only [filled, Slots.requireIndex_written room, Slots.set_written room]
  cases FieldName.ofString text <;> rfl

/-- When no name and no type is left to give, the named tuple pairs them in their order. -/
theorem build_filled {arity : Nat} {names : List FieldName} {types : List Ty}
    (namesLength : names.length = arity) (typesLength : types.length = arity) :
    (filled arity names types).build = .ok (.namedTuple (names.zipWith Field.mk types)) := by
  subst namesLength
  unfold build
  simp only [filled]
  rw [Slots.collect_written, ← typesLength, Slots.collect_written]
  rfl

end NamedTupleBuilder

end MachineTypes
