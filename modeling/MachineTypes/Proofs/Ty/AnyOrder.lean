import MachineTypes.Proofs.Ty.Built

/-!
# `MachineTypes.Proofs.Ty.AnyOrder`: one step does what writes in any order do

`Ty.ofNamedFields` writes the name and the type of each field from the first to the last. A builder
that gets the same writes in another order gives the same named tuple. No two of these writes are
for one slot, so what a slot holds at last depends on which calls there were and not on their order:
`mem_namesWritten_iff` and `mem_typesWritten_iff` ask of the calls only what is among them.

When it fails, the first invalid name is the cause, or else there is no field. An index is never out
of range and no slot stays unset.

The main result, `one_step_agrees_with_builders`, has no hypotheses. It is put together from
`makesTuple` and `makesNamedTuple`, and the part about the order of the writes from
`accepts_of_perm_writes`, by which none of the calls fails, and from `build_of_perm_writes`, by
which the fields come out in the order of the list. Two fields may have the same name, so a named
tuple is known by its list of fields and not by what its names stand for.
-/

set_option autoImplicit false

namespace MachineTypes

/-! ### The first invalid name -/

/-- The first text that cannot name a field. -/
def firstInvalidName? (pairs : List (String × Ty)) : Option String :=
  (pairs.map Prod.fst).find? fun text => !decide (FieldName.Valid text)

/-- A valid name is passed over in the search for the first invalid one. -/
theorem firstInvalidName?_cons_of_valid {text : String} (valid : FieldName.Valid text) (type : Ty)
    (rest : List (String × Ty)) :
    firstInvalidName? ((text, type) :: rest) = firstInvalidName? rest :=
  List.find?_cons_of_neg (by simpa using valid)

/-- An invalid name at the front is the first invalid name, whatever comes after it. -/
theorem firstInvalidName?_cons_of_not_valid {text : String} (invalid : ¬ FieldName.Valid text)
    (type : Ty) (rest : List (String × Ty)) :
    firstInvalidName? ((text, type) :: rest) = some text :=
  List.find?_cons_of_pos (by simpa using invalid)

/-- There is a first invalid name exactly when some name is invalid. -/
theorem exists_firstInvalidName?_iff {pairs : List (String × Ty)} :
    (∃ text, firstInvalidName? pairs = some text) ↔ ∃ pair ∈ pairs, ¬ FieldName.Valid pair.1 := by
  rw [← Option.isSome_iff_exists, firstInvalidName?, List.find?_isSome]
  simp

/-- Making fields fails exactly with the first invalid name. -/
theorem mapM_ofPair_eq_error_iff {pairs : List (String × Ty)} {error : TypeError} :
    pairs.mapM Field.ofPair = .error error ↔
      ∃ text, firstInvalidName? pairs = some text ∧ error = .invalidFieldName text := by
  -- Along the list. A pair with a valid name becomes a field and leaves the error to the rest.
  induction pairs with
  | nil => exact iff_of_false nofun (fun ⟨_, found, _⟩ => nomatch found)
  | cons pair rest ih =>
    obtain ⟨text, type⟩ := pair
    rw [List.mapM_cons]
    by_cases valid : FieldName.Valid text
    · have made : Field.ofPair (text, type) = .ok ⟨⟨text⟩, type⟩ := by
        rw [Field.ofPair, FieldName.ofString, if_pos valid]
        rfl
      rw [firstInvalidName?_cons_of_valid valid, ← ih, made]
      show ((rest.mapM Field.ofPair).map (⟨⟨text⟩, type⟩ :: ·)) = _ ↔ _
      exact map_eq_error_iff
    · have refused : Field.ofPair (text, type) = .error (.invalidFieldName text) := by
        rw [Field.ofPair, FieldName.ofString, if_neg valid]
        rfl
      rw [firstInvalidName?_cons_of_not_valid valid, refused]
      show Except.error _ = Except.error error ↔ _
      simp [eq_comm]

/-! ### Writes in any order -/

/-- A field is known by the text of its name and its type. -/
theorem Field.pair_injective :
    Function.Injective fun field : Field Ty => (field.name.text, field.type) := by
  rintro ⟨name, type⟩ ⟨name', type'⟩ same
  obtain ⟨sameText, rfl⟩ := Prod.mk.inj same
  obtain rfl := FieldName.text_injective sameText
  rfl

namespace NamedTupleBuilder

/-- The calls that write each name and each type once, in order. -/
def writes (pairs : List (String × Ty)) : List Call :=
  pairs.zipIdx.flatMap fun (pair, index) => [.setName index pair.1, .setType index pair.2]

/-- None of the calls fails, one after the other. -/
def Accepts (builder : NamedTupleBuilder) (calls : List Call) : Prop :=
  ∀ before call later, calls = before ++ call :: later →
    ((builder.after before).call call).1 = .ok ()

/-- The writes of a list are the two calls for each of its places: one with the name that stands
there and one with the type. -/
theorem mem_writes_iff {pairs : List (String × Ty)} {call : Call} :
    call ∈ writes pairs ↔ ∃ index pair, pairs[index]? = some pair ∧
      (call = .setName index pair.1 ∨ call = .setType index pair.2) := by
  rw [writes, List.mem_flatMap]
  constructor
  · rintro ⟨⟨pair, index⟩, mem, isWrite⟩
    refine ⟨index, pair, List.mem_zipIdx_iff_getElem?.mp mem, ?_⟩
    simpa using isWrite
  · rintro ⟨index, pair, here, isWrite⟩
    refine ⟨(pair, index), List.mem_zipIdx_iff_getElem?.mpr here, ?_⟩
    simpa using isWrite

section
variable {pairs : List (String × Ty)} {calls : List Call} {builder : NamedTupleBuilder}
  (valid : ∀ pair ∈ pairs, FieldName.Valid pair.1) (reordered : calls.Perm (writes pairs))
include valid reordered

/-- A builder with as many fields refuses none of the writes. -/
theorem error?_of_mem_writes {call : Call} (mem : call ∈ calls) :
    call.error? pairs.length = none := by
  obtain ⟨index, pair, here, isWrite⟩ := mem_writes_iff.mp (reordered.mem_iff.mp mem)
  have inRange : index < pairs.length := (List.getElem?_eq_some_iff.mp here).1
  rcases isWrite with rfl | rfl
  · rw [Call.error?, if_pos inRange, if_pos (valid pair (List.mem_of_getElem? here))]
  · rw [Call.error?, if_pos inRange]

/-- What the calls write to a slot does not depend on their order. -/
theorem mem_writtenBy_writes_iff {α : Type} {value? : Nat → Call → Option α} {index : Nat}
    {value : α} :
    value ∈ writtenBy (Call.error? pairs.length) value? calls index ↔
      ∃ call ∈ writes pairs, value? index call = some value := by
  rw [mem_writtenBy_iff]
  constructor
  · rintro ⟨call, mem, -, value_eq⟩
    exact ⟨call, reordered.mem_iff.mp mem, value_eq⟩
  · rintro ⟨call, mem, value_eq⟩
    have mem := reordered.mem_iff.mpr mem
    exact ⟨call, mem, error?_of_mem_writes valid reordered mem, value_eq⟩

/-- The only name written to a field is the one given for it, and it is written if the field is in
range. -/
theorem mem_namesWritten_iff {index : Nat} {name : FieldName} :
    name ∈ namesWritten pairs.length calls index ↔
      ∃ pair, pairs[index]? = some pair ∧ name = ⟨pair.1⟩ := by
  rw [namesWritten, mem_writtenBy_writes_iff valid reordered]
  constructor
  · rintro ⟨call, mem, name_eq⟩
    obtain ⟨index', pair, here, rfl | rfl⟩ := mem_writes_iff.mp mem
    · obtain ⟨rfl, rfl⟩ : index = index' ∧ ⟨pair.1⟩ = name := by simpa [Call.nameAt?] using name_eq
      exact ⟨pair, here, rfl⟩
    · cases name_eq
  · rintro ⟨pair, here, rfl⟩
    exact ⟨_, mem_writes_iff.mpr ⟨index, pair, here, .inl rfl⟩, if_pos rfl⟩

/-- The only type written to a field is the one given for it. -/
theorem mem_typesWritten_iff {index : Nat} {type : Ty} :
    type ∈ typesWritten pairs.length calls index ↔
      ∃ pair, pairs[index]? = some pair ∧ type = pair.2 := by
  rw [typesWritten, mem_writtenBy_writes_iff valid reordered]
  constructor
  · rintro ⟨call, mem, type_eq⟩
    obtain ⟨index', pair, here, rfl | rfl⟩ := mem_writes_iff.mp mem
    · cases type_eq
    · obtain ⟨rfl, rfl⟩ : index = index' ∧ pair.2 = type := by simpa [Call.typeAt?] using type_eq
      exact ⟨pair, here, rfl⟩
  · rintro ⟨pair, here, rfl⟩
    exact ⟨_, mem_writes_iff.mpr ⟨index, pair, here, .inr rfl⟩, if_pos rfl⟩

/-- A new builder of the right arity takes all the writes, in whatever order they come. -/
theorem accepts_of_perm_writes (isNew : new pairs.length = .ok builder) :
    builder.Accepts calls := by
  intro before call later split
  have holds := (HoldsLast.of_new isNew).after before
  have arity_eq : (builder.after before).arity = pairs.length := holds.types.size_eq
  have mem : call ∈ calls := by simp [split]
  refine call_of_accepted ?_
  rw [arity_eq, error?_of_mem_writes valid reordered mem]

/-- After all the writes every field has its name and its type. -/
theorem isComplete_of_perm_writes (holds : builder.HoldsLast pairs.length calls) :
    builder.isComplete := by
  rw [(reflects_of_holdsLast holds).isComplete_iff]
  intro index inRange
  have here := List.getElem?_eq_getElem inRange
  refine ⟨?_, ?_⟩
  · exact List.ne_nil_of_mem ((mem_namesWritten_iff valid reordered).mpr ⟨_, here, rfl⟩)
  · exact List.ne_nil_of_mem ((mem_typesWritten_iff valid reordered).mpr ⟨_, here, rfl⟩)

/-- What comes out has the given names and types, in their order and not in that of the calls. -/
theorem build_of_perm_writes (holds : builder.HoldsLast pairs.length calls) :
    ∃ fields, builder.build = .ok (.namedTuple fields) ∧
      pairs = fields.map fun field => (field.name.text, field.type) := by
  have complete := isComplete_of_perm_writes valid reordered holds
  obtain ⟨type, built⟩ := (reflects_of_holdsLast holds).build_ok_iff.mpr complete
  obtain ⟨fields, rfl, length, get⟩ := holds.of_build built
  -- The fields are the given ones because at each place the last name and the last type are among
  -- what was written there, and only one name and one type were.
  refine ⟨fields, built, List.ext_getElem? ?_⟩
  intro index
  by_cases inRange : index < pairs.length
  · obtain ⟨field, found, lastName, lastType⟩ := get index inRange
    have nameMem := List.mem_of_getLast? lastName
    have typeMem := List.mem_of_getLast? lastType
    obtain ⟨pair, here, name_eq⟩ := (mem_namesWritten_iff valid reordered).mp nameMem
    obtain ⟨pair', here', type_eq⟩ := (mem_typesWritten_iff valid reordered).mp typeMem
    obtain rfl : pair = pair' := Option.some.inj (here.symm.trans here')
    rw [List.getElem?_map, found, here, Option.map_some, name_eq, type_eq]
  · have atEnd : (fields.map fun field => (field.name.text, field.type)).length ≤ index := by
      rw [List.length_map]
      omega
    rw [List.getElem?_eq_none (by omega), List.getElem?_eq_none atEnd]

end

end NamedTupleBuilder

/-! ### What one step makes -/

namespace Ty

/-- A list of types makes the tuple of these types, and only an empty list makes none. -/
structure MakesTuple (fields : List Ty) : Prop where
  ok : fields ≠ [] → ofFields fields = .ok (.tuple fields)
  error_iff : ∀ failure,
    ofFields fields = .error failure ↔ fields = [] ∧ failure = ⟨.tuple, .invalidArity 0⟩

/-- A list of names and types makes the named tuple that a builder makes of them, unless it is empty
or a name in it is invalid. -/
structure MakesNamedTuple (pairs : List (String × Ty)) : Prop where
  fails_iff : (∃ failure, ofNamedFields pairs = .error failure) ↔
    pairs = [] ∨ ∃ pair ∈ pairs, ¬ FieldName.Valid pair.1
  /-- There are two causes. The first invalid name counts. -/
  error_iff : ∀ failure, ofNamedFields pairs = .error failure ↔ failure.kind = .namedTuple ∧
    ((pairs = [] ∧ failure.cause = .invalidArity 0) ∨
      ∃ text, firstInvalidName? pairs = some text ∧ failure.cause = .invalidFieldName text)
  message : ∀ failure, ofNamedFields pairs = .error failure →
    failure.message = "cannot construct named tuple type: " ++ failure.cause.message
  fields : ∀ type, ofNamedFields pairs = .ok type → ∃ fields, type = .namedTuple fields ∧
    pairs = fields.map fun field => (field.name.text, field.type)
  /-- A builder takes the same writes in any order, and makes the same of them. -/
  any_order : ∀ type, ofNamedFields pairs = .ok type →
    ∃ builder, NamedTupleBuilder.new pairs.length = .ok builder ∧
      ∀ calls, calls.Perm (NamedTupleBuilder.writes pairs) →
        builder.Accepts calls ∧ (builder.after calls).build = .ok type

/-- Tuples are made as `MakesTuple` says. The only error of the builder that is left is that there
is no field to make. -/
theorem makesTuple (fields : List Ty) : MakesTuple fields where
  ok := ofFields_eq
  error_iff := by
    intro failure
    -- Only a builder without fields can fail, and that is for the empty list.
    by_cases nonempty : fields = []
    · subst nonempty
      show Except.error _ = Except.error failure ↔ _
      simp [eq_comm]
    · rw [ofFields_eq nonempty]
      exact iff_of_false nofun (fun none => nonempty none.1)

/-- Making a named tuple fails for one of two causes: there are no fields, or a name is invalid and
then the first such name is reported. -/
theorem ofNamedFields_eq_error_iff {pairs : List (String × Ty)} {failure : ConstructionFailure} :
    ofNamedFields pairs = .error failure ↔ failure.kind = .namedTuple ∧
      ((pairs = [] ∧ failure.cause = .invalidArity 0) ∨
        ∃ text, firstInvalidName? pairs = some text ∧ failure.cause = .invalidFieldName text) := by
  obtain ⟨kind, cause⟩ := failure
  by_cases nonempty : pairs = []
  · subst nonempty
    show Except.error _ = Except.error _ ↔ _
    simp [firstInvalidName?, eq_comm]
  · rw [ofNamedFields_eq nonempty, ← mapM_ofPair_eq_error_iff]
    cases pairs.mapM Field.ofPair <;> simp [Except.map, Except.mapError, nonempty, eq_comm]

/-- The message of a failed named tuple names the kind of type before the cause. -/
theorem message_namedTuple (cause : TypeError) :
    ConstructionFailure.message ⟨.namedTuple, cause⟩
      = "cannot construct named tuple type: " ++ cause.message := by
  have opening : "cannot construct " ++ Kind.namedTuple.name ++ " type: "
      = "cannot construct named tuple type: " := rfl
  exact congrArg (· ++ cause.message) opening

/-- Making a named tuple fails exactly when there are no fields or some name is invalid. -/
theorem exists_failure_iff {pairs : List (String × Ty)} :
    (∃ failure, ofNamedFields pairs = .error failure) ↔
      pairs = [] ∨ ∃ pair ∈ pairs, ¬ FieldName.Valid pair.1 := by
  rw [← exists_firstInvalidName?_iff]
  constructor
  · rintro ⟨failure, failed⟩
    obtain ⟨-, ⟨none, -⟩ | ⟨text, found, -⟩⟩ := ofNamedFields_eq_error_iff.mp failed
    · exact .inl none
    · exact .inr ⟨text, found⟩
  · rintro (none | ⟨text, found⟩)
    · exact ⟨⟨.namedTuple, .invalidArity 0⟩,
        ofNamedFields_eq_error_iff.mpr ⟨rfl, .inl ⟨none, rfl⟩⟩⟩
    · exact ⟨⟨.namedTuple, .invalidFieldName text⟩,
        ofNamedFields_eq_error_iff.mpr ⟨rfl, .inr ⟨text, found, rfl⟩⟩⟩

/-- A builder makes of reordered writes what is made in one step. -/
theorem build_of_ofNamedFields {pairs : List (String × Ty)} {type : Ty}
    (made : ofNamedFields pairs = .ok type) {builder : NamedTupleBuilder}
    (isNew : NamedTupleBuilder.new pairs.length = .ok builder) {calls : List NamedTupleBuilder.Call}
    (reordered : calls.Perm (NamedTupleBuilder.writes pairs)) :
    builder.Accepts calls ∧ (builder.after calls).build = .ok type := by
  obtain ⟨fields, -, same, valid, rfl⟩ := ofNamedFields_eq_ok_iff.mp made
  have validPairs : ∀ pair ∈ pairs, FieldName.Valid pair.1 := by
    rw [same, List.forall_mem_map]
    exact valid
  refine ⟨NamedTupleBuilder.accepts_of_perm_writes validPairs reordered isNew, ?_⟩
  have holds := (NamedTupleBuilder.HoldsLast.of_new isNew).after calls
  obtain ⟨fields', built, same'⟩ :=
    NamedTupleBuilder.build_of_perm_writes validPairs reordered holds
  obtain rfl : fields = fields' :=
    List.map_injective_iff.mpr Field.pair_injective (same.symm.trans same')
  exact built

/-- Named tuples are made as `MakesNamedTuple` says. -/
theorem makesNamedTuple (pairs : List (String × Ty)) : MakesNamedTuple pairs where
  fails_iff := exists_failure_iff
  error_iff := fun _ => ofNamedFields_eq_error_iff
  message := by
    rintro ⟨kind, cause⟩ failed
    obtain rfl : kind = .namedTuple := (ofNamedFields_eq_error_iff.mp failed).1
    exact message_namedTuple cause
  fields := by
    intro type made
    obtain ⟨fields, -, same, -, rfl⟩ := ofNamedFields_eq_ok_iff.mp made
    exact ⟨fields, rfl, same⟩
  any_order := by
    intro type made
    obtain ⟨fields, nonempty, same, -, -⟩ := ofNamedFields_eq_ok_iff.mp made
    have positive : 0 < pairs.length := by
      rw [same, List.length_map]
      exact List.length_pos_iff.mpr nonempty
    have isNew := NamedTupleBuilder.new_eq_ok_iff.mpr ⟨positive, rfl⟩
    exact ⟨_, isNew, fun _ reordered => build_of_ofNamedFields made isNew reordered⟩

end Ty

/-- Making tuples in one step agrees with the builders: it makes what they make of the same fields,
and fails only if there are no fields or a name is invalid. -/
theorem one_step_agrees_with_builders (fields : List Ty) (pairs : List (String × Ty)) :
    Ty.MakesTuple fields ∧ Ty.MakesNamedTuple pairs :=
  ⟨Ty.makesTuple fields, Ty.makesNamedTuple pairs⟩

/-- Both fields have one name. The types are written before the names, from the last field to the
first. -/
theorem one_step_agrees_with_builders_reversed :
    let pairs : List (String × Ty) := [("x", .int), ("x", .bool)]
    let calls : List NamedTupleBuilder.Call :=
      [.setType 1 .bool, .setName 1 "x", .setType 0 .int, .setName 0 "x"]
    calls.Perm (NamedTupleBuilder.writes pairs) ∧
      ∃ builder, NamedTupleBuilder.new 2 = .ok builder ∧ builder.Accepts calls ∧
        (builder.after calls).build = .ok (.namedTuple [⟨⟨"x"⟩, .int⟩, ⟨⟨"x"⟩, .bool⟩]) := by
  intro pairs calls
  have reordered : calls.Perm (NamedTupleBuilder.writes pairs) :=
    List.reverse_perm (NamedTupleBuilder.writes pairs)
  have made : Ty.ofNamedFields pairs = .ok (.namedTuple [⟨⟨"x"⟩, .int⟩, ⟨⟨"x"⟩, .bool⟩]) := rfl
  obtain ⟨builder, isNew, anyOrder⟩ := (one_step_agrees_with_builders [] pairs).2.any_order _ made
  exact ⟨reordered, builder, isNew, anyOrder calls reordered⟩

end MachineTypes
