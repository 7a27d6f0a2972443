import MachineTypes.Proofs.Builder.Slots

/-!
# `MachineTypes.Proofs.Builder.Calls`: builders hold what the calls say

`TupleBuilder.call` and `NamedTupleBuilder.call` run a call in place. `call_eq` says that such a run
is the pure step: if the step fails the builder is as it was, and otherwise it is the next builder.
From this each kind of call gets one equation for when it is refused and one for when it is not.

The invariant is `Slots.HoldsLast` for every row of a builder: a slot holds the last of the values
that the calls so far wrote to it. `holdsLast_call` is the step and `holdsLast_after` is the run.
All that `Reflects` says of a builder is read off the invariant.

`builders_hold_last_writes` is the main result. It holds for every arity of at least one, because
there is no builder for a tuple without fields. Calls can come in any order and any number, and
those that fail can stand anywhere between the others: no hypothesis is made on them.

The two builders are treated one after the other, by lemmas of the same names. What they have in
common is stated for rows (`Slots.HoldsLast`). They differ in the checks of a call and in `build`,
where a named tuple reports a missing name before any missing type.
-/

set_option autoImplicit false

namespace MachineTypes

/-! ### Runs in place -/

section
variable {σ ε α β : Type}

/-- A step that asks for the state goes on with the state as it is. -/
theorem run_get_bind (rest : σ → ExceptT ε (StateM σ) β) (state : σ) :
    (get >>= rest).run.run state = (rest state).run.run state := rfl

/-- A step that reads no state passes on its value, or ends the run with the state as it is. -/
theorem run_ofExcept_bind (outcome : Except ε α) (rest : α → ExceptT ε (StateM σ) β) (state : σ) :
    (MonadExcept.ofExcept outcome >>= rest).run.run state
      = match outcome with
        | .ok value => (rest value).run.run state
        | .error error => (.error error, state) := by
  cases outcome <;> rfl

end

namespace Slots

variable {α : Type} {slots : Slots α} {index : Nat}

/-- An index below the size passes. -/
theorem requireIndex_of_lt (inRange : index < slots.size) : slots.requireIndex index = .ok () :=
  if_pos inRange

/-- An index that is not below the size is refused, and the error has the index and the size. -/
theorem requireIndex_of_not_lt (outOfRange : ¬ index < slots.size) :
    slots.requireIndex index = .error (.fieldIndexOutOfRange index slots.size) :=
  if_neg outOfRange

end Slots

/-! ### Tuples -/

namespace TupleBuilder

variable {arity : Nat} {calls : List Call} {builder : TupleBuilder}

/-- A call in place is the step from builder to builder, and keeps the builder if that fails. -/
theorem call_eq (builder : TupleBuilder) (call : Call) :
    builder.call call = match builder.setType call.index call.type with
      | .ok next => (.ok (), next)
      | .error error => (.error error, builder) := by
  unfold TupleBuilder.call perform setType
  rw [run_get_bind, run_ofExcept_bind]
  cases builder.types.requireIndex call.index <;> rfl

/-- A call for a field that does not exist fails with the reason given, and nothing is written. -/
theorem call_of_refused {call : Call} {error : TypeError}
    (isRefused : call.error? builder.arity = some error) :
    builder.call call = (.error error, builder) := by
  rw [Call.error?] at isRefused
  split at isRefused
  · cases isRefused
  · rename_i outOfRange
    cases isRefused
    rw [call_eq, setType, Slots.requireIndex_of_not_lt outOfRange]
    rfl

/-- Any other call succeeds and writes its type to its field. -/
theorem call_of_accepted {call : Call} (isAccepted : call.error? builder.arity = none) :
    builder.call call = (.ok (), ⟨builder.types.set call.index call.type⟩) ∧
      call.index < builder.arity := by
  rw [Call.error?] at isAccepted
  split at isAccepted
  · rename_i inRange
    refine ⟨?_, inRange⟩
    rw [call_eq, setType, Slots.requireIndex_of_lt inRange]
    rfl
  · cases isAccepted

/-- A call fails exactly if it is refused, and for the reason given. -/
theorem call_error_iff {call : Call} {error : TypeError} :
    (builder.call call).1 = .error error ↔ call.error? builder.arity = some error := by
  cases verdict : call.error? builder.arity with
  | some reported => simp [call_of_refused verdict]
  | none => simp [call_of_accepted verdict]

/-- A call that fails leaves the builder as it is. -/
theorem call_of_error {call : Call} {error : TypeError}
    (failed : (builder.call call).1 = .error error) : (builder.call call).2 = builder := by
  rw [call_of_refused (call_error_iff.mp failed)]

/-- One call keeps the invariant. -/
theorem holdsLast_call (holds : builder.types.HoldsLast arity (typesWritten arity calls))
    (call : Call) :
    (builder.call call).2.types.HoldsLast arity (typesWritten arity (calls ++ [call])) := by
  have arity_eq : builder.arity = arity := holds.size_eq
  -- Refused calls count for nothing in what is written, and the others write what they say.
  cases verdict : call.error? arity with
  | some error =>
    rw [call_of_refused (by rw [arity_eq, verdict])]
    exact holds.keep (.inl (by simp [verdict]))
  | none =>
    obtain ⟨called, inRange⟩ := call_of_accepted (by rw [arity_eq, verdict])
    rw [called]
    exact holds.write verdict (by omega) fun _ => rfl

/-- Any calls keep the invariant. -/
theorem holdsLast_after (holds : builder.types.HoldsLast arity (typesWritten arity calls))
    (later : List Call) :
    (builder.after later).types.HoldsLast arity (typesWritten arity (calls ++ later)) := by
  -- For any calls made before, since the calls of the induction move over to those one by one.
  induction later generalizing calls builder with
  | nil => rwa [List.append_nil]
  | cons call rest ih =>
    rw [List.append_cons]
    exact ih (holdsLast_call holds call)

/-- A tuple is made of the types collected from the row, or the first missing one is reported. -/
theorem build_eq (builder : TupleBuilder) :
    builder.build = (builder.types.collect .fieldTypeUnset).map .tuple := rfl

/-- A builder can be had for every positive arity, and is new with all fields unset. -/
theorem new_eq_ok_iff : new arity = .ok builder ↔ 0 < arity ∧ builder = ⟨.unset arity⟩ := by
  rw [new, ite_error_eq_ok_iff, Nat.pos_iff_ne_zero]

/-- A new builder holds what no call wrote. -/
theorem holdsLast_of_new (isNew : new arity = .ok builder) :
    builder.types.HoldsLast arity (typesWritten arity []) := by
  obtain ⟨-, rfl⟩ := new_eq_ok_iff.mp isNew
  exact Slots.holdsLast_unset arity _ _

/-- A builder whose slots hold what was written last is as the calls say. -/
theorem reflects_of_holdsLast (holds : builder.types.HoldsLast arity (typesWritten arity calls)) :
    builder.Reflects arity calls := by
  have arity_eq : builder.arity = arity := holds.size_eq
  refine ⟨arity_eq, ?_, fun _ _ => call_of_error, holds.isFull_iff, ?_, ?_, ?_⟩
  · intro call error
    rw [← arity_eq]
    exact call_error_iff
  · rw [isComplete, holds.isFull_iff, ← holds.collect_ok_iff .fieldTypeUnset, build_eq]
    cases builder.types.collect .fieldTypeUnset <;> simp [Except.map]
  · intro type built
    rw [build_eq, map_eq_ok_iff] at built
    obtain ⟨fields, collected, rfl⟩ := built
    obtain ⟨length, get⟩ := holds.of_collect collected
    exact ⟨fields, rfl, length, get⟩
  · intro error failed
    rw [build_eq, map_eq_error_iff] at failed
    exact holds.of_collect_error failed

end TupleBuilder

/-! ### Named tuples -/

namespace NamedTupleBuilder

variable {arity : Nat} {calls : List Call} {builder : NamedTupleBuilder}

/-- Setting a type in place is the step from builder to builder, and keeps the builder if that
fails. -/
theorem call_setType_eq (builder : NamedTupleBuilder) (index : Nat) (type : Ty) :
    builder.call (.setType index type) = match builder.setType index type with
      | .ok next => (.ok (), next)
      | .error error => (.error error, builder) := by
  unfold NamedTupleBuilder.call perform setType
  rw [run_get_bind, run_ofExcept_bind]
  cases builder.types.requireIndex index <;> rfl

/-- Setting a name in place is the step from builder to builder, and keeps the builder if that
fails. -/
theorem call_setName_eq (builder : NamedTupleBuilder) (index : Nat) (text : String) :
    builder.call (.setName index text) = match builder.setName index text with
      | .ok next => (.ok (), next)
      | .error error => (.error error, builder) := by
  unfold NamedTupleBuilder.call perform setName
  rw [run_get_bind, run_ofExcept_bind]
  cases builder.names.requireIndex index with
  | error => rfl
  | ok =>
    dsimp only
    rw [run_ofExcept_bind]
    cases FieldName.ofString text <;> rfl

/-- A call for a field that does not exist, or with a text that is no name, fails with the reason
given and writes nothing. The field is checked first, so it is the one reported if both are wrong.
-/
theorem call_of_refused {call : Call} {error : TypeError}
    (isRefused : call.error? builder.arity = some error) :
    builder.call call = (.error error, builder) := by
  cases call with
  | setType index type =>
    rw [Call.error?] at isRefused
    split at isRefused
    · cases isRefused
    · rename_i outOfRange
      cases isRefused
      rw [call_setType_eq, setType, Slots.requireIndex_of_not_lt outOfRange]
      rfl
  | setName index text =>
    have size_names : builder.names.size = builder.arity := builder.size_names
    rw [Call.error?, ← size_names] at isRefused
    split at isRefused
    · rename_i inRange
      split at isRefused
      · cases isRefused
      · rename_i invalid
        cases isRefused
        rw [call_setName_eq, setName, Slots.requireIndex_of_lt inRange, FieldName.ofString,
          if_neg invalid]
        rfl
    · rename_i outOfRange
      cases isRefused
      rw [call_setName_eq, setName, Slots.requireIndex_of_not_lt outOfRange]
      rfl

/-- A type that is accepted is written to its field, and the names stay as they are. -/
theorem call_setType_of_accepted {index : Nat} {type : Ty}
    (isAccepted : (Call.setType index type).error? builder.arity = none) :
    index < builder.arity ∧ (builder.call (.setType index type)).1 = .ok () ∧
      (builder.call (.setType index type)).2.names = builder.names ∧
      (builder.call (.setType index type)).2.types = builder.types.set index type := by
  rw [Call.error?] at isAccepted
  split at isAccepted
  · rename_i inRange
    refine ⟨inRange, ?_⟩
    rw [call_setType_eq, setType, Slots.requireIndex_of_lt inRange]
    exact ⟨rfl, rfl, rfl⟩
  · cases isAccepted

/-- A name that is accepted is written to its field, and the types stay as they are. -/
theorem call_setName_of_accepted {index : Nat} {text : String}
    (isAccepted : (Call.setName index text).error? builder.arity = none) :
    index < builder.arity ∧ (builder.call (.setName index text)).1 = .ok () ∧
      (builder.call (.setName index text)).2.names = builder.names.set index ⟨text⟩ ∧
      (builder.call (.setName index text)).2.types = builder.types := by
  rw [Call.error?] at isAccepted
  split at isAccepted
  · rename_i inRange
    split at isAccepted
    · rename_i valid
      refine ⟨inRange, ?_⟩
      have inNames : index < builder.names.size := by rwa [builder.size_names]
      rw [call_setName_eq, setName, Slots.requireIndex_of_lt inNames, FieldName.ofString,
        if_pos valid]
      exact ⟨rfl, rfl, rfl⟩
    · cases isAccepted
  · cases isAccepted

/-- A call that is not refused succeeds, whichever of the two rows it writes to. -/
theorem call_of_accepted {call : Call} (isAccepted : call.error? builder.arity = none) :
    (builder.call call).1 = .ok () := by
  cases call with
  | setType => exact (call_setType_of_accepted isAccepted).2.1
  | setName => exact (call_setName_of_accepted isAccepted).2.1

/-- A call fails exactly if it is refused, and for the reason given. -/
theorem call_error_iff {call : Call} {error : TypeError} :
    (builder.call call).1 = .error error ↔ call.error? builder.arity = some error := by
  cases verdict : call.error? builder.arity with
  | some reported => simp [call_of_refused verdict]
  | none => simp [call_of_accepted verdict]

/-- A call that fails leaves the builder as it is. -/
theorem call_of_error {call : Call} {error : TypeError}
    (failed : (builder.call call).1 = .error error) : (builder.call call).2 = builder := by
  rw [call_of_refused (call_error_iff.mp failed)]

/-- Both rows hold what the calls wrote to them last. -/
structure HoldsLast (arity : Nat) (calls : List Call) (builder : NamedTupleBuilder) : Prop where
  names : builder.names.HoldsLast arity (namesWritten arity calls)
  types : builder.types.HoldsLast arity (typesWritten arity calls)

/-- A builder can be had for every positive arity, and is new with all fields unset. -/
theorem new_eq_ok_iff :
    new arity = .ok builder ↔ 0 < arity ∧ builder = ⟨.unset arity, .unset arity, by simp⟩ := by
  rw [new, ite_error_eq_ok_iff, Nat.pos_iff_ne_zero]

/-- A new builder holds what no call wrote. -/
theorem HoldsLast.of_new (isNew : new arity = .ok builder) : builder.HoldsLast arity [] := by
  obtain ⟨-, rfl⟩ := new_eq_ok_iff.mp isNew
  exact ⟨Slots.holdsLast_unset arity _ _, Slots.holdsLast_unset arity _ _⟩

/-- One call keeps the invariant. -/
theorem HoldsLast.call (holds : builder.HoldsLast arity calls) (call : Call) :
    (builder.call call).2.HoldsLast arity (calls ++ [call]) := by
  have arity_eq : builder.arity = arity := holds.types.size_eq
  cases verdict : call.error? arity with
  | some error =>
    have isRefused : call.error? arity ≠ none := by simp [verdict]
    rw [call_of_refused (by rw [arity_eq, verdict])]
    exact ⟨holds.names.keep (.inl isRefused), holds.types.keep (.inl isRefused)⟩
  | none =>
    -- An accepted call writes to one of the rows and is no call for the other.
    cases call with
    | setType index type =>
      obtain ⟨inRange, -, names, types⟩ := call_setType_of_accepted (by rw [arity_eq, verdict])
      refine ⟨?_, ?_⟩
      · rw [names]
        exact holds.names.keep (.inr fun _ => rfl)
      · rw [types]
        exact holds.types.write verdict (by omega) fun _ => rfl
    | setName index text =>
      obtain ⟨inRange, -, names, types⟩ := call_setName_of_accepted (by rw [arity_eq, verdict])
      refine ⟨?_, ?_⟩
      · rw [names]
        exact holds.names.write verdict (by omega) fun _ => rfl
      · rw [types]
        exact holds.types.keep (.inr fun _ => rfl)

/-- Any calls keep the invariant. -/
theorem HoldsLast.after (holds : builder.HoldsLast arity calls) (later : List Call) :
    (builder.after later).HoldsLast arity (calls ++ later) := by
  induction later generalizing calls builder with
  | nil => rwa [List.append_nil]
  | cons call rest ih =>
    rw [List.append_cons]
    exact ih (holds.call call)

/-- Names are collected before types, so a missing name is reported before a missing type. -/
theorem build_eq (builder : NamedTupleBuilder) :
    builder.build = builder.names.collect .fieldNameUnset >>= fun names =>
      (builder.types.collect .fieldTypeUnset).map fun types =>
        .namedTuple (names.zipWith Field.mk types) := rfl

/-- The fields of a finished named tuple pair the names with the types, and none is cut off. -/
theorem HoldsLast.of_build (holds : builder.HoldsLast arity calls) {type : Ty}
    (built : builder.build = .ok type) :
    ∃ fields, type = .namedTuple fields ∧ fields.length = arity ∧
      ∀ index < arity, ∃ field, fields[index]? = some field ∧
        (namesWritten arity calls index).getLast? = some field.name ∧
          (typesWritten arity calls index).getLast? = some field.type := by
  rw [build_eq, bind_eq_ok_iff] at built
  -- Take the run of `build` apart: both rows were collected, so both are full.
  obtain ⟨names, namesCollected, built⟩ := built
  obtain ⟨types, typesCollected, rfl⟩ := map_eq_ok_iff.mp built
  obtain ⟨namesLength, getName⟩ := holds.names.of_collect namesCollected
  obtain ⟨typesLength, getType⟩ := holds.types.of_collect typesCollected
  refine ⟨_, rfl, ?_, ?_⟩
  · rw [List.length_zipWith]
    omega
  · intro index inRange
    have inNames : index < names.length := by omega
    have inTypes : index < types.length := by omega
    rw [← getName index inRange, ← getType index inRange, List.getElem?_zipWith,
      List.getElem?_eq_getElem inNames, List.getElem?_eq_getElem inTypes]
    exact ⟨⟨names[index], types[index]⟩, rfl, rfl, rfl⟩

/-- A builder whose slots hold what was written last is as the calls say. -/
theorem reflects_of_holdsLast (holds : builder.HoldsLast arity calls) :
    builder.Reflects arity calls := by
  have arity_eq : builder.arity = arity := holds.types.size_eq
  have complete : builder.isComplete ↔ (∀ index < arity, namesWritten arity calls index ≠ []) ∧
      ∀ index < arity, typesWritten arity calls index ≠ [] := by
    rw [isComplete, Bool.and_eq_true, holds.names.isFull_iff, holds.types.isFull_iff]
  refine ⟨arity_eq, ?_, fun _ _ => call_of_error, ?_, ?_, fun _ => holds.of_build, ?_⟩
  · intro call error
    rw [← arity_eq]
    exact call_error_iff
  · rw [complete]
    simp only [forall_and]
  · rw [complete, ← holds.names.collect_ok_iff .fieldNameUnset,
      ← holds.types.collect_ok_iff .fieldTypeUnset, build_eq]
    cases builder.names.collect .fieldNameUnset <;>
      cases builder.types.collect .fieldTypeUnset <;> simp [Except.map, bind, Except.bind]
  · intro error failed
    rw [build_eq, bind_eq_error_iff] at failed
    -- Either a name is missing, or all names are there and a type is missing.
    rcases failed with namesFailed | ⟨names, namesCollected, typesFailed⟩
    · exact .inl (holds.names.of_collect_error namesFailed)
    · rw [map_eq_error_iff] at typesFailed
      exact .inr ⟨(holds.names.collect_ok_iff _).mp ⟨names, namesCollected⟩,
        holds.types.of_collect_error typesFailed⟩

end NamedTupleBuilder

/-! ### All calls on a new builder -/

/-- A new builder can be had for every positive arity, and after any calls it is as the calls say:
each field has the name and the type that were written to it last by a call that was not refused,
and `build` succeeds once no field lacks any. -/
theorem builders_hold_last_writes (arity : Nat) (positive : 0 < arity) :
    (∃ builder, TupleBuilder.new arity = .ok builder ∧
      ∀ calls, (builder.after calls).Reflects arity calls) ∧
    (∃ builder, NamedTupleBuilder.new arity = .ok builder ∧
      ∀ calls, (builder.after calls).Reflects arity calls) := by
  refine ⟨?_, ?_⟩
  · have isNew := TupleBuilder.new_eq_ok_iff.mpr ⟨positive, rfl⟩
    refine ⟨_, isNew, ?_⟩
    intro calls
    have holds := TupleBuilder.holdsLast_after (TupleBuilder.holdsLast_of_new isNew) calls
    exact TupleBuilder.reflects_of_holdsLast holds
  · have isNew := NamedTupleBuilder.new_eq_ok_iff.mpr ⟨positive, rfl⟩
    refine ⟨_, isNew, ?_⟩
    intro calls
    have holds := (NamedTupleBuilder.HoldsLast.of_new isNew).after calls
    exact NamedTupleBuilder.reflects_of_holdsLast holds

/-- The second field gets a name and two types. The empty name and the third field are refused, and
the first field stays unset. -/
theorem builders_hold_last_writes_pair :
    let calls : List NamedTupleBuilder.Call :=
      [.setName 1 "y", .setType 1 .int, .setName 1 "", .setType 2 .null, .setType 1 .bool]
    0 < 2 ∧ NamedTupleBuilder.namesWritten 2 calls 1 = [⟨"y"⟩] ∧
      NamedTupleBuilder.typesWritten 2 calls 1 = [.int, .bool] ∧
        NamedTupleBuilder.namesWritten 2 calls 0 = [] ∧
          ∃ builder, NamedTupleBuilder.new 2 = .ok builder ∧
            (builder.after calls).Reflects 2 calls := by
  intro calls
  refine ⟨by decide, rfl, rfl, rfl, ?_⟩
  obtain ⟨builder, isNew, reflects⟩ := (builders_hold_last_writes 2 (by decide)).2
  exact ⟨builder, isNew, reflects calls⟩

end MachineTypes
