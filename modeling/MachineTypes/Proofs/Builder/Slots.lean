import MachineTypes.Builder.Calls
import MachineTypes.Proofs.Outcome

/-!
# `MachineTypes.Proofs.Builder.Slots`: what a row of slots holds

`isFull_iff`, `get?_of_collect` and `get?_of_collect_error` say by index when a row is full, what is
collected from it, and which slot is reported when one is missing.

`HoldsLast` is the invariant of a row under writes in any order: each slot holds the last of the
values written to it. It is kept by every call on a builder, whether the call is refused, is for
another row, or writes to this one.

The invariant is stated over what was written to each index and not over the calls, so that one
lemma serves the rows of both builders: a builder of named tuples has two rows, and a call is for
one of them. `HoldsLast.keep` covers the calls that are refused or are for another row, and
`HoldsLast.write` covers the others.
-/

set_option autoImplicit false

namespace MachineTypes.Slots

variable {α : Type}

/-! ### Full rows and first unset slots -/

/-- The list of entries is as long as the row. -/
theorem length_toList (slots : Slots α) : slots.entries.toList.length = slots.size :=
  Array.length_toList

/-- Reading a slot is reading the list of entries, where a slot that does not exist and one that is
unset look the same. -/
theorem getElem?_toList_join (slots : Slots α) (index : Nat) :
    slots.entries.toList[index]?.join = slots.get? index := by
  rw [get?, Array.getElem?_toList]

/-- A row is full exactly when every slot of it is set. -/
theorem isFull_iff {slots : Slots α} :
    slots.isFull ↔ ∀ index < slots.size, (slots.get? index).isSome := by
  rw [isFull, Array.all_eq_true]
  refine forall₂_congr ?_
  intro index inRange
  rw [get?, Array.getElem?_eq_getElem inRange, Option.join_some]

/-- A set slot is put before what is collected from the rest, and the rest decides whether that is a
value or an error. -/
theorem collectFrom_cons (error : Nat → TypeError) (start : Nat) (value : α)
    (rest : List (Option α)) :
    collectFrom error start (some value :: rest)
      = (collectFrom error (start + 1) rest).map (value :: ·) := by
  rw [collectFrom]
  cases collectFrom error (start + 1) rest <;> rfl

/-- If all is collected, every slot was set, and the values are what is in them. -/
theorem eq_map_of_collectFrom {error : Nat → TypeError} {start : Nat} {entries : List (Option α)}
    {values : List α} (collected : collectFrom error start entries = .ok values) :
    entries = values.map some := by
  -- For every start: the slots of the rest are numbered from one further on.
  induction entries generalizing start values with
  | nil =>
    cases collected
    rfl
  | cons entry rest ih =>
    cases entry with
    | none => cases collected
    | some value =>
      rw [collectFrom_cons] at collected
      obtain ⟨others, restCollected, rfl⟩ := map_eq_ok_iff.mp collected
      rw [ih restCollected, List.map_cons]

/-- The slot that is reported is unset, and all before it are set. -/
theorem split_of_collectFrom {error : Nat → TypeError} {start : Nat} {entries : List (Option α)}
    {reported : TypeError} (failed : collectFrom error start entries = .error reported) :
    ∃ (before : List α) (rest : List (Option α)),
      entries = before.map some ++ none :: rest ∧ reported = error (start + before.length) := by
  induction entries generalizing start with
  | nil => cases failed
  | cons entry rest ih =>
    cases entry with
    | none =>
      cases failed
      exact ⟨[], rest, rfl, rfl⟩
    | some value =>
      rw [collectFrom_cons, map_eq_error_iff] at failed
      obtain ⟨before, rest, rfl, rfl⟩ := ih failed
      refine ⟨value :: before, rest, rfl, ?_⟩
      rw [List.length_cons]
      congr 1
      omega

/-- The values that are collected are those of the slots, in order. -/
theorem get?_of_collect {error : Nat → TypeError} {slots : Slots α} {values : List α}
    (collected : slots.collect error = .ok values) :
    values.length = slots.size ∧ ∀ index, slots.get? index = values[index]? := by
  have entries := eq_map_of_collectFrom collected
  refine ⟨?_, ?_⟩
  · rw [← length_toList, entries, List.length_map]
  · intro index
    rw [← getElem?_toList_join, entries, List.getElem?_map]
    cases values[index]? <;> rfl

/-- What is reported is the first unset slot. -/
theorem get?_of_collect_error {error : Nat → TypeError} {slots : Slots α} {reported : TypeError}
    (failed : slots.collect error = .error reported) :
    ∃ index < slots.size, slots.get? index = none ∧
      (∀ earlier < index, (slots.get? earlier).isSome) ∧ reported = error index := by
  obtain ⟨before, rest, entries, rfl⟩ := split_of_collectFrom failed
  refine ⟨before.length, ?_, ?_, ?_, by rw [Nat.zero_add]⟩
  · rw [← length_toList, entries, List.length_append, List.length_map, List.length_cons]
    omega
  · rw [← getElem?_toList_join, entries, List.getElem?_append_right (by simp)]
    simp
  · intro earlier isEarlier
    rw [← getElem?_toList_join, entries, List.getElem?_append_left (by simpa using isEarlier)]
    simp [isEarlier]

/-! ### The last of many writes -/

section
variable {Call : Type} {error? : Call → Option TypeError} {value? : Nat → Call → Option α}
  {call : Call}

/-- An accepted call writes its value after those of the calls before it. -/
theorem writtenBy_concat (isAccepted : error? call = none) (calls : List Call) (index : Nat) :
    writtenBy error? value? (calls ++ [call]) index
      = writtenBy error? value? calls index ++ (value? index call).toList := by
  have counts : [call].filter (fun call => (error? call).isNone) = [call] := by
    simp [isAccepted]
  have adds : [call].filterMap (value? index) = (value? index call).toList := by
    cases found : value? index call <;> simp [found]
  rw [writtenBy, List.filter_append, List.filterMap_append, counts, adds, writtenBy]

/-- Refused calls and calls without a value write nothing. -/
theorem writtenBy_concat_of_none
    (writesNothing : error? call ≠ none ∨ ∀ index, value? index call = none)
    (calls : List Call) (index : Nat) :
    writtenBy error? value? (calls ++ [call]) index = writtenBy error? value? calls index := by
  -- A refused call is dropped by the filter, and an accepted one without a value by what follows
  -- it.
  by_cases isAccepted : error? call = none
  · have noValue := writesNothing.resolve_left (fun isRefused => isRefused isAccepted)
    rw [writtenBy_concat isAccepted, noValue, Option.toList_none, List.append_nil]
  · have dropped : [call].filter (fun call => (error? call).isNone) = [] := by
      simpa using isAccepted
    rw [writtenBy, List.filter_append, dropped, List.append_nil, writtenBy]

end

/-- The row has the given size, and each slot of it holds the last of the values written to it. -/
structure HoldsLast (slots : Slots α) (size : Nat) (written : Nat → List α) : Prop where
  size_eq : slots.size = size
  get?_eq : ∀ index < size, slots.get? index = (written index).getLast?

/-- Before the first call no slot is written. -/
theorem holdsLast_unset {Call : Type} (size : Nat) (error? : Call → Option TypeError)
    (value? : Nat → Call → Option α) :
    (unset size : Slots α).HoldsLast size (writtenBy error? value? []) where
  size_eq := size_unset size
  get?_eq := fun index _ => get?_unset size index

namespace HoldsLast

variable {slots : Slots α} {size : Nat} {written : Nat → List α}

/-- A row is full exactly when every slot was written. -/
theorem isFull_iff (holds : slots.HoldsLast size written) :
    slots.isFull ↔ ∀ index < size, written index ≠ [] := by
  rw [Slots.isFull_iff, holds.size_eq]
  refine forall₂_congr ?_
  intro index inRange
  rw [holds.get?_eq index inRange, List.getLast?_isSome]

/-- The values that are collected are those written last, one for each slot. -/
theorem of_collect (holds : slots.HoldsLast size written) {error : Nat → TypeError}
    {values : List α} (collected : slots.collect error = .ok values) :
    values.length = size ∧ ∀ index < size, values[index]? = (written index).getLast? := by
  obtain ⟨length, get⟩ := get?_of_collect collected
  refine ⟨length.trans holds.size_eq, ?_⟩
  intro index inRange
  rw [← get, holds.get?_eq index inRange]

/-- If collecting fails, the slot that is reported was never written, and all before it were. -/
theorem of_collect_error (holds : slots.HoldsLast size written) {error : Nat → TypeError}
    {reported : TypeError} (failed : slots.collect error = .error reported) :
    ∃ index < size, FirstUnwritten written index ∧ reported = error index := by
  obtain ⟨index, inRange, isUnset, before, rfl⟩ := get?_of_collect_error failed
  rw [holds.size_eq] at inRange
  rw [holds.get?_eq index inRange, List.getLast?_eq_none_iff] at isUnset
  refine ⟨index, inRange, ⟨isUnset, ?_⟩, rfl⟩
  intro earlier isEarlier
  have isSet := before earlier isEarlier
  rwa [holds.get?_eq earlier (by omega), List.getLast?_isSome] at isSet

/-- Values are collected exactly when every slot was written. -/
theorem collect_ok_iff (holds : slots.HoldsLast size written) (error : Nat → TypeError) :
    (∃ values, slots.collect error = .ok values) ↔ ∀ index < size, written index ≠ [] := by
  cases outcome : slots.collect error with
  | ok values =>
    obtain ⟨length, get⟩ := holds.of_collect outcome
    refine iff_of_true ⟨values, rfl⟩ ?_
    intro index inRange
    have isSome : ((written index).getLast?).isSome := by
      rw [← get index inRange, List.getElem?_eq_getElem (by omega)]
      rfl
    rwa [List.getLast?_isSome] at isSome
  | error reported =>
    obtain ⟨index, inRange, ⟨isUnset, _⟩, rfl⟩ := holds.of_collect_error outcome
    refine iff_of_false ?_ ?_
    · rintro ⟨values, impossible⟩
      cases impossible
    · intro allWritten
      exact allWritten index inRange isUnset

section
variable {Call : Type} {error? : Call → Option TypeError} {value? : Nat → Call → Option α}
  {calls : List Call} {call : Call}

/-- A call that writes nothing to the row leaves what it holds. -/
theorem keep (holds : slots.HoldsLast size (writtenBy error? value? calls))
    (writesNothing : error? call ≠ none ∨ ∀ index, value? index call = none) :
    slots.HoldsLast size (writtenBy error? value? (calls ++ [call])) := by
  refine ⟨holds.size_eq, ?_⟩
  intro index inRange
  rw [writtenBy_concat_of_none writesNothing, holds.get?_eq index inRange]

/-- An accepted call adds its value to those of the slot it is for. -/
theorem write (holds : slots.HoldsLast size (writtenBy error? value? calls))
    (isAccepted : error? call = none) {index : Nat} {value : α} (inRange : index < size)
    (value_eq : ∀ other, value? other call = if other = index then some value else none) :
    (slots.set index value).HoldsLast size (writtenBy error? value? (calls ++ [call])) := by
  refine ⟨by rw [size_set, holds.size_eq], ?_⟩
  intro other otherInRange
  rw [get?_set _ (by rw [holds.size_eq]; exact inRange), writtenBy_concat isAccepted, value_eq]
  -- In the slot of the call the new value comes last. The others read as before on both sides.
  by_cases isHere : other = index
  · rw [if_pos isHere, if_pos isHere, Option.toList_some, List.getLast?_concat]
  · rw [if_neg isHere, if_neg isHere, Option.toList_none, List.append_nil,
      holds.get?_eq other otherInRange]

end

end HoldsLast

end MachineTypes.Slots
