import Mathlib.Data.List.Lex
import Mathlib.Data.List.Nodup
import MachineTypes.Proofs.Subtype.Diagnosis
import MachineTypes.Proofs.Ty.Nodes

/-!
# `MachineTypes.Proofs.Subtype.Walk`: a check visits each position at most once

The comparisons of a check are those that its events begin. Where a comparison stands is read off
the events alone: it is the next child of the comparison around it (`begunComparisons`). `Visits`
says that the comparisons begun are about the parts of the two types at these positions, and that
the positions come in the order of a walk. `visits_events` proves it along the tree of comparisons.
A comparison that was begun a second time would stand at the position of the next child, and there
the two types have other parts or none.

The bounds follow from positions alone. Different positions are at most as many as the nodes of
either type (`Ty.length_le_nodeCount`). Comparisons that are open at once stand one below the other
(`Stacked`), so the innermost has a position as long as there are comparisons around it, and no
position is longer than the height of either type (`Ty.length_le_height`).
-/

set_option autoImplicit false

namespace MachineTypes

open OpenComparison (step nextPosition countEnded begunInside)

/-! ### Comparisons of any stream -/

namespace OpenComparison

/-- What begins in a stream and then in a later one: the later one begins with what the first has
left open. -/
theorem begunInside_append (opened : List OpenComparison) (stream later : List CheckEvent) :
    begunInside opened (stream ++ later)
      = begunInside opened stream ++ begunInside (stream.foldl step opened) later := by
  -- For every list of open comparisons, which the first event changes.
  induction stream generalizing opened with
  | nil => rfl
  | cons event rest ih => cases event <;> simp [begunInside, ih]

/-- Each `enter` begins one comparison. -/
theorem length_begunInside (opened : List OpenComparison) (stream : List CheckEvent) :
    (begunInside opened stream).length = stream.countP CheckEvent.isEnter := by
  induction stream generalizing opened with
  | nil => rfl
  | cons event rest ih =>
    cases event <;> simp [begunInside, List.countP_cons, CheckEvent.isEnter, ih]

/-- The comparisons stand one below the other: as many are around each as its position is long. -/
def Stacked : List OpenComparison → Prop
  | [] => True
  | inner :: outer => inner.position.length = outer.length ∧ Stacked outer

/-- To count an ended child moves no comparison. -/
theorem stacked_countEnded {opened : List OpenComparison} (stacked : Stacked opened) :
    Stacked (countEnded opened) := by
  cases opened <;> exact stacked

/-- A comparison that begins is one level below the innermost one, and one that ends was the
innermost. -/
theorem stacked_step {opened : List OpenComparison} (stacked : Stacked opened)
    (event : CheckEvent) : Stacked (step opened event) := by
  cases event with
  | enter sub sup =>
    refine ⟨?_, stacked⟩
    cases opened with
    | nil => rfl
    | cons parent outer => simp [nextPosition, stacked.1]
  | mismatch why => exact stacked
  | exit accepted =>
    refine stacked_countEnded ?_
    cases opened with
    | nil => exact stacked
    | cons parent outer => exact stacked.2

/-- Whatever the events are, the open comparisons stand one below the other. -/
theorem stacked_foldl_step {opened : List OpenComparison} (stacked : Stacked opened)
    (stream : List CheckEvent) : Stacked (stream.foldl step opened) := by
  induction stream generalizing opened with
  | nil => exact stacked
  | cons event rest ih => exact ih (stacked_step stacked event)

/-- An event opens no comparison but the one that it begins. -/
theorem positions_step_subset (opened : List OpenComparison) (event : CheckEvent) :
    (step opened event).map (·.position)
      ⊆ opened.map (·.position) ++ (begunInside opened [event]).map (·.position) := by
  cases event with
  | enter sub sup => simp [step, begunInside]
  | mismatch why => simp [step, begunInside]
  | exit accepted =>
    cases opened with
    | nil => simp [step, begunInside, countEnded]
    | cons inner outer =>
      cases outer <;> simp [step, begunInside, countEnded]

/-- Whatever is open after a stream was open before, or was begun in it. -/
theorem positions_foldl_step_subset (opened : List OpenComparison) (stream : List CheckEvent) :
    (stream.foldl step opened).map (·.position)
      ⊆ opened.map (·.position) ++ (begunInside opened stream).map (·.position) := by
  induction stream generalizing opened with
  | nil => simp
  | cons event rest ih =>
    have split := begunInside_append opened [event] rest
    rw [List.singleton_append] at split
    rw [split, List.map_append, ← List.append_assoc]
    intro position mem
    cases List.mem_append.mp (ih (step opened event) mem) with
    | inl now => exact List.mem_append_left _ (positions_step_subset opened event now)
    | inr later => exact List.mem_append_right _ later

/-- If no position at which a comparison begins is longer than a bound, so many comparisons and one
more are open at once at most. -/
theorem length_openComparisons_le {stream : List CheckEvent} {bound : Nat}
    (short : ∀ comparison ∈ begunComparisons stream, comparison.position.length ≤ bound) :
    (openComparisons stream).length ≤ bound + 1 := by
  have stacked : Stacked (openComparisons stream) :=
    stacked_foldl_step (show Stacked [] from trivial) stream
  have begun := positions_foldl_step_subset [] stream
  change (openComparisons stream).map _ ⊆ (begunComparisons stream).map _ at begun
  -- The innermost comparison has a position as long as the number of comparisons around it, and it
  -- has begun in the stream.
  cases opened : openComparisons stream with
  | nil => simp
  | cons inner outer =>
    rw [opened] at stacked begun
    obtain ⟨comparison, mem, same⟩ := List.mem_map.mp (begun List.mem_cons_self)
    have within := short comparison mem
    rw [same, stacked.1] at within
    exact Nat.succ_le_succ within

/-- What has begun by some moment has begun by the end. -/
theorem begunComparisons_subset_of_isPrefix {before stream : List CheckEvent}
    (isBefore : before <+: stream) : begunComparisons before ⊆ begunComparisons stream := by
  obtain ⟨later, rfl⟩ := isBefore
  rw [begunComparisons, begunComparisons, begunInside_append]
  exact List.subset_append_left _ _

end OpenComparison

/-! ### Positions in order -/

/-- Below one position, what is in an earlier child comes before what is in a later one. -/
theorem append_cons_lt {base position position' : List Nat} {index index' : Nat}
    (lower : index < index') : base ++ index :: position < base ++ index' :: position' :=
  List.Lex.append_left _ (.rel lower) base

/-- A position comes before all that are below it. -/
theorem lt_append_cons {base position : List Nat} {index : Nat} :
    base < base ++ index :: position := by
  have below := List.Lex.append_left (· < ·) (List.Lex.nil (a := index) (l := position)) base
  rwa [List.append_nil] at below

namespace Ty

/-! ### The comparisons of a check -/

/-- Comparisons that begin at a position or below it are about the parts of two types at their
positions, and come in the order of a walk. -/
structure Visits (base : List Nat) (sub sup : Ty) (begun : List OpenComparison) : Prop where
  shared : ∀ comparison ∈ begun, ∃ position, comparison.position = base ++ position ∧
    SharedPosition sub sup position comparison.sub comparison.sup
  ordered : begun.Pairwise fun earlier later => earlier.position < later.position

/-- Comparisons that begin in the children at a position, from one index on, are about the parts of
pairs of types, and come in the order of a walk. -/
structure VisitsPairs (base : List Nat) (index : Nat) (pairs : List (Ty × Ty))
    (begun : List OpenComparison) : Prop where
  shared : ∀ comparison ∈ begun, ∃ offset pair position, pairs[offset]? = some pair ∧
    comparison.position = base ++ (index + offset) :: position ∧
    SharedPosition pair.1 pair.2 position comparison.sub comparison.sup
  ordered : begun.Pairwise fun earlier later => earlier.position < later.position

/-- The check of the first pair comes before the checks of the others, which are one child further
on. -/
theorem VisitsPairs.cons {base : List Nat} {index : Nat} {pair : Ty × Ty} {rest : List (Ty × Ty)}
    {here later : List OpenComparison} (first : Visits (base ++ [index]) pair.1 pair.2 here)
    (others : VisitsPairs base (index + 1) rest later) :
    VisitsPairs base index (pair :: rest) (here ++ later) := by
  have inFirst : ∀ comparison ∈ here, ∃ position,
      comparison.position = base ++ index :: position ∧
        SharedPosition pair.1 pair.2 position comparison.sub comparison.sup := by
    intro comparison mem
    obtain ⟨position, stands, shared⟩ := first.shared comparison mem
    exact ⟨position, by simpa using stands, shared⟩
  constructor
  · intro comparison mem
    cases List.mem_append.mp mem with
    | inl mem =>
      obtain ⟨position, stands, shared⟩ := inFirst comparison mem
      exact ⟨0, pair, position, rfl, stands, shared⟩
    | inr mem =>
      obtain ⟨offset, other, position, found, stands, shared⟩ := others.shared comparison mem
      refine ⟨offset + 1, other, position, found, ?_, shared⟩
      rw [stands, Nat.add_right_comm, Nat.add_assoc]
  · refine List.pairwise_append.mpr ⟨first.ordered, others.ordered, ?_⟩
    intro earlier mem next mem'
    obtain ⟨position, stands, -⟩ := inFirst earlier mem
    obtain ⟨offset, other, position', -, stands', -⟩ := others.shared next mem'
    rw [stands, stands']
    exact append_cons_lt (by omega)

/-- Checks that are made one after the other inside a comparison. -/
theorem visitsPairs_eventsOfPairs {pairs : List (Ty × Ty)}
    (each : ∀ pair ∈ pairs, ∀ opened,
      Visits (nextPosition opened) pair.1 pair.2 (begunInside opened (events pair.1 pair.2)))
    (parent : OpenComparison) (outer : List OpenComparison) :
    VisitsPairs parent.position parent.ended pairs
      (begunInside (parent :: outer) (eventsOfPairs pairs)) := by
  induction pairs generalizing parent with
  | nil => exact ⟨List.forall_mem_nil _, List.Pairwise.nil⟩
  | cons pair rest ih =>
    obtain ⟨head, tail⟩ := List.forall_mem_cons.mp each
    rw [eventsOfPairs, List.flatMap_cons, OpenComparison.begunInside_append, foldl_step_events]
    -- The check of the pair has ended inside the parent, so the next begins at the next child.
    exact .cons (head (parent :: outer)) (ih tail { parent with ended := parent.ended + 1 })

/-- The pairs that are compared are the first child pairs. -/
theorem untilRejected_isPrefix (pairs : List (Ty × Ty)) : untilRejected pairs <+: pairs := by
  -- Either the others are compared too, or the list ends with the first pair.
  induction pairs with
  | nil => exact List.prefix_rfl
  | cons pair rest ih =>
    rw [untilRejected]
    split
    · exact (List.prefix_cons_inj pair).mpr ih
    · exact (List.prefix_cons_inj pair).mpr List.nil_prefix

/-- What is found among the first pairs is found among all of them. -/
theorem VisitsPairs.of_isPrefix {base : List Nat} {index : Nat} {pairs all : List (Ty × Ty)}
    {begun : List OpenComparison} (first : pairs <+: all)
    (visits : VisitsPairs base index pairs begun) : VisitsPairs base index all begun := by
  refine ⟨?_, visits.ordered⟩
  intro comparison mem
  obtain ⟨offset, pair, position, found, below⟩ := visits.shared comparison mem
  obtain ⟨more, rfl⟩ := first
  have lower : offset < pairs.length := (List.getElem?_eq_some_iff.mp found).1
  exact ⟨offset, pair, position, (List.getElem?_append_left lower).trans found, below⟩

/-- A comparison comes before those of its children. -/
theorem Visits.node {base : List Nat} {sub sup : Ty} {below : List OpenComparison}
    (children : VisitsPairs base 0 (childPairs sub sup) below) :
    Visits base sub sup (⟨sub, sup, base, 0⟩ :: below) := by
  constructor
  · intro comparison mem
    cases List.mem_cons.mp mem with
    | inl same =>
      subst same
      exact ⟨[], by simp, sharedPosition_nil_iff.mpr ⟨rfl, rfl⟩⟩
    | inr mem =>
      obtain ⟨offset, pair, position, found, stands, shared⟩ := children.shared comparison mem
      rw [Nat.zero_add] at stands
      exact ⟨offset :: position, stands,
        sharedPosition_cons_iff_childPairs.mpr ⟨pair, found, shared⟩⟩
  · refine List.pairwise_cons.mpr ⟨?_, children.ordered⟩
    intro comparison mem
    obtain ⟨offset, pair, position, -, stands, -⟩ := children.shared comparison mem
    rw [stands]
    exact lt_append_cons

/-- The comparisons that a check begins, wherever it begins itself. -/
theorem visits_events (sub sup : Ty) (opened : List OpenComparison) :
    Visits (nextPosition opened) sub sup (begunInside opened (events sub sup)) := by
  induction sub using ind_children generalizing sup opened with
  | node sub ih =>
    have ends : ∀ opened, begunInside opened [.exit (sub.isSubtype sup)] = [] := fun _ => rfl
    rw [events_eq, comparisonEvents, OpenComparison.begunInside_append, ends, List.append_nil]
    refine .node ?_
    cases sub.mismatch? sup with
    | some why => exact ⟨List.forall_mem_nil _, List.Pairwise.nil⟩
    | none =>
      refine .of_isPrefix (untilRejected_isPrefix (childPairs sub sup)) ?_
      refine visitsPairs_eventsOfPairs ?_ ⟨sub, sup, nextPosition opened, 0⟩ opened
      intro pair mem opened
      have inside := mem_children_of_mem_childPairs (mem_of_mem_untilRejected mem)
      exact ih pair.1 inside pair.2 opened

/-- The positions of the comparisons that a check begins are all different, are positions of both
types, with the parts that are compared, and come in the order of a walk from the root and from left
to right. So no more comparisons begin than either type has nodes, and at no moment more of them are
open than there are nodes on the longest way down in either type. -/
theorem checkRecorded_visits (sub sup : Ty) :
    let stream := (sub.checkRecorded sup).2.toList
    let positions := (begunComparisons stream).map (·.position)
    positions.Nodup ∧ positions.Pairwise (· < ·) ∧
      (∀ comparison ∈ begunComparisons stream,
        SharedPosition sub sup comparison.position comparison.sub comparison.sup) ∧
      (begunComparisons stream).length = stream.countP CheckEvent.isEnter ∧
      stream.countP CheckEvent.isEnter ≤ min sub.nodeCount sup.nodeCount ∧
      ∀ before, before <+: stream →
        (openComparisons before).length ≤ min (sub.height + 1) (sup.height + 1) := by
  intro stream positions
  have isEvents : stream = events sub sup := by
    show (sub.checkRecorded sup).2.toList = events sub sup
    rw [checkRecorded_eq]
  have visits : Visits [] sub sup (begunComparisons stream) := by
    rw [isEvents]
    exact visits_events sub sup []
  have shared : ∀ comparison ∈ begunComparisons stream,
      SharedPosition sub sup comparison.position comparison.sub comparison.sup := by
    intro comparison mem
    obtain ⟨position, stands, shared⟩ := visits.shared comparison mem
    rw [stands]
    exact shared
  have ordered : positions.Pairwise (· < ·) := List.pairwise_map.mpr visits.ordered
  have nodup : positions.Nodup := ordered.nodup
  have count : (begunComparisons stream).length = stream.countP CheckEvent.isEnter :=
    OpenComparison.length_begunInside [] stream
  refine ⟨nodup, ordered, shared, count, ?_, ?_⟩
  · have inSub : positions.length ≤ sub.nodeCount := by
      refine length_le_nodeCount nodup (List.forall_mem_map.mpr fun comparison mem => ?_)
      exact ⟨comparison.sub, (shared comparison mem).sub_at⟩
    have inSup : positions.length ≤ sup.nodeCount := by
      refine length_le_nodeCount nodup (List.forall_mem_map.mpr fun comparison mem => ?_)
      exact ⟨comparison.sup, (shared comparison mem).sup_at⟩
    rw [← count, ← List.length_map (·.position)]
    exact Nat.le_min.mpr ⟨inSub, inSup⟩
  · intro before isBefore
    have short : ∀ comparison ∈ begunComparisons before,
        comparison.position.length ≤ min sub.height sup.height := by
      intro comparison mem
      have sharedHere := shared comparison
        (OpenComparison.begunComparisons_subset_of_isPrefix isBefore mem)
      exact Nat.le_min.mpr
        ⟨length_le_height sharedHere.sub_at, length_le_height sharedHere.sup_at⟩
    have atOnce := OpenComparison.length_openComparisons_le short
    omega

/-- Both bounds can be reached: all four nodes of the second type are compared, and three
comparisons are open after the first three events. -/
theorem checkRecorded_visits_map :
    let sub := map (seq null) (tuple [int])
    let sup := map (seq event) any
    let stream := (sub.checkRecorded sup).2.toList
    ⟨null, event, [0, 0], 0⟩ ∈ begunComparisons stream ∧
      SharedPosition sub sup [0, 0] null event ∧
      stream.countP CheckEvent.isEnter = 4 ∧ 4 ≤ min sub.nodeCount sup.nodeCount ∧
      stream.take 3 <+: stream ∧ (openComparisons (stream.take 3)).length = 3 ∧
      3 ≤ min (sub.height + 1) (sup.height + 1) := by
  intro sub sup stream
  obtain ⟨-, -, shared, -, nodes, atOnce⟩ := checkRecorded_visits sub sup
  have begun : begunComparisons stream
      = [⟨sub, sup, [], 0⟩, ⟨seq null, seq event, [0], 0⟩, ⟨null, event, [0, 0], 0⟩,
          ⟨tuple [int], any, [1], 0⟩] := rfl
  have mem : ⟨null, event, [0, 0], 0⟩ ∈ begunComparisons stream := by
    rw [begun]
    simp
  have start : stream.take 3 <+: stream := List.take_prefix 3 stream
  exact ⟨mem, shared _ mem, rfl, nodes, start, rfl, atOnce _ start⟩

end Ty

end MachineTypes
