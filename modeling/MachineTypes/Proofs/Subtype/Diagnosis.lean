import MachineTypes.Proofs.Subtype.EventStream
import MachineTypes.Proofs.Subtype.Rules
import MachineTypes.Subtype.Diagnosis

/-!
# `MachineTypes.Proofs.Subtype.Diagnosis`: a rejection is diagnosed once

`checkRecorded_diagnosis` reads the events of a check. If the check accepts, nothing in them speaks
against it. If it rejects, they name one position, the first in the order of the walk where the two
nodes do not fit, and one true reason. The check stops there: what follows are the rejections of
the comparisons around it.

The proof goes down to the pair that is rejected. A pair whose nodes do not fit is blamed itself
(`Blame.root`), otherwise the first rejected pair of children is blamed (`Blame.child`). `Blame`
says what the events do to the comparisons that are open already, since the check of a child
begins inside that of its parent. The children before it are walked by `foldl_step_events`: a whole
check opens what it closes.
-/

set_option autoImplicit false

namespace MachineTypes

/-! ### Mismatches are true of the nodes -/

namespace Mismatch

/-- What is reported of two numbers of fields are these numbers, and only if they differ. -/
theorem ofArities?_eq_some_iff {sub sup : Nat} {why : Mismatch} :
    ofArities? sub sup = some why ↔ sub ≠ sup ∧ why = .arity sub sup := by
  unfold ofArities?
  split <;> simp_all [eq_comm]

/-- The difference that is found is the first one. -/
theorem ofNames?_eq_some_iff {start : Nat} {subs sups : List String} {why : Mismatch} :
    ofNames? start subs sups = some why ↔
      ∃ offset sub sup, why = .fieldName (start + offset) sub sup ∧ subs[offset]? = some sub ∧
        sups[offset]? = some sup ∧ sub ≠ sup ∧
        ∀ earlier < offset, subs[earlier]? = sups[earlier]? := by
  -- For every start: a difference in the rest is one place further on from the start.
  induction subs generalizing start sups with
  | nil => simp [ofNames?]
  | cons head rest ih =>
    cases sups with
    | nil => simp [ofNames?]
    | cons head' rest' =>
      rw [ofNames?]
      by_cases same : head = head'
      · rw [if_pos same, ih]
        constructor
        · rintro ⟨offset, sub, sup, rfl, found, found', differ, before⟩
          refine ⟨offset + 1, sub, sup, by congr 1; omega, found, found', differ, ?_⟩
          intro earlier lower
          cases earlier with
          | zero => simp [same]
          | succ earlier => exact before earlier (by omega)
        · rintro ⟨offset, sub, sup, rfl, found, found', differ, before⟩
          cases offset with
          | zero =>
            -- The heads are equal, so they are not the difference.
            cases found
            cases found'
            exact absurd same differ
          | succ offset =>
            refine ⟨offset, sub, sup, by congr 1; omega, found, found', differ, ?_⟩
            intro earlier lower
            exact before (earlier + 1) (by omega)
      · rw [if_neg same]
        constructor
        · intro found
          cases found
          exact ⟨0, head, head', rfl, rfl, rfl, same, by simp⟩
        · rintro ⟨offset, sub, sup, rfl, found, found', differ, before⟩
          cases offset with
          | zero =>
            cases found
            cases found'
            rfl
          | succ offset =>
            have heads := before 0 (by omega)
            exact absurd (Option.some.inj heads) same

end Mismatch

namespace Ty

/-- Nodes of different kinds do not fit, but for `any` above and for `null` below. -/
theorem mismatch?_of_kind_ne {sub sup : Ty} (differ : sub.kind ≠ sup.kind) :
    sub.mismatch? sup
      = if sup.kind = .any ∨ sub.kind = .null ∧ sup.kind.acceptsNull then none
        else some (.kind sub.kind sup.kind) := by
  cases sub <;> cases sup <;> first | rfl | exact absurd rfl differ

/-- Two lists of fields with the first difference of their names. -/
theorem ofNames?_fields_eq_some_iff {subs sups : List (Field Ty)} {why : Mismatch} :
    Mismatch.ofNames? 0 (subs.map (·.name.text)) (sups.map (·.name.text)) = some why ↔
      ∃ index sub sup, why = .fieldName index sub.name.text sup.name.text ∧
        subs[index]? = some sub ∧ sups[index]? = some sup ∧ sub.name ≠ sup.name ∧
        ∀ earlier < index, (subs.map (·.name))[earlier]? = (sups.map (·.name))[earlier]? := by
  have sameTexts : ∀ index : Nat,
      (subs.map (·.name.text))[index]? = (sups.map (·.name.text))[index]? ↔
        (subs.map (·.name))[index]? = (sups.map (·.name))[index]? := by
    intro index
    rw [map_text, map_text, List.getElem?_map (f := FieldName.text),
      List.getElem?_map (f := FieldName.text)]
    exact (Option.map_injective FieldName.text_injective).eq_iff
  rw [Mismatch.ofNames?_eq_some_iff]
  simp only [sameTexts, Nat.zero_add]
  constructor
  · rintro ⟨index, _, _, rfl, left, right, differ, before⟩
    rw [List.getElem?_map, Option.map_eq_some_iff] at left right
    obtain ⟨sub, left, rfl⟩ := left
    obtain ⟨sup, right, rfl⟩ := right
    exact ⟨index, sub, sup, rfl, left, right, fun same => differ (congrArg _ same), before⟩
  · rintro ⟨index, sub, sup, rfl, left, right, differ, before⟩
    refine ⟨index, _, _, rfl, ?_, ?_, fun same => differ (FieldName.text_injective same), before⟩
    · rw [List.getElem?_map, left]
      rfl
    · rw [List.getElem?_map, right]
      rfl

/-- The check of two nodes finds exactly the mismatches that are true of them. -/
theorem mismatch?_eq_some_iff {sub sup : Ty} {why : Mismatch} :
    sub.mismatch? sup = some why ↔ why.Describes sub sup := by
  constructor
  · intro found
    by_cases same : sub.kind = sup.kind
    · cases sub <;> cases sup
      case tuple.tuple subs sups =>
        obtain ⟨differ, rfl⟩ := Mismatch.ofArities?_eq_some_iff.mp found
        exact .arity differ
      case namedTuple.namedTuple subs sups =>
        rw [mismatch?, Option.or_eq_some_iff] at found
        rcases found with arities | ⟨arities, names⟩
        · obtain ⟨differ, rfl⟩ := Mismatch.ofArities?_eq_some_iff.mp arities
          exact .namedArity differ
        · have length := Mismatch.ofArities?_eq_none_iff.mp arities
          obtain ⟨index, sub, sup, rfl, left, right, differ, before⟩ :=
            ofNames?_fields_eq_some_iff.mp names
          exact .fieldName index sub sup length left right differ before
      -- All other nodes of one kind fit.
      all_goals simp [mismatch?, kind, Kind.acceptsNull] at same found
    · rw [mismatch?_of_kind_ne same] at found
      split at found
      · cases found
      · rename_i noExcuse
        cases found
        exact .kind same (fun top => noExcuse (.inl top)) fun null => noExcuse (.inr null)
  · intro describes
    cases describes with
    | kind differ noTop noNull =>
      rw [mismatch?_of_kind_ne differ, if_neg]
      rintro (top | null)
      · exact noTop top
      · exact noNull null
    | arity differ => exact Mismatch.ofArities?_eq_some_iff.mpr ⟨differ, rfl⟩
    | namedArity differ =>
      have arities := Mismatch.ofArities?_eq_some_iff.mpr ⟨differ, rfl⟩
      rw [mismatch?, arities, Option.some_or]
    | fieldName index sub sup length left right differ before =>
      rw [mismatch?, Mismatch.ofArities?_eq_none_iff.mpr length, Option.none_or]
      exact ofNames?_fields_eq_some_iff.mpr ⟨index, sub, sup, rfl, left, right, differ, before⟩

/-- Nodes fit exactly when no mismatch is true of them. -/
theorem mismatch?_eq_none_iff {sub sup : Ty} :
    sub.mismatch? sup = none ↔ ∀ why : Mismatch, ¬ why.Describes sub sup := by
  rw [Option.eq_none_iff_forall_ne_some]
  exact forall_congr' fun why => not_congr mismatch?_eq_some_iff

/-! ### Verdicts, nodes and positions -/

/-- A check accepts exactly when the nodes fit and every pair of children is accepted. -/
theorem isSubtype_iff_childPairs {sub sup : Ty} :
    sub.isSubtype sup ↔
      sub.mismatch? sup = none ∧ ∀ pair ∈ childPairs sub sup, pair.1.isSubtype pair.2 := by
  rw [isSubtype_iff_children, allSubtypes_iff_forall_mem_zip]
  rfl

/-- A position below the root is shared if it is in a pair of children. -/
theorem sharedPosition_cons_iff_childPairs {sub sup subPart supPart : Ty} {index : Nat}
    {rest : List Nat} :
    SharedPosition sub sup (index :: rest) subPart supPart ↔
      ∃ pair, (childPairs sub sup)[index]? = some pair ∧
        SharedPosition pair.1 pair.2 rest subPart supPart := by
  rw [sharedPosition_cons_iff]
  constructor
  · rintro ⟨child, child', found, found', shared⟩
    exact ⟨(child, child'), List.getElem?_zip_eq_some.mpr ⟨found, found'⟩, shared⟩
  · rintro ⟨pair, found, shared⟩
    obtain ⟨left, right⟩ := List.getElem?_zip_eq_some.mp found
    exact ⟨pair.1, pair.2, left, right, shared⟩

/-- In an accepted pair the nodes fit at every position the two types share. -/
theorem fits_of_isSubtype {sub sup : Ty} (accepted : sub.isSubtype sup) {position : List Nat}
    {subPart supPart : Ty} (shared : SharedPosition sub sup position subPart supPart) :
    subPart.mismatch? supPart = none := by
  -- Each step of the position goes to a pair of children, and these are accepted too.
  induction position generalizing sub sup with
  | nil =>
    obtain ⟨rfl, rfl⟩ := sharedPosition_nil_iff.mp shared
    exact (isSubtype_iff_childPairs.mp accepted).1
  | cons index rest ih =>
    obtain ⟨pair, found, below⟩ := sharedPosition_cons_iff_childPairs.mp shared
    exact ih ((isSubtype_iff_childPairs.mp accepted).2 pair (List.mem_of_getElem? found)) below

end Ty

/-! ### The first misfit -/

/-- Nodes that do not fit are the first misfit themselves. -/
theorem FirstMisfit.root {sub sup : Ty} {why : Mismatch} (describes : why.Describes sub sup) :
    FirstMisfit sub sup [] sub sup why := by
  refine ⟨Ty.sharedPosition_nil_iff.mpr ⟨rfl, rfl⟩, describes, ?_⟩
  intro earlier lower
  exact absurd lower (List.not_lt_nil earlier)

/-- If the nodes fit and the children before one pair are accepted, the first misfit of the pair is
the first misfit of all. -/
theorem FirstMisfit.child {sub sup : Ty} (fits : sub.mismatch? sup = none)
    {accepted left : List (Ty × Ty)} {last : Ty × Ty}
    (split : Ty.childPairs sub sup = accepted ++ last :: left)
    (before : ∀ pair ∈ accepted, pair.1.isSubtype pair.2) {position : List Nat}
    {subPart supPart : Ty} {why : Mismatch}
    (misfit : FirstMisfit last.1 last.2 position subPart supPart why) :
    FirstMisfit sub sup (accepted.length :: position) subPart supPart why := by
  refine ⟨?_, misfit.describes, ?_⟩
  · refine Ty.sharedPosition_cons_iff_childPairs.mpr ⟨last, ?_, misfit.shared⟩
    rw [split, List.getElem?_append_right (Nat.le_refl _), Nat.sub_self]
    rfl
  · intro earlier isEarlier subPart' supPart' shared
    rw [← Ty.mismatch?_eq_none_iff]
    cases earlier with
    | nil =>
      obtain ⟨rfl, rfl⟩ := Ty.sharedPosition_nil_iff.mp shared
      exact fits
    | cons index rest =>
      obtain ⟨pair, found, below⟩ := Ty.sharedPosition_cons_iff_childPairs.mp shared
      rw [split] at found
      -- An earlier position is in a child before the pair, or earlier in the pair itself.
      rcases List.cons_lt_cons_iff.mp isEarlier with lower | ⟨rfl, lower⟩
      · rw [List.getElem?_append_left lower] at found
        exact Ty.fits_of_isSubtype (before pair (List.mem_of_getElem? found)) below
      · rw [List.getElem?_append_right (Nat.le_refl _), Nat.sub_self] at found
        cases found
        exact Ty.mismatch?_eq_none_iff.mpr (misfit.first rest lower subPart' supPart' below)

/-! ### Reading the events -/

namespace Ty

open OpenComparison (step countEnded nextPosition)

/-- Complete checks inside a comparison are counted there. -/
theorem foldl_step_eventsOfPairs {pairs : List (Ty × Ty)}
    (each : ∀ pair ∈ pairs, ∀ opened,
      (events pair.1 pair.2).foldl step opened = countEnded opened)
    (parent : OpenComparison) (outer : List OpenComparison) :
    (eventsOfPairs pairs).foldl step (parent :: outer)
      = { parent with ended := parent.ended + pairs.length } :: outer := by
  -- For every parent: each check that ends is counted in it.
  induction pairs generalizing parent with
  | nil => rfl
  | cons pair rest ih =>
    obtain ⟨head, tail⟩ := List.forall_mem_cons.mp each
    rw [eventsOfPairs, List.flatMap_cons, List.foldl_append, head, countEnded]
    refine (ih tail _).trans ?_
    rw [List.length_cons, Nat.add_right_comm, Nat.add_assoc]

/-- A check closes all the comparisons that it opens. -/
theorem foldl_step_events (sub sup : Ty) (opened : List OpenComparison) :
    (events sub sup).foldl step opened = countEnded opened := by
  induction sub using ind_children generalizing sup opened with
  | node sub ih =>
    rw [events_eq, comparisonEvents]
    cases sub.mismatch? sup with
    | some why => rfl
    | none =>
      have each : ∀ pair ∈ untilRejected (childPairs sub sup), ∀ opened,
          (events pair.1 pair.2).foldl step opened = countEnded opened := by
        intro pair mem opened
        have inside := mem_children_of_mem_childPairs (mem_of_mem_untilRejected mem)
        exact ih pair.1 inside pair.2 opened
      have body := foldl_step_eventsOfPairs each ⟨sub, sup, nextPosition opened, 0⟩ opened
      rw [List.foldl_append, List.foldl_cons]
      show countEnded (List.tail (List.foldl step _ (eventsOfPairs _))) = _
      rw [step, body]
      rfl

/-- The events of an accepted pair report nothing wrong. -/
theorem accepting_of_mem_events {sub sup : Ty} (accepted : sub.isSubtype sup) :
    ∀ event ∈ events sub sup, event.Accepting := by
  induction sub using ind_children generalizing sup with
  | node sub ih =>
    obtain ⟨fits, all⟩ := isSubtype_iff_childPairs.mp accepted
    rw [events_eq, comparisonEvents, fits, untilRejected_of_accepted all, accepted]
    -- All pairs of children are compared, and each is accepted.
    have body : ∀ event ∈ eventsOfPairs (childPairs sub sup), event.Accepting := by
      refine List.forall_mem_flatMap.mpr fun pair mem => ?_
      exact ih pair.1 (mem_children_of_mem_childPairs mem) (all pair mem)
    exact List.forall_mem_append.mpr
      ⟨List.forall_mem_cons.mpr ⟨trivial, body⟩, List.forall_mem_singleton.mpr rfl⟩

/-- What the events of a rejected pair say, up to and with its only mismatch, wherever the check
begins. -/
structure Blame (sub sup : Ty) (before : List CheckEvent) (why : Mismatch) (position : List Nat)
    (subPart supPart : Ty) : Prop where
  split : events sub sup
    = before ++ .mismatch why :: List.replicate (position.length + 1) (.exit false)
  accepting : ∀ event ∈ before, event.Accepting
  misfit : FirstMisfit sub sup position subPart supPart why
  opens : ∀ opened, ∃ between, between.length = position.length ∧
    before.foldl step opened
      = ⟨subPart, supPart, nextPosition opened ++ position, 0⟩ :: (between ++ opened)

/-- Nodes that do not fit are blamed themselves. -/
theorem Blame.root {sub sup : Ty} {why : Mismatch} (misfit : sub.mismatch? sup = some why) :
    Blame sub sup [.enter sub sup] why [] sub sup where
  split := by
    rw [events_eq, comparisonEvents, misfit, isSubtype_eq_false_of_mismatch misfit]
    rfl
  accepting := List.forall_mem_singleton.mpr trivial
  misfit := .root (mismatch?_eq_some_iff.mp misfit)
  opens := by
    intro opened
    refine ⟨[], rfl, ?_⟩
    rw [List.append_nil]
    rfl

/-- If the nodes fit, the first child pair that is rejected is blamed. -/
theorem Blame.child {sub sup : Ty} (fits : sub.mismatch? sup = none)
    {accepted left : List (Ty × Ty)} {last : Ty × Ty}
    (split : childPairs sub sup = accepted ++ last :: left)
    (before : ∀ pair ∈ accepted, pair.1.isSubtype pair.2)
    (rejected : last.1.isSubtype last.2 = false) {inside : List CheckEvent} {why : Mismatch}
    {position : List Nat} {subPart supPart : Ty}
    (blame : Blame last.1 last.2 inside why position subPart supPart) :
    Blame sub sup (.enter sub sup :: (eventsOfPairs accepted ++ inside)) why
      (accepted.length :: position) subPart supPart where
  split := by
    have verdict : sub.isSubtype sup = false := by
      rw [Bool.eq_false_iff]
      intro all
      have lastAccepted := (isSubtype_iff_childPairs.mp all).2 last (by simp [split])
      rw [rejected] at lastAccepted
      cases lastAccepted
    have lastEvents : eventsOfPairs [last] = events last.1 last.2 := List.flatMap_singleton ..
    rw [events_eq, comparisonEvents, fits, split, untilRejected_of_rejected before rejected,
      eventsOfPairs_append, lastEvents, blame.split, verdict, List.length_cons,
      List.replicate_succ' (n := position.length + 1)]
    simp
  accepting := by
    have body : ∀ event ∈ eventsOfPairs accepted, event.Accepting :=
      List.forall_mem_flatMap.mpr fun pair mem => accepting_of_mem_events (before pair mem)
    exact List.forall_mem_cons.mpr
      ⟨trivial, List.forall_mem_append.mpr ⟨body, blame.accepting⟩⟩
  misfit := blame.misfit.child fits split before
  opens := by
    intro opened
    -- The comparison itself, after the accepted children have ended inside it.
    have walked : (eventsOfPairs accepted).foldl step
        (⟨sub, sup, nextPosition opened, 0⟩ :: opened)
          = ⟨sub, sup, nextPosition opened, 0 + accepted.length⟩ :: opened :=
      foldl_step_eventsOfPairs (fun pair _ => foldl_step_events pair.1 pair.2) _ _
    obtain ⟨between, length, inner⟩ :=
      blame.opens (⟨sub, sup, nextPosition opened, 0 + accepted.length⟩ :: opened)
    refine ⟨between ++ [⟨sub, sup, nextPosition opened, 0 + accepted.length⟩], ?_, ?_⟩
    · rw [List.length_append, length, List.length_singleton, List.length_cons]
    · rw [List.foldl_cons, step, List.foldl_append, walked, inner]
      simp [nextPosition]

/-- Every rejected pair has a position to blame. -/
theorem exists_blame {sub sup : Ty} (rejected : sub.isSubtype sup = false) :
    ∃ before why position subPart supPart, Blame sub sup before why position subPart supPart := by
  induction sub using ind_children generalizing sup with
  | node sub ih =>
    cases fits : sub.mismatch? sup with
    | some why => exact ⟨_, why, [], sub, sup, .root fits⟩
    | none =>
      rcases accepted_or_first_rejected (childPairs sub sup) with all | found
      · -- Nodes that fit with all children accepted would be accepted.
        rw [isSubtype_iff_childPairs.mpr ⟨fits, all⟩] at rejected
        cases rejected
      · obtain ⟨accepted, last, left, split, before, lastRejected⟩ := found
        have lastMem : last ∈ childPairs sub sup := by simp [split]
        have inside : last.1 ∈ sub.children := mem_children_of_mem_childPairs lastMem
        obtain ⟨body, why, position, subPart, supPart, blame⟩ := ih last.1 inside lastRejected
        exact ⟨_, why, _, subPart, supPart, .child fits split before lastRejected blame⟩

/-- What a check records is its list of events, and its verdict is that of the silent check. -/
theorem checkRecorded_eq (sub sup : Ty) :
    sub.checkRecorded sup = (sub.isSubtype sup, (events sub sup).toArray) := by
  have recorded := run_checkSubtype_ofStep (fun seen event => seen.push event) sub sup #[]
  rw [List.foldl_push_eq_append', Array.empty_append] at recorded
  exact recorded

/-- A check that accepts reports no mismatch and only accepting exits. A check that rejects blames
the first position, in the order of the walk, where the nodes of the two types do not fit: it
reports there why they do not, accepts all that ends before, and rejects all that ends after. -/
theorem checkRecorded_diagnosis (sub sup : Ty) :
    ((sub.checkRecorded sup).1 = true →
      ∀ event ∈ (sub.checkRecorded sup).2.toList, event.Accepting) ∧
    ((sub.checkRecorded sup).1 = false →
      ∃ before why position subPart supPart,
        Blames (sub.checkRecorded sup).2.toList before why position subPart supPart ∧
          FirstMisfit sub sup position subPart supPart why) := by
  rw [checkRecorded_eq]
  refine ⟨accepting_of_mem_events, ?_⟩
  intro rejected
  obtain ⟨before, why, position, subPart, supPart, blame⟩ := exists_blame rejected
  obtain ⟨between, length, opened⟩ := blame.opens []
  refine ⟨before, why, position, subPart, supPart, ⟨?_, blame.accepting, ?_⟩, blame.misfit⟩
  · have open' : (openComparisons before).length = position.length + 1 := by
      rw [openComparisons, opened, List.append_nil, List.length_cons, length]
    rw [open', ← blame.split]
  · rw [openComparisons, opened]
    rfl

/-- An accepted pair of tuples, and a rejected one: `any` accepts the first field, the second does
not fit, and the third is never reached. -/
theorem checkRecorded_diagnosis_tuple :
    (∀ report ∈ ((tuple [null, int]).checkRecorded (tuple [event, any])).2.toList,
      report.Accepting) ∧
    ∃ before position subPart supPart,
      Blames ((tuple [seq int, bool, int]).checkRecorded (tuple [any, event, bool])).2.toList before
        (.kind .bool .event) position subPart supPart ∧
      FirstMisfit (tuple [seq int, bool, int]) (tuple [any, event, bool]) position subPart supPart
        (.kind .bool .event) := by
  refine ⟨(checkRecorded_diagnosis (tuple [null, int]) (tuple [event, any])).1 (by decide), ?_⟩
  obtain ⟨before, why, position, subPart, supPart, blames, misfit⟩ :=
    (checkRecorded_diagnosis (tuple [seq int, bool, int]) (tuple [any, event, bool])).2 (by decide)
  have stream : ((tuple [seq int, bool, int]).checkRecorded (tuple [any, event, bool])).2.toList
      = [.enter (tuple [seq int, bool, int]) (tuple [any, event, bool]), .enter (seq int) any,
          .exit true, .enter bool event, .mismatch (.kind .bool .event), .exit false,
          .exit false] := rfl
  have reported : CheckEvent.mismatch why ∈
      ((tuple [seq int, bool, int]).checkRecorded (tuple [any, event, bool])).2.toList := by
    rw [blames.split]
    simp
  rw [stream] at reported
  obtain rfl : why = .kind .bool .event := by simpa using reported
  exact ⟨before, position, subPart, supPart, blames, misfit⟩

end Ty

end MachineTypes
