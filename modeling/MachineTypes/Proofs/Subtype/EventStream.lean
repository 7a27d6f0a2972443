import Mathlib.Data.List.Basic
import MachineTypes.Subtype.Events
import MachineTypes.Ty.Basic

/-!
# `MachineTypes.Proofs.Subtype.EventStream`: what every tracer sees of a check

A check shows every tracer the same events, and the tracer cannot change the verdict.
`events_eq` gives these events by one equation for all nodes: an `enter`, then a mismatch or the
events of the child pairs that are compared, then an `exit`.

The check treats maps, sequences and the two kinds of tuples one by one. For what is said of all
checks these are alike: two nodes have pairs of children (`childPairs`), and of these the first ones
are compared (`untilRejected`). The lemmas on `untilRejected` serve every walk that stops at the
first rejection, here that of the events and in `Proofs.TraceLog.Rendering` that of the lines.

`checkSubtype_parametric` is the main result. It is for every lawful monad, so a tracer can also
fail or keep a state: it is given the events one by one, as far as it lets the check go on. That no
other list of events would do follows from a single tracer, which collects what it sees.
-/

set_option autoImplicit false

namespace MachineTypes

/-- The tracer that does one step on a state for each event. -/
def Tracer.ofStep {σ : Type} (step : σ → CheckEvent → σ) : Tracer (StateM σ) :=
  fun event => modify fun state => step state event

/-- Replaying a list with a tracer that does one step for each event is folding the step over the
list. -/
theorem Tracer.run_replay_ofStep {σ : Type} (step : σ → CheckEvent → σ) (events : List CheckEvent)
    (verdict : Bool) (state : σ) :
    StateT.run ((ofStep step).replay events verdict) state
      = (verdict, events.foldl step state) := by
  -- For every state: the rest is replayed from the state after the first step.
  induction events generalizing state with
  | nil => rfl
  | cons event rest ih => exact ih (step state event)

namespace Ty

/-! ### The pairs of children that are compared -/

/-- The children of two nodes that stand at the same place, from left to right. -/
def childPairs (sub sup : Ty) : List (Ty × Ty) := sub.children.zip sup.children

/-- The first pairs of a list, up to and with the first that is rejected. -/
def untilRejected : List (Ty × Ty) → List (Ty × Ty)
  | [] => []
  | pair :: rest => pair :: if pair.1.isSubtype pair.2 then untilRejected rest else []

/-- The events of checks made one after the other. -/
def eventsOfPairs (pairs : List (Ty × Ty)) : List CheckEvent :=
  pairs.flatMap fun pair => events pair.1 pair.2

/-- Below `any` nothing is compared, because `any` has no children. -/
theorem childPairs_any (sub : Ty) : childPairs sub any = [] :=
  List.zip_nil_right

/-- On the left of a pair stands a child of the subtype, so an induction on it applies. -/
theorem mem_children_of_mem_childPairs {sub sup : Ty} {pair : Ty × Ty}
    (mem : pair ∈ childPairs sub sup) : pair.1 ∈ sub.children :=
  (List.of_mem_zip mem).1

/-- No pair is compared that is not a pair of children. -/
theorem mem_of_mem_untilRejected {pairs : List (Ty × Ty)} {pair : Ty × Ty}
    (mem : pair ∈ untilRejected pairs) : pair ∈ pairs := by
  induction pairs with
  | nil => exact mem
  | cons head rest ih =>
    rw [untilRejected] at mem
    rcases List.mem_cons.mp mem with rfl | later
    · exact List.mem_cons_self
    -- The others are in the list only if the first pair is accepted.
    · split at later
      · exact List.mem_cons_of_mem _ (ih later)
      · cases later

/-- Checks that are made one after the other have their events one after the other. -/
theorem eventsOfPairs_append (pairs pairs' : List (Ty × Ty)) :
    eventsOfPairs (pairs ++ pairs') = eventsOfPairs pairs ++ eventsOfPairs pairs' :=
  List.flatMap_append

/-- If all pairs are accepted, all of them are compared. -/
theorem untilRejected_of_accepted {pairs : List (Ty × Ty)}
    (accepted : ∀ pair ∈ pairs, pair.1.isSubtype pair.2) : untilRejected pairs = pairs := by
  induction pairs with
  | nil => rfl
  | cons pair rest ih =>
    obtain ⟨head, tail⟩ := List.forall_mem_cons.mp accepted
    rw [untilRejected, if_pos head, ih tail]

/-- The pair that is rejected is compared, and none after it. -/
theorem untilRejected_of_rejected {accepted : List (Ty × Ty)} {last : Ty × Ty}
    (before : ∀ pair ∈ accepted, pair.1.isSubtype pair.2)
    (rejected : last.1.isSubtype last.2 = false) (left : List (Ty × Ty)) :
    untilRejected (accepted ++ last :: left) = accepted ++ [last] := by
  induction accepted with
  | nil => simp [untilRejected, rejected]
  | cons pair rest ih =>
    obtain ⟨head, tail⟩ := List.forall_mem_cons.mp before
    rw [List.cons_append, untilRejected, if_pos head, ih tail, List.cons_append]

/-- Either all pairs of a list are accepted, or there is a first one that is not. -/
theorem accepted_or_first_rejected (pairs : List (Ty × Ty)) :
    (∀ pair ∈ pairs, pair.1.isSubtype pair.2) ∨
      ∃ accepted last left, pairs = accepted ++ last :: left ∧
        (∀ pair ∈ accepted, pair.1.isSubtype pair.2) ∧ last.1.isSubtype last.2 = false := by
  cases found : pairs.find? fun pair => !pair.1.isSubtype pair.2 with
  | none =>
    left
    simpa using found
  | some last =>
    right
    obtain ⟨rejected, accepted, left, split, before⟩ := List.find?_eq_some_iff_append.mp found
    exact ⟨accepted, last, left, split, by simpa using before, by simpa using rejected⟩

/-! ### What is made of the pairs that are compared -/

section
variable {β : Type} (f : Ty × Ty → List β)

/-- The first pair is always compared, and the others only if it is accepted. -/
theorem flatMap_untilRejected_cons (pair : Ty × Ty) (rest : List (Ty × Ty)) :
    (untilRejected (pair :: rest)).flatMap f
      = f pair ++ if pair.1.isSubtype pair.2 then (untilRejected rest).flatMap f else [] := by
  rw [untilRejected]
  split <;> rfl

/-- A single pair is always compared. -/
theorem flatMap_untilRejected_singleton (pair : Ty × Ty) :
    (untilRejected [pair]).flatMap f = f pair := by
  rw [flatMap_untilRejected_cons, untilRejected, List.flatMap_nil, ite_self, List.append_nil]

variable {f}

/-- A walk along two lists that goes on after each accepted pair is a walk along the pairs up to the
first that is rejected. -/
theorem eq_flatMap_untilRejected_zip {walk : List Ty → List Ty → List β}
    (nilLeft : ∀ sups, walk [] sups = []) (nilRight : ∀ subs, walk subs [] = [])
    (cons : ∀ sub sup subs sups, walk (sub :: subs) (sup :: sups)
      = f (sub, sup) ++ if sub.isSubtype sup then walk subs sups else [])
    (subs sups : List Ty) : walk subs sups = (untilRejected (subs.zip sups)).flatMap f := by
  induction subs generalizing sups with
  | nil => exact nilLeft sups
  | cons sub subs ih =>
    cases sups with
    | nil => exact nilRight (sub :: subs)
    | cons sup sups => rw [cons, ih, List.zip_cons_cons, flatMap_untilRejected_cons]

end

/-! ### The events of a comparison -/

/-- The events of two lists are those of the pairs up to the first that is rejected. -/
theorem eventsAll_eq (subs sups : List Ty) :
    eventsAll subs sups = eventsOfPairs (untilRejected (subs.zip sups)) :=
  eq_flatMap_untilRejected_zip (fun _ => rfl) (fun subs => by cases subs <;> rfl)
    (fun _ _ _ _ => rfl) subs sups

/-- The events of two lists of fields are those of the types in them. -/
theorem eventsFields_eq_eventsAll (subs sups : List (Field Ty)) :
    eventsFields subs sups = eventsAll (subs.map (·.type)) (sups.map (·.type)) := by
  induction subs generalizing sups with
  | nil => rfl
  | cons sub subs ih =>
    cases sups with
    | nil => rfl
    | cons sup sups => rw [eventsFields, ih, List.map_cons, List.map_cons, eventsAll]

/-- The events of every comparison: those of the child pairs up to the first that is rejected, if
the nodes fit, between its `enter` and its `exit`. -/
theorem events_eq (sub sup : Ty) :
    events sub sup
      = comparisonEvents sub sup (eventsOfPairs (untilRejected (childPairs sub sup))) := by
  by_cases top : sup = any
  · subst top
    rw [childPairs_any]
    cases sub <;> rfl
  cases sub <;> cases sup
  case map.map domain codomain domain' codomain' =>
    show _ = comparisonEvents _ _
      ((untilRejected [(domain, domain'), (codomain, codomain')]).flatMap _)
    rw [events, flatMap_untilRejected_cons, flatMap_untilRejected_singleton]
  case seq.seq inner inner' =>
    show _ = comparisonEvents _ _ ((untilRejected [(inner, inner')]).flatMap _)
    rw [events, flatMap_untilRejected_singleton]
  case tuple.tuple fields fields' =>
    rw [events, eventsAll_eq]
    rfl
  case namedTuple.namedTuple fields fields' =>
    rw [events, eventsFields_eq_eventsAll, eventsAll_eq]
    rfl
  -- All other pairs of nodes are either leaves or do not fit.
  all_goals first | contradiction | rfl

/-- What a comparison reports between its `enter` and its `exit`. -/
inductive ComparisonBody (sub sup : Ty) : List CheckEvent → Prop where
  /-- The nodes fit and have nothing below them to compare. -/
  | leaf : sub.mismatch? sup = none → childPairs sub sup = [] → ComparisonBody sub sup []
  /-- The nodes do not fit, and nothing below them is looked at. -/
  | mismatch (why : Mismatch) :
    sub.mismatch? sup = some why → ComparisonBody sub sup [.mismatch why]
  /-- The first child pairs are compared. All but the last of them are accepted, and if that is
  accepted too there are no more. -/
  | children (accepted : List (Ty × Ty)) (last : Ty × Ty) (left : List (Ty × Ty)) :
    sub.mismatch? sup = none → childPairs sub sup = accepted ++ last :: left →
      (∀ pair ∈ accepted, pair.1.isSubtype pair.2) →
      (left ≠ [] → last.1.isSubtype last.2 = false) →
      ComparisonBody sub sup (eventsOfPairs (accepted ++ [last]))

/-- The events of a check are one `enter`, one of the bodies above, and one `exit` with the
verdict. -/
theorem events_eq_enter_body_exit (sub sup : Ty) :
    ∃ body, events sub sup = .enter sub sup :: body ++ [.exit (sub.isSubtype sup)] ∧
      ComparisonBody sub sup body := by
  rw [events_eq, comparisonEvents]
  cases fits : sub.mismatch? sup with
  | some why => exact ⟨_, rfl, .mismatch why fits⟩
  | none =>
    refine ⟨_, rfl, ?_⟩
    show ComparisonBody sub sup (eventsOfPairs (untilRejected (childPairs sub sup)))
    rcases accepted_or_first_rejected (childPairs sub sup) with all | found
    · rw [untilRejected_of_accepted all]
      rcases List.eq_nil_or_concat' (childPairs sub sup) with none | ⟨accepted, last, split⟩
      · rw [none]
        exact .leaf fits none
      · rw [split] at all ⊢
        refine .children accepted last [] fits split ?_ (fun more => absurd rfl more)
        intro pair mem
        exact all pair (List.mem_append_left _ mem)
    · obtain ⟨accepted, last, left, split, before, rejected⟩ := found
      rw [split, untilRejected_of_rejected before rejected left]
      exact .children accepted last left fits split before fun _ => rejected

/-! ### Parametricity -/

/-- A check with a tracer that only changes a state folds the tracer over the events. -/
theorem run_checkSubtype_ofStep {σ : Type} (step : σ → CheckEvent → σ) (sub sup : Ty) (state : σ) :
    StateT.run (checkSubtype (Tracer.ofStep step) sub sup) state
      = (sub.isSubtype sup, (events sub sup).foldl step state) := by
  rw [checkSubtype_eq]
  exact Tracer.run_replay_ofStep step _ _ state

/-- A check does to every tracer the same: it gives it the events of the two types one after the
other, and returns the verdict of the check without a tracer. No other list of events has this
property. The list is an `enter`, a body made of the lists of the children that are compared, and
an `exit` with the verdict. -/
theorem checkSubtype_parametric (sub sup : Ty) :
    (∀ {m : Type → Type} [Monad m] [LawfulMonad m] (trace : Tracer m),
      checkSubtype trace sub sup = do
        (events sub sup).forM trace
        return sub.isSubtype sup) ∧
    (∀ {σ : Type} (step : σ → CheckEvent → σ) (state : σ),
      StateT.run (checkSubtype (Tracer.ofStep step) sub sup) state
        = (sub.isSubtype sup, (events sub sup).foldl step state)) ∧
    (∀ stream : List CheckEvent,
      (∀ {σ : Type} (step : σ → CheckEvent → σ) (state : σ),
        StateT.run (checkSubtype (Tracer.ofStep step) sub sup) state
          = (sub.isSubtype sup, stream.foldl step state)) →
      stream = events sub sup) ∧
    ∃ body, events sub sup = .enter sub sup :: body ++ [.exit (sub.isSubtype sup)] ∧
      ComparisonBody sub sup body := by
  refine ⟨fun trace => checkSubtype_eq trace sub sup,
    fun step state => run_checkSubtype_ofStep step sub sup state, ?_,
    events_eq_enter_body_exit sub sup⟩
  intro stream shown
  -- The tracer that puts each event before those it has seen tells the lists apart.
  have seen : ∀ events : List CheckEvent,
      events.foldl (fun seen event => event :: seen) [] = events.reverse := by
    intro events
    simp
  have same := shown (fun seen event => event :: seen) []
  rw [run_checkSubtype_ofStep, seen, seen] at same
  exact (List.reverse_inj.mp (congrArg Prod.snd same)).symm

end Ty

end MachineTypes
