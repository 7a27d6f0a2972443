import MachineTypes.Subtype.Basic

/-!
# `MachineTypes.Subtype.Events`: verdict and events of a check

A check is written for any tracer. Two of its results can be said without one: the verdict, by
equations for each kind of node, and the list of events that every tracer is given.
-/

set_option autoImplicit false

namespace MachineTypes

/-! ## The equations of `isSubtype`

`isSubtype` is a check with a tracer that ignores everything. Its verdict follows from the rule
for the two roots (`isSubtype_eq_false_of_mismatch`) and the verdicts on the children, which the
equations below give node by node.
-/

/-- Without a tracer, `<&&>` is the conjunction of the verdicts. -/
theorem run_andM (first second : Id Bool) :
    Id.run (first <&&> second) = (Id.run first && Id.run second) := by
  unfold andM
  cases (show Bool from first) <;> rfl

/-- Without a tracer, a comparison accepts when the nodes fit and the children are accepted. -/
theorem Tracer.run_compare_silent (sub sup : Ty) (children : Id Bool) :
    Id.run (Tracer.silent.compare sub sup children)
      = ((sub.mismatch? sup).isNone && Id.run children) := by
  unfold Tracer.compare
  cases sub.mismatch? sup <;> rfl

namespace Ty

/-- Whether the types of one list are subtypes of those of the other, pair by pair. -/
def allSubtypes (subs sups : List Ty) : Bool := Id.run (checkAll .silent subs sups)

/-- The same for the types of named fields. -/
def fieldSubtypes (subs sups : List (Field Ty)) : Bool := Id.run (checkFields .silent subs sups)

/-- Nodes that do not fit are never in the relation, whatever is below them. -/
theorem isSubtype_eq_false_of_mismatch {sub sup : Ty} {why : Mismatch}
    (h : sub.mismatch? sup = some why) : sub.isSubtype sup = false := by
  unfold isSubtype checkSubtype
  split <;> simp [Tracer.run_compare_silent, h]

/-- Every type is a subtype of `any`. -/
@[simp] theorem isSubtype_any (sub : Ty) : sub.isSubtype any = true := by
  cases sub <;> rfl

/-- A map is compared with a map part by part: domains and codomains are both covariant. -/
@[simp] theorem isSubtype_map (domain codomain domain' codomain' : Ty) :
    (map domain codomain).isSubtype (map domain' codomain')
      = (domain.isSubtype domain' && codomain.isSubtype codomain') := by
  refine (Tracer.run_compare_silent _ _ _).trans ?_
  rw [run_andM]
  rfl

/-- A sequence is compared with a sequence by the elements alone. -/
@[simp] theorem isSubtype_seq (inner inner' : Ty) :
    (seq inner).isSubtype (seq inner') = inner.isSubtype inner' :=
  Tracer.run_compare_silent _ _ _

/-- A tuple is compared with a tuple by the number of fields and then field by field. -/
theorem isSubtype_tuple (subs sups : List Ty) :
    (tuple subs).isSubtype (tuple sups)
      = (decide (subs.length = sups.length) && allSubtypes subs sups) := by
  refine (Tracer.run_compare_silent _ _ _).trans ?_
  by_cases same : subs.length = sups.length <;>
    simp [mismatch?, Mismatch.ofArities?, allSubtypes, same]

/-- A named tuple is compared with a named tuple by the number and names of the fields, which is
left to the comparison of nodes, and then by their types. -/
theorem isSubtype_namedTuple (subs sups : List (Field Ty)) :
    (namedTuple subs).isSubtype (namedTuple sups)
      = (((namedTuple subs).mismatch? (namedTuple sups)).isNone && fieldSubtypes subs sups) :=
  Tracer.run_compare_silent _ _ _

/-- Without subtypes there is nothing to compare. What one list has beyond the other is not compared
here, so the number of fields must be compared before. -/
@[simp] theorem allSubtypes_nil_left (sups : List Ty) : allSubtypes [] sups = true := by
  cases sups <;> rfl

/-- Without supertypes neither. -/
@[simp] theorem allSubtypes_nil_right (subs : List Ty) : allSubtypes subs [] = true := by
  cases subs <;> rfl

/-- The first pair counts, and then the others. -/
@[simp] theorem allSubtypes_cons (sub sup : Ty) (subs sups : List Ty) :
    allSubtypes (sub :: subs) (sup :: sups) = (sub.isSubtype sup && allSubtypes subs sups) :=
  run_andM _ _

/-- The same for fields, of which only the types are compared here. -/
@[simp] theorem fieldSubtypes_cons (sub sup : Field Ty) (subs sups : List (Field Ty)) :
    fieldSubtypes (sub :: subs) (sup :: sups)
      = (sub.type.isSubtype sup.type && fieldSubtypes subs sups) :=
  run_andM _ _

/-- Fields are compared by their types. The names count at the root only. -/
theorem fieldSubtypes_eq_allSubtypes (subs sups : List (Field Ty)) :
    fieldSubtypes subs sups = allSubtypes (subs.map (·.type)) (sups.map (·.type)) := by
  induction subs generalizing sups with
  | nil => cases sups <;> rfl
  | cons sub subs ih =>
    cases sups with
    | nil => rfl
    | cons sup sups => simp [ih]

end Ty

end MachineTypes

namespace MachineTypes.Ty

/-! ## The events of a check as a list

`Ty.events sub sup` lists what a check of `sub` against `sup` reports. It is one `enter`, then a
mismatch or the events of the children up to the first that is rejected, then one `exit` with
the verdict. `checkSubtype_eq` says that a check in any lawful monad is this list given to the
tracer event by event, with the verdict of `isSubtype`.
-/

/-- One comparison as events: the events of the children count only if the nodes fit. -/
def comparisonEvents (sub sup : Ty) (children : List CheckEvent) : List CheckEvent :=
  .enter sub sup ::
    (match sub.mismatch? sup with
      | some why => [.mismatch why]
      | none => children)
    ++ [.exit (sub.isSubtype sup)]

mutual

/-- The events of a check of `sub` against `sup`, in order. -/
def events : Ty → Ty → List CheckEvent
  | map domain codomain, map domain' codomain' =>
    comparisonEvents (map domain codomain) (map domain' codomain')
      (events domain domain'
        ++ if domain.isSubtype domain' then events codomain codomain' else [])
  | seq inner, seq inner' => comparisonEvents (seq inner) (seq inner') (events inner inner')
  | tuple fields, tuple fields' =>
    comparisonEvents (tuple fields) (tuple fields') (eventsAll fields fields')
  | namedTuple fields, namedTuple fields' =>
    comparisonEvents (namedTuple fields) (namedTuple fields') (eventsFields fields fields')
  | sub, sup => comparisonEvents sub sup []

/-- The events of the checks of two lists, up to the first pair that is rejected. -/
def eventsAll : List Ty → List Ty → List CheckEvent
  | sub :: subs, sup :: sups =>
    events sub sup ++ if sub.isSubtype sup then eventsAll subs sups else []
  | _, _ => []

/-- The same for named fields. -/
def eventsFields : List (Field Ty) → List (Field Ty) → List CheckEvent
  | ⟨_, sub⟩ :: subs, ⟨_, sup⟩ :: sups =>
    events sub sup ++ if sub.isSubtype sup then eventsFields subs sups else []
  | _, _ => []

end

end MachineTypes.Ty

namespace MachineTypes

variable {m : Type → Type} [Monad m]

/-- Gives events to the tracer in order, and then the verdict. -/
def Tracer.replay (trace : Tracer m) (events : List CheckEvent) (verdict : Bool) : m Bool := do
  events.forM trace
  return verdict

variable [LawfulMonad m]

/-- Of two replays joined by `<&&>`, the second happens if the first accepts. -/
theorem Tracer.replay_andM (trace : Tracer m) (events events' : List CheckEvent)
    (verdict verdict' : Bool) :
    (trace.replay events verdict <&&> trace.replay events' verdict')
      = trace.replay (events ++ if verdict then events' else []) (verdict && verdict') := by
  cases verdict <;> simp [replay, andM, toBool, List.forM_eq_forM, List.forM_append]

/-- A comparison around replayed children is itself a replay. -/
theorem Tracer.compare_replay (trace : Tracer m) {sub sup : Ty} (events : List CheckEvent)
    {verdict : Bool} (h : sub.isSubtype sup = ((sub.mismatch? sup).isNone && verdict)) :
    trace.compare sub sup (trace.replay events verdict)
      = trace.replay (Ty.comparisonEvents sub sup events) (sub.isSubtype sup) := by
  unfold Tracer.compare Ty.comparisonEvents
  cases fit : sub.mismatch? sup <;> simp [fit] at h <;> simp [replay, h]

namespace Ty

/-- A check is its list of events given to the tracer, with the verdict of `isSubtype`. -/
theorem checkSubtype_eq (trace : Tracer m) (sub sup : Ty) :
    checkSubtype trace sub sup = trace.replay (events sub sup) (sub.isSubtype sup) := by
  induction sub, sup using checkSubtype.induct
    (motive_2 := fun subs sups =>
      checkFields trace subs sups
        = trace.replay (eventsFields subs sups) (fieldSubtypes subs sups))
    (motive_3 := fun subs sups =>
      checkAll trace subs sups = trace.replay (eventsAll subs sups) (allSubtypes subs sups)) with
  | case1 domain codomain domain' codomain' ihDomain ihCodomain =>
    -- The codomains are compared only if the domains are accepted, on both sides.
    rw [checkSubtype, ihDomain, ihCodomain, trace.replay_andM, trace.compare_replay, events]
    simp [isSubtype, checkSubtype, Tracer.run_compare_silent, run_andM]
  | case2 inner inner' ih =>
    rw [checkSubtype, ih, trace.compare_replay, events]
    simp [isSubtype, checkSubtype, Tracer.run_compare_silent]
  | case3 fields fields' ih =>
    rw [checkSubtype, ih, trace.compare_replay, events]
    simp [isSubtype, checkSubtype, Tracer.run_compare_silent, allSubtypes]
  | case4 fields fields' ih =>
    rw [checkSubtype, ih, trace.compare_replay, events]
    simp [isSubtype, checkSubtype, Tracer.run_compare_silent, fieldSubtypes]
  | case5 sub sup noMap noSeq noTuple noNamedTuple =>
    -- Here the nodes decide alone: the children are the empty replay that accepts.
    have leaf : (pure true : m Bool) = trace.replay [] true := by simp [Tracer.replay]
    rw [checkSubtype, events, leaf, trace.compare_replay]
    · rw [isSubtype, checkSubtype, Tracer.run_compare_silent]
      all_goals first | rfl | assumption
    all_goals assumption
  | case6 sub subs sup sups ihHead ihTail =>
    rw [checkAll, ihHead, ihTail, trace.replay_andM, eventsAll, allSubtypes_cons]
  | case7 subs sups ended =>
    -- One of the lists has ended, so no pair is left.
    rw [checkAll, eventsAll, allSubtypes, checkAll]
    · simp [Tracer.replay]
    all_goals assumption
  | case8 name sub subs name' sup sups ihHead ihTail =>
    rw [checkFields, ihHead, ihTail, trace.replay_andM, eventsFields, fieldSubtypes_cons]
  | case9 subs sups ended =>
    rw [checkFields, eventsFields, fieldSubtypes, checkFields]
    · simp [Tracer.replay]
    all_goals assumption

end Ty

end MachineTypes
