import MachineTypes.Proofs.Subtype.Diagnosis
import MachineTypes.Proofs.Ty.MapForeign
import MachineTypes.TraceLog.Basic

/-!
# `MachineTypes.Proofs.TraceLog.Providers`: no check shows who provides a foreign type

Replacing the foreign leaves on both sides of a check replaces them in its events and does nothing
else (`events_mapForeign`). So a tracer that gets the same out of equal operands cannot tell equal
types apart (`checkSubtype_of_beq`). The tracer of a log is one, since it writes the operands in
their notation, and so is every tracer that is given only their notation.

`beq_congruence` puts together all that can be seen of types that are equal. The argument is the
same for each observer: what it sees of a type is what it sees of the type without providers, and
equal types are the same without providers (`congr_of_beq`). So an observer needs no induction of
its own. Only for the events of a check there is one, over the tree of comparisons
(`events_mapForeign`).
-/

set_option autoImplicit false

namespace MachineTypes

/-! ### Events -/

namespace CheckEvent

/-- The event with the foreign leaves of both operands replaced. -/
def mapForeign (f g : ForeignType → ForeignType) : CheckEvent → CheckEvent
  | enter sub sup => enter (sub.mapForeign f) (sup.mapForeign g)
  | mismatch why => mismatch why
  | exit accepted => exit accepted

/-- An event with its operands in their notation. -/
inductive Shown where
  | enter (sub sup : String)
  | mismatch (why : Mismatch)
  | exit (accepted : Bool)
  deriving DecidableEq, Repr

/-- What an event shows. -/
def shown : CheckEvent → Shown
  | enter sub sup => .enter sub.display sup.display
  | mismatch why => .mismatch why
  | exit accepted => .exit accepted

/-- An event shows of a foreign leaf only its tag, so leaves with the same tags can be exchanged. -/
theorem shown_mapForeign {f g : ForeignType → ForeignType}
    (keepsTag : ∀ type, (f type).tag = type.tag) (keepsTag' : ∀ type, (g type).tag = type.tag)
    (event : CheckEvent) :
    (event.mapForeign f g).shown = event.shown := by
  cases event with
  | enter sub sup =>
    rw [mapForeign, shown, Ty.display_mapForeign keepsTag, Ty.display_mapForeign keepsTag', shown]
  | mismatch | exit => rfl

end CheckEvent

namespace Ty

section
variable (f g : ForeignType → ForeignType)

/-- Replacing leaves replaces them in the pairs of children, and no pair is added or lost. -/
theorem childPairs_mapForeign (sub sup : Ty) :
    childPairs (sub.mapForeign f) (sup.mapForeign g)
      = (childPairs sub sup).map (Prod.map (mapForeign f) (mapForeign g)) := by
  rw [childPairs, children_mapForeign, children_mapForeign, List.zip_map, childPairs]

/-- The first pair that is rejected stays the first, because verdicts do not depend on foreign
leaves. -/
theorem untilRejected_mapForeign (pairs : List (Ty × Ty)) :
    untilRejected (pairs.map (Prod.map (mapForeign f) (mapForeign g)))
      = (untilRejected pairs).map (Prod.map (mapForeign f) (mapForeign g)) := by
  induction pairs with
  | nil => rfl
  | cons pair rest ih =>
    rw [List.map_cons, untilRejected, Prod.map_fst, Prod.map_snd, isSubtype_mapForeign, ih,
      untilRejected, List.map_cons]
    split <;> rfl

/-- One comparison has the same events up to the operands: neither its mismatch nor its verdict can
tell the leaves apart. -/
theorem comparisonEvents_mapForeign (sub sup : Ty) (children : List CheckEvent) :
    comparisonEvents (sub.mapForeign f) (sup.mapForeign g)
        (children.map (CheckEvent.mapForeign f g))
      = (comparisonEvents sub sup children).map (CheckEvent.mapForeign f g) := by
  rw [comparisonEvents, comparisonEvents, mismatch?_mapForeign, isSubtype_mapForeign]
  cases sub.mismatch? sup with
  | none => simp [CheckEvent.mapForeign]
  | some why => simp [CheckEvent.mapForeign]

/-- Replacing foreign leaves in the types replaces them in the events, and does nothing else. -/
theorem events_mapForeign (sub sup : Ty) :
    events (sub.mapForeign f) (sup.mapForeign g)
      = (events sub sup).map (CheckEvent.mapForeign f g) := by
  -- By induction on the subtype: only pairs of its children are compared further down.
  induction sub using ind_children generalizing sup with
  | node sub ih =>
    have each : ∀ pair ∈ untilRejected (childPairs sub sup),
        events (pair.1.mapForeign f) (pair.2.mapForeign g)
          = (events pair.1 pair.2).map (CheckEvent.mapForeign f g) := by
      intro pair mem
      exact ih pair.1 (mem_children_of_mem_childPairs (mem_of_mem_untilRejected mem)) pair.2
    rw [events_eq, events_eq, childPairs_mapForeign, untilRejected_mapForeign,
      ← comparisonEvents_mapForeign]
    congr 1
    rw [eventsOfPairs, eventsOfPairs, List.flatMap_map, List.map_flatMap]
    exact List.flatMap_congr each

/-- A check of types with replaced foreign leaves is one with a tracer that replaces them. -/
theorem checkSubtype_mapForeign {m : Type → Type} [Monad m] [LawfulMonad m] (trace : Tracer m)
    (sub sup : Ty) :
    checkSubtype trace (sub.mapForeign f) (sup.mapForeign g)
      = checkSubtype (fun event => trace (event.mapForeign f g)) sub sup := by
  rw [checkSubtype_eq, checkSubtype_eq, events_mapForeign, isSubtype_mapForeign, Tracer.replay,
    Tracer.replay, List.forM_eq_forM, List.forM_map]

end

/-- The events of types that are equal show the same. -/
theorem shown_events_of_beq {t t' u u' : Ty} (equal : t == t') (equal' : u == u') :
    (events t u).map CheckEvent.shown = (events t' u').map CheckEvent.shown := by
  -- It is enough to compare types with their erasures, in which all providers are the same.
  refine congr_of_beq₂ (F := fun t u => (events t u).map CheckEvent.shown) ?_ equal equal'
  intro sub sup
  rw [eraseProviders, events_mapForeign, List.map_map]
  refine List.map_congr_left ?_
  intro event _
  refine CheckEvent.shown_mapForeign ?_ ?_ event <;> exact fun _ => rfl

/-- A tracer that does the same at the beginning of comparisons of types that are equal cannot tell
such types apart by a check. -/
theorem checkSubtype_of_beq {m : Type → Type} [Monad m] [LawfulMonad m] {trace : Tracer m}
    (respects : ∀ sub sub' sup sup' : Ty, sub == sub' → sup == sup' →
      trace (.enter sub sup) = trace (.enter sub' sup'))
    {t t' u u' : Ty} (equal : t == t') (equal' : u == u') :
    checkSubtype trace t u = checkSubtype trace t' u' := by
  refine congr_of_beq₂ (F := checkSubtype trace) ?_ equal equal'
  intro sub sup
  rw [eraseProviders, checkSubtype_mapForeign]
  congr 1
  funext event
  cases event with
  | enter sub sup => exact respects _ _ _ _ (eraseProviders_beq sub) (eraseProviders_beq sup)
  | mismatch | exit => rfl

end Ty

/-! ### Logs -/

namespace TraceLog

/-- A log gets the same from comparisons of types that are equal. -/
theorem enter_of_beq (log : TraceLog) {t t' u u' : Ty} (equal : t == t') (equal' : u == u') :
    log.enter t u = log.enter t' u' := by
  rw [enter, Palette.comparisonLine, Ty.display_of_beq equal, Ty.display_of_beq equal', enter,
    Palette.comparisonLine]

/-- A check of types that are equal has the same effect on a log. -/
theorem check_of_beq (log : TraceLog) {t t' u u' : Ty} (equal : t == t') (equal' : u == u') :
    log.check t u = log.check t' u' := by
  have respects : ∀ sub sub' sup sup' : Ty, sub == sub' → sup == sup' →
      tracer (.enter sub sup) = tracer (.enter sub' sup') := by
    intro sub sub' sup sup' equal equal'
    have same : (fun log : TraceLog => log.enter sub sup) = (·.enter sub' sup') :=
      funext fun log => log.enter_of_beq equal equal'
    exact congrArg modify same
  rw [check, Ty.checkSubtype_of_beq respects equal equal', check]

end TraceLog

/-! ### All observers -/

namespace Ty

/-- What can be seen of `t` and of a check of `t` against `u` is the same for `t'` and `u'`. -/
structure SeenAlike (t u t' u' : Ty) : Prop where
  kind : t.kind = t'.kind
  display : t.display = t'.display
  inspect : t.inspect = t'.inspect
  isSubtype : t.isSubtype u = t'.isSubtype u'
  /-- The recorded events show the same, one by one. -/
  events : (t.checkRecorded u).2.map CheckEvent.shown = (t'.checkRecorded u').2.map CheckEvent.shown
  /-- A tracer that is given what the events show does the same, in any monad. -/
  tracer : ∀ {m : Type → Type} [Monad m] [LawfulMonad m] (trace : CheckEvent.Shown → m Unit),
    checkSubtype (fun event => trace event.shown) t u
      = checkSubtype (fun event => trace event.shown) t' u'
  /-- So does a log, whatever its settings and whatever was written into it before. -/
  log : ∀ log : TraceLog, log.check t u = log.check t' u'

/-- Types are equal exactly when they are the same tree without providers, and that is when they
have nodes with one label at all positions. Whatever can be seen of types that are equal is the
same. -/
theorem beq_congruence (t t' u u' : Ty) :
    (t == t' ↔ t.eraseProviders = t'.eraseProviders) ∧
    (t == t' ↔ ∀ position, (t.at? position).map label = (t'.at? position).map label) ∧
    (t == t' → u == u' → SeenAlike t u t' u') := by
  refine ⟨beq_iff_eraseProviders_eq, beq_iff_label_at, ?_⟩
  intro equal equal'
  exact {
    kind := kind_of_beq equal
    display := display_of_beq equal
    inspect := inspect_of_beq equal
    isSubtype := congr_of_beq₂ (isSubtype_mapForeign _ _) equal equal'
    events := by
      rw [checkRecorded_eq, checkRecorded_eq, List.map_toArray, List.map_toArray,
        shown_events_of_beq equal equal']
    tracer := by
      intro m _ _ trace
      refine checkSubtype_of_beq ?_ equal equal'
      intro sub sub' sup sup' equal equal'
      rw [CheckEvent.shown, display_of_beq equal, display_of_beq equal', CheckEvent.shown]
    log := fun log => log.check_of_beq equal equal'
  }

/-- Two tuples that are equal up to the provider of a foreign leaf, checked against a type that
accepts neither. -/
theorem beq_congruence_tuple :
    let direct := tuple [int, absent]
    let table := tuple [int, foreign ⟨.absent, .table Foreign.Absent.capabilities⟩]
    direct == table ∧ seq direct == seq table ∧
      SeenAlike direct (seq direct) table (seq table) := by
  intro direct table
  -- The two tuples have different providers for one tag, and the equality of types looks at the
  -- tag.
  have equal : direct == table := by decide
  have equal' : seq direct == seq table := by decide
  exact ⟨equal, equal', (beq_congruence direct table (seq direct) (seq table)).2.2 equal equal'⟩

end Ty

end MachineTypes
