import MachineTypes.Proofs.Subtype.Order
import MachineTypes.Subtype.Order

/-!
# `MachineTypes.Proofs.Subtype.Widening`: subtyping is widening

`isSubtype_iff_widens` ties the check to widening steps: it accepts exactly the pairs where the
second type is reached from the first one step at a time, through well-formed types.

* Soundness: one step goes up in the order (`WidensOnce.isSubtype`), and subtyping is transitive.
* Completeness: a step below a node is a step of the node, so a run below a node is a run of the
  node (`Widens.lift`). The fields of a tuple are widened one after the other, from left to right
  (`widens_pointwise`).

A step from a well-formed type ends in one (`WidensOnce.wellFormed`), so the runs never leave
the well-formed types.

The main result asks for a well-formed subtype. The supertype is then well-formed without being
asked for. Completeness needs this, because a run may only pass through well-formed types: beside
an empty tuple, the run from `null` to `event` has nothing well-formed to go through.
-/

set_option autoImplicit false

namespace MachineTypes.Ty

/-! ### Steps go up -/

/-- One widening step leads to a supertype. -/
theorem WidensOnce.isSubtype {type type' : Ty} (once : WidensOnce type type') :
    type.isSubtype type' := by
  induction once with
  | toAny type => exact isSubtype_any type
  | nullToEvent => rfl
  | nullToMachine => rfl
  | retag type type' => exact (SubtypeRule.foreign type type').isSubtype
  | domain codomain _ ih => exact (SubtypeRule.map ih (isSubtype_refl codomain)).isSubtype
  | codomain domain _ ih => exact (SubtypeRule.map (isSubtype_refl domain) ih).isSubtype
  | inner _ ih => exact (SubtypeRule.seq ih).isSubtype
  | field before after _ ih =>
    -- The fields on both sides of the widened one stay as they are.
    have same : ∀ fields : List Ty,
        List.Forall₂ (fun sub sup => sub.isSubtype sup) fields fields := by
      intro fields
      exact List.forall₂_same.mpr fun type _ => isSubtype_refl type
    exact isSubtype_tuple_iff.mpr (List.rel_append (same before) (.cons ih (same after)))
  | namedField before after name _ ih =>
    have same : ∀ fields : List (Field Ty), List.Forall₂ FieldSubtype fields fields := by
      intro fields
      exact List.forall₂_same.mpr fun field _ => fieldSubtype_refl field
    exact isSubtype_namedTuple_iff.mpr
      (List.rel_append (same before) (.cons ⟨rfl, ih⟩ (same after)))

/-- Any number of widening steps leads to a supertype. -/
theorem Widens.isSubtype {type type' : Ty} (run : Widens type type') : type.isSubtype type' := by
  -- The relation is transitive, so a run goes up because each of its steps does.
  induction run with
  | refl type => exact isSubtype_refl type
  | step once _ _ ih => exact isSubtype_trans once.isSubtype ih

/-! ### Steps keep types well-formed -/

/-- A widening step from a well-formed type ends in a well-formed type. -/
theorem WidensOnce.wellFormed {type type' : Ty} (once : WidensOnce type type')
    (wellFormed : type.WellFormed) : type'.WellFormed := by
  -- A step never adds or drops a field and never renames one, so a node stays well-formed when
  -- the part below it does.
  induction once with
  | toAny | nullToEvent | nullToMachine | retag => trivial
  | domain codomain _ ih => exact ⟨ih wellFormed.1, wellFormed.2⟩
  | codomain domain _ ih => exact ⟨wellFormed.1, ih wellFormed.2⟩
  | inner _ ih => exact ih wellFormed
  | field before after _ ih =>
    simp only [wellFormed_tuple_iff, List.forall_mem_append, List.forall_mem_cons] at wellFormed ⊢
    obtain ⟨-, left, hole, right⟩ := wellFormed
    exact ⟨by simp, left, ih hole, right⟩
  | namedField before after name _ ih =>
    simp only [wellFormed_namedTuple_iff, List.forall_mem_append, List.forall_mem_cons]
      at wellFormed ⊢
    obtain ⟨-, left, ⟨valid, hole⟩, right⟩ := wellFormed
    exact ⟨by simp, left, ⟨valid, ih hole⟩, right⟩

/-- A run from a well-formed type ends in a well-formed type. -/
theorem Widens.wellFormed {type type' : Ty} (run : Widens type type')
    (wellFormed : type.WellFormed) : type'.WellFormed := by
  induction run with
  | refl => exact wellFormed
  | step _ next _ ih => exact ih next

/-! ### Runs inside a node -/

/-- One step is a run. -/
theorem WidensOnce.widens {type type' : Ty} (once : WidensOnce type type')
    (wellFormed : type.WellFormed) : Widens type type' :=
  .step once (once.wellFormed wellFormed) (.refl type')

/-- If the steps of a part are steps of the node around it, then so are the runs. -/
theorem Widens.lift (node : Ty → Ty)
    (onceInside : ∀ type type', WidensOnce type type' → WidensOnce (node type) (node type'))
    {type type' : Ty} (run : Widens type type') (wellFormed : (node type).WellFormed) :
    Widens (node type) (node type') := by
  -- The node around each next type is well-formed again, as a step from one that is.
  induction run with
  | refl type => exact .refl _
  | @step first next _ once _ _ ih =>
    have outer : WidensOnce (node first) (node next) := onceInside first next once
    have outerWellFormed : (node next).WellFormed := outer.wellFormed wellFormed
    exact .step outer outerWellFormed (ih outerWellFormed)

/-- If one element of a list can be widened inside a node, then so can all of them, one after
the other. The elements of `before` are those already done. -/
theorem widens_pointwise {α : Type} {node : List α → Ty} {R : α → α → Prop}
    (widenOne : ∀ before after a b, R a b → (node (before ++ a :: after)).WellFormed →
      Widens (node (before ++ a :: after)) (node (before ++ b :: after)))
    {lower upper : List α} (pairs : List.Forall₂ R lower upper) (before : List α)
    (wellFormed : (node (before ++ lower)).WellFormed) :
    Widens (node (before ++ lower)) (node (before ++ upper)) := by
  induction pairs generalizing before with
  | nil => exact .refl _
  | @cons a b lower upper head _ ih =>
    have first : Widens (node (before ++ a :: lower)) (node (before ++ b :: lower)) :=
      widenOne before lower a b head wellFormed
    -- What is left to widen starts from the end of the first run, which is well-formed again.
    have between : (node (before ++ [b] ++ lower)).WellFormed := by
      simpa using first.wellFormed wellFormed
    have rest : Widens (node (before ++ [b] ++ lower)) (node (before ++ [b] ++ upper)) :=
      ih (before ++ [b]) between
    simp only [List.append_assoc, List.singleton_append] at rest
    exact first.trans rest

/-! ### Every accepted pair has a run -/

/-- Every tag has another one beside it. -/
theorem exists_tag_ne (tag : Tag) : ∃ other : Tag, other ≠ tag := by
  by_cases absent : tag = .absent
  · exact ⟨⟨0, 0, 0, 1⟩, by rw [absent]; decide⟩
  · exact ⟨.absent, Ne.symm absent⟩

/-- Every foreign leaf is reached from every other one. If only the provider changes, the way
goes through a third tag. -/
theorem widens_foreign (type type' : ForeignType) : Widens (foreign type) (foreign type') := by
  by_cases same : type.tag = type'.tag
  · obtain ⟨tag, other⟩ := exists_tag_ne type.tag
    have away : WidensOnce (foreign type) (foreign ⟨tag, type.provider⟩) := .retag _ _ other.symm
    have back : WidensOnce (foreign ⟨tag, type.provider⟩) (foreign type') :=
      .retag _ _ (by rw [← same]; exact other)
    exact .step away trivial (back.widens trivial)
  · exact (WidensOnce.retag type type' same).widens trivial

/-- The name of a field stays and its type is widened. -/
def FieldWidens (field field' : Field Ty) : Prop :=
  field.name = field'.name ∧ Widens field.type field'.type

/-- A supertype is reached from a well-formed type by widening steps. -/
theorem widens_of_isSubtype {sub sup : Ty} (wellFormed : sub.WellFormed)
    (accepted : sub.isSubtype sup) : Widens sub sup := by
  -- By the rule that accepts the pair. With `any` above, the whole subtype is replaced in one step.
  induction sub generalizing sup with
  | any | bool | event | machine | int =>
    cases subtypeRule_of_isSubtype accepted with
    | any => exact (WidensOnce.toAny _).widens wellFormed
    | _ => exact .refl _
  | null =>
    cases subtypeRule_of_isSubtype accepted with
    | any => exact (WidensOnce.toAny null).widens wellFormed
    | null => exact .refl null
    | nullEvent => exact WidensOnce.nullToEvent.widens wellFormed
    | nullMachine => exact WidensOnce.nullToMachine.widens wellFormed
  | foreign type =>
    cases subtypeRule_of_isSubtype accepted with
    | any => exact (WidensOnce.toAny _).widens wellFormed
    | foreign _ type' => exact widens_foreign type type'
  | map domain codomain ihDomain ihCodomain =>
    cases subtypeRule_of_isSubtype accepted with
    | any => exact (WidensOnce.toAny _).widens wellFormed
    | @map _ domain' _ codomain' domains codomains =>
      -- First the domain, then the codomain beside the new domain.
      have left : Widens (map domain codomain) (map domain' codomain) :=
        (ihDomain wellFormed.1 domains).lift (map · codomain)
          (fun _ _ once => .domain codomain once) wellFormed
      have right : Widens (map domain' codomain) (map domain' codomain') :=
        (ihCodomain wellFormed.2 codomains).lift (map domain' ·)
          (fun _ _ once => .codomain domain' once) (left.wellFormed wellFormed)
      exact left.trans right
  | seq inner ih =>
    cases subtypeRule_of_isSubtype accepted with
    | any => exact (WidensOnce.toAny _).widens wellFormed
    | seq inners => exact (ih wellFormed inners).lift seq (fun _ _ once => .inner once) wellFormed
  | tuple fields ih =>
    cases subtypeRule_of_isSubtype accepted with
    | any => exact (WidensOnce.toAny _).widens wellFormed
    | @tuple _ sups pairs =>
      have each : ∀ type ∈ fields, type.WellFormed := (wellFormed_tuple_iff.mp wellFormed).2
      have runs : List.Forall₂ Widens fields sups := by
        refine forall₂_imp_of_mem ?_ pairs
        intro type mem type' accepted
        exact ih type mem (each type mem) accepted
      refine widens_pointwise ?_ runs [] wellFormed
      intro before after type type' run inside
      exact run.lift (fun hole => tuple (before ++ hole :: after))
        (fun _ _ once => .field before after once) inside
  | namedTuple fields ih =>
    cases subtypeRule_of_isSubtype accepted with
    | any => exact (WidensOnce.toAny _).widens wellFormed
    | @namedTuple _ sups pairs =>
      have each := (wellFormed_namedTuple_iff.mp wellFormed).2
      have runs : List.Forall₂ FieldWidens fields sups := by
        refine forall₂_imp_of_mem ?_ pairs
        intro field mem field' accepted
        exact ⟨accepted.1, ih field mem (each field mem).2 accepted.2⟩
      refine widens_pointwise ?_ runs [] wellFormed
      rintro before after ⟨name, type⟩ ⟨_, type'⟩ ⟨rfl, run⟩ inside
      exact run.lift (fun hole => namedTuple (before ++ ⟨name, hole⟩ :: after))
        (fun _ _ once => .namedField before after name once) inside

/-- A type is a subtype of another exactly when the other is reached from it by widening steps
through well-formed types. -/
theorem isSubtype_iff_widens {sub sup : Ty} (wellFormed : sub.WellFormed) :
    sub.isSubtype sup ↔ Widens sub sup :=
  ⟨widens_of_isSubtype wellFormed, Widens.isSubtype⟩

/-- From one tuple both fields can be widened, and `int` never becomes `event`. -/
theorem isSubtype_iff_widens_tuple :
    (tuple [null, seq int]).WellFormed ∧ Widens (tuple [null, seq int]) (tuple [event, any]) ∧
      ¬ Widens (tuple [null, seq int]) (tuple [null, seq event]) := by
  have wellFormed : (tuple [null, seq int]).WellFormed := by simp [WellFormed, AllWellFormed]
  refine ⟨wellFormed, (isSubtype_iff_widens wellFormed).mp (by decide), ?_⟩
  intro run
  have accepted : (tuple [null, seq int]).isSubtype (tuple [null, seq event]) :=
    (isSubtype_iff_widens wellFormed).mpr run
  exact absurd accepted (by decide)

end MachineTypes.Ty
