import MachineTypes.Proofs.Subtype.Widening
import MachineTypes.Proofs.Ty.Built
import MachineTypes.Subtype.Order

/-!
# `MachineTypes.Proofs.Subtype.Bounds`: least upper and greatest lower bounds

One equation says all that there is to say of each bound. A type is above `left.join right` when it
is above both (`join_isSubtype`), and below what `left.meet? right` finds when it is below both
(`any_meet?`). If there is no meet, the second equation says that no type is below both.

Both are inductions along the two types (`ind_pair`). Where the roots are of one kind and have
children, the equations of the children are put together, for lists of fields by
`exists_pairwise?_iff`. Everywhere else the definitions compare the whole types. Two types that are
incomparable there have nothing but `any` above both (`eq_any_of_isSubtype`) and nothing but `null`
below both (`eq_null_of_isSubtype`).

The equations ask for nothing of the types. That the bounds can be built again takes an argument of
its own. A join is a supertype of a built type, and all of these are well-formed by the runs of
`Proofs.Subtype.Widening`. For a meet there is no such reason, since below a well-formed type are
others that are not, so `wellFormed_of_meet?` goes through the definition once more.

`exists_least_and_greatest_bound` puts both together. The bounds in it are least and greatest among
all types and not among built ones only.
-/

set_option autoImplicit false

namespace MachineTypes

/-! ### Lists put together -/

section
variable {α β : Type} {op : α → α → Option α}

/-- Lists are put together by putting their first elements together and then the others. -/
theorem pairwise?_cons_eq_some_iff {left right : α} {lefts rights bounds : List α} :
    pairwise? op (left :: lefts) (right :: rights) = some bounds ↔
      ∃ first rest, op left right = some first ∧ pairwise? op lefts rights = some rest ∧
        first :: rest = bounds := by
  simp [pairwise?, Option.bind_eq_some_iff]

/-- What lists are put together to is related to the same lists as both of them, if so for the
elements. -/
theorem exists_pairwise?_iff {R : α → β → Prop} {lefts rights : List α} {others : List β}
    (each : ∀ left ∈ lefts, ∀ right other,
      (∃ bound, op left right = some bound ∧ R bound other) ↔ R left other ∧ R right other) :
    (∃ bounds, pairwise? op lefts rights = some bounds ∧ List.Forall₂ R bounds others) ↔
      List.Forall₂ R lefts others ∧ List.Forall₂ R rights others := by
  -- Lists of different lengths are related to no common list, and they are not put together either.
  induction lefts generalizing rights others with
  | nil =>
    cases rights with
    | nil => simp [pairwise?]
    | cons => cases others <;> simp [pairwise?]
  | cons left lefts ih =>
    cases rights with
    | nil => cases others <;> simp [pairwise?]
    | cons right rights =>
      have headIff := each left List.mem_cons_self right
      have restIff : ∀ others,
          (∃ bounds, pairwise? op lefts rights = some bounds ∧ List.Forall₂ R bounds others) ↔
            List.Forall₂ R lefts others ∧ List.Forall₂ R rights others :=
        fun others => ih fun other mem => each other (List.mem_cons_of_mem _ mem)
      constructor
      · rintro ⟨bounds, together, related⟩
        obtain ⟨first, rest, head, tail, rfl⟩ := pairwise?_cons_eq_some_iff.mp together
        cases related with
        | @cons _ other _ others related relatedRest =>
          obtain ⟨leftRelated, rightRelated⟩ := (headIff other).mp ⟨first, head, related⟩
          obtain ⟨leftsRelated, rightsRelated⟩ := (restIff others).mp ⟨rest, tail, relatedRest⟩
          exact ⟨.cons leftRelated leftsRelated, .cons rightRelated rightsRelated⟩
      · rintro ⟨leftsRelated, rightsRelated⟩
        cases leftsRelated with
        | @cons _ other _ others leftRelated leftsRelated =>
          cases rightsRelated with
          | cons rightRelated rightsRelated =>
            obtain ⟨first, head, related⟩ := (headIff other).mpr ⟨leftRelated, rightRelated⟩
            obtain ⟨rest, tail, relatedRest⟩ := (restIff others).mpr ⟨leftsRelated, rightsRelated⟩
            exact ⟨first :: rest, pairwise?_cons_eq_some_iff.mpr ⟨first, rest, head, tail, rfl⟩,
              .cons related relatedRest⟩

/-- Lists that are put together are of one length, so from fields come fields. -/
theorem ne_nil_of_pairwise? {lefts rights bounds : List α}
    (together : pairwise? op lefts rights = some bounds) (nonempty : lefts ≠ []) :
    bounds ≠ [] := by
  rintro rfl
  cases lefts <;> cases rights
  case nil.nil => exact nonempty rfl
  case cons.cons =>
    obtain ⟨_, _, _, _, same⟩ := pairwise?_cons_eq_some_iff.mp together
    cases same
  all_goals cases together

/-- What lists are put together to is made of elements put together. -/
theorem exists_of_mem_pairwise? {lefts rights bounds : List α} {bound : α}
    (together : pairwise? op lefts rights = some bounds) (mem : bound ∈ bounds) :
    ∃ left ∈ lefts, ∃ right ∈ rights, op left right = some bound := by
  induction lefts generalizing rights bounds with
  | nil => cases rights <;> cases together; cases mem
  | cons left lefts ih =>
    cases rights with
    | nil => cases together
    | cons right rights =>
      obtain ⟨first, rest, head, tail, rfl⟩ := pairwise?_cons_eq_some_iff.mp together
      cases mem with
      | head => exact ⟨left, List.mem_cons_self, right, List.mem_cons_self, head⟩
      | tail _ mem =>
        obtain ⟨left', mem', right', mem'', made⟩ := ih tail mem
        exact ⟨left', List.mem_cons_of_mem _ mem', right', List.mem_cons_of_mem _ mem'', made⟩

end

/-- Fields are put together to a field exactly when they have its name and their types are put
together to its type. -/
theorem Field.combine?_eq_some_iff {α : Type} {op : α → α → Option α}
    {left right bound : Field α} :
    combine? op left right = some bound ↔
      left.name = bound.name ∧ right.name = bound.name ∧
        op left.type right.type = some bound.type := by
  obtain ⟨name, type⟩ := bound
  by_cases same : left.name = right.name
  · simp [combine?, same]
    tauto
  · have different : ¬ (left.name = name ∧ right.name = name) := by
      rintro ⟨rfl, same'⟩
      exact same same'.symm
    simp [combine?, same]
    tauto

/-- If what two types are put together to is related to the same types as both, so is a field of
such types to fields of the same name. -/
theorem Field.exists_combine?_iff {α : Type} {op : α → α → Option α} {R : α → α → Prop}
    {left right other : Field α}
    (types : (∃ type, op left.type right.type = some type ∧ R type other.type) ↔
      R left.type other.type ∧ R right.type other.type) :
    (∃ bound, combine? op left right = some bound ∧
        bound.name = other.name ∧ R bound.type other.type) ↔
      (left.name = other.name ∧ R left.type other.type) ∧
        (right.name = other.name ∧ R right.type other.type) := by
  constructor
  · rintro ⟨bound, together, name, related⟩
    obtain ⟨leftName, rightName, type⟩ := combine?_eq_some_iff.mp together
    obtain ⟨ofLeft, ofRight⟩ := types.mp ⟨bound.type, type, related⟩
    exact ⟨⟨leftName.trans name, ofLeft⟩, rightName.trans name, ofRight⟩
  · rintro ⟨⟨leftName, ofLeft⟩, rightName, ofRight⟩
    obtain ⟨type, together, related⟩ := types.mpr ⟨ofLeft, ofRight⟩
    refine ⟨⟨other.name, type⟩, ?_, rfl, related⟩
    exact combine?_eq_some_iff.mpr ⟨leftName, rightName, together⟩

namespace Ty

/-! ### The definitions, opened -/

/-- The joins of two lists of types are put together place by place. -/
theorem joinAll?_eq (lefts rights : List Ty) :
    joinAll? lefts rights = pairwise? (fun left right => some (left.join right)) lefts rights := by
  induction lefts generalizing rights with
  | nil => cases rights <;> rfl
  | cons left lefts ih =>
    cases rights with
    | nil => rfl
    | cons right rights =>
      rw [joinAll?, ih]
      rfl

/-- The joins of two lists of fields are put together place by place, if the names are the same. -/
theorem joinFields?_eq (lefts rights : List (Field Ty)) :
    joinFields? lefts rights
      = pairwise? (Field.combine? fun left right => some (left.join right)) lefts rights := by
  induction lefts generalizing rights with
  | nil => cases rights <;> rfl
  | cons left lefts ih =>
    cases rights with
    | nil => rfl
    | cons right rights =>
      rw [joinFields?, ih, pairwise?, Field.combine?]
      split <;> rfl

/-- The meets of two lists of types are put together place by place. -/
theorem meetAll?_eq (lefts rights : List Ty) :
    meetAll? lefts rights = pairwise? meet? lefts rights := by
  induction lefts generalizing rights with
  | nil => cases rights <;> rfl
  | cons left lefts ih =>
    cases rights with
    | nil => rfl
    | cons right rights => rw [meetAll?, ih, pairwise?]

/-- The meets of two lists of fields are put together place by place, if the names are the same. -/
theorem meetFields?_eq (lefts rights : List (Field Ty)) :
    meetFields? lefts rights = pairwise? (Field.combine? meet?) lefts rights := by
  induction lefts generalizing rights with
  | nil => cases rights <;> rfl
  | cons left lefts ih =>
    cases rights with
    | nil => rfl
    | cons right rights =>
      rw [meetFields?, ih, pairwise?, Field.combine?]
      split
      · cases left.type.meet? right.type <;> rfl
      · rfl

/-! ### Two types side by side -/

/-- The roots are not of one kind that has children. -/
def Unpaired (left right : Ty) : Prop :=
  left.kind = right.kind → left.kind.isPrimitive ∨ left.kind = .foreign

/-- Induction along two types, down to where their roots no longer have children of one kind. -/
theorem ind_pair {motive : Ty → Ty → Prop}
    (unpaired : ∀ left right, Unpaired left right → motive left right)
    (map : ∀ domain domain' codomain codomain', motive domain domain' → motive codomain codomain' →
      motive (map domain codomain) (map domain' codomain'))
    (seq : ∀ inner inner', motive inner inner' → motive (seq inner) (seq inner'))
    (tuple : ∀ fields fields', (∀ type ∈ fields, ∀ type', motive type type') →
      motive (tuple fields) (tuple fields'))
    (namedTuple : ∀ fields fields', (∀ field ∈ fields, ∀ type', motive field.type type') →
      motive (namedTuple fields) (namedTuple fields'))
    (left right : Ty) : motive left right := by
  -- The second type goes along: its root is compared with that of the first one.
  induction left generalizing right with
  | any | bool | event | machine | int | null => exact unpaired _ _ fun _ => .inl rfl
  | foreign => exact unpaired _ _ fun _ => .inr rfl
  | map domain codomain ihDomain ihCodomain =>
    cases right
    case map domain' codomain' => exact map _ _ _ _ (ihDomain domain') (ihCodomain codomain')
    all_goals exact unpaired _ _ fun same => by cases same
  | seq inner ih =>
    cases right
    case seq inner' => exact seq _ _ (ih inner')
    all_goals exact unpaired _ _ fun same => by cases same
  | tuple fields ih =>
    cases right
    case tuple fields' => exact tuple _ _ ih
    all_goals exact unpaired _ _ fun same => by cases same
  | namedTuple fields ih =>
    cases right
    case namedTuple fields' => exact namedTuple _ _ ih
    all_goals exact unpaired _ _ fun same => by cases same

/-! ### Roots that are not paired -/

section
variable {left right : Ty} (unpaired : Unpaired left right)
include unpaired

/-- The definition of the join below all cases for nodes with children. -/
theorem join_of_unpaired :
    left.join right
      = if left.isSubtype right then right else if right.isSubtype left then left else any := by
  cases left <;> cases right <;> first | rfl | exact (unpaired rfl).elim nofun nofun

/-- The same for the meet. -/
theorem meet?_of_unpaired :
    left.meet? right
      = if left.isSubtype right then some left
        else if right.isSubtype left then some right
        else if null.isSubtype left ∧ null.isSubtype right then some null
        else none := by
  cases left <;> cases right <;> first | rfl | exact (unpaired rfl).elim nofun nofun

/-- Nothing but `any` is above two incomparable types whose roots are not paired. -/
theorem eq_any_of_isSubtype (notLeft : ¬ left.isSubtype right) (notRight : ¬ right.isSubtype left)
    {sup : Ty} (ofLeft : left.isSubtype sup) (ofRight : right.isSubtype sup) : sup = any := by
  cases subtypeRule_of_isSubtype ofLeft with
  | any => rfl
  | map | seq | tuple | namedTuple =>
    cases subtypeRule_of_isSubtype ofRight
    exact (unpaired rfl).elim nofun nofun
  | bool | event | machine | int | null | nullEvent | nullMachine | foreign =>
    -- A leaf has only itself and `null` below it, and these two are comparable.
    cases subtypeRule_of_isSubtype ofRight <;>
      first | exact absurd rfl notLeft | exact absurd rfl notRight

/-- Nothing but `null` is below two incomparable types whose roots are not paired. -/
theorem eq_null_of_isSubtype (notLeft : ¬ left.isSubtype right) (notRight : ¬ right.isSubtype left)
    {sub : Ty} (ofLeft : sub.isSubtype left) (ofRight : sub.isSubtype right) : sub = null := by
  cases subtypeRule_of_isSubtype ofLeft with
  | any => exact absurd (isSubtype_any right) notRight
  | null | nullEvent | nullMachine => rfl
  | map | seq | tuple | namedTuple =>
    cases subtypeRule_of_isSubtype ofRight with
    | any => exact absurd (isSubtype_any _) notLeft
    | _ => exact (unpaired rfl).elim nofun nofun
  | bool | event | machine | int | foreign =>
    cases subtypeRule_of_isSubtype ofRight with
    | any => exact absurd (isSubtype_any _) notLeft
    | _ => exact absurd rfl notLeft

/-- The join of two types that are not compared child by child: the greater of two comparable types,
and `any` above others. -/
theorem join_isSubtype_of_unpaired (sup : Ty) :
    (left.join right).isSubtype sup = (left.isSubtype sup && right.isSubtype sup) := by
  -- Three cases, as in the definition. In the first two the bound is one of the types.
  rw [join_of_unpaired unpaired, Bool.eq_iff_iff, Bool.and_eq_true]
  split
  case isTrue below =>
    exact ⟨fun h => ⟨isSubtype_trans below h, h⟩, fun both => both.2⟩
  case isFalse notLeft =>
    split
    case isTrue below =>
      exact ⟨fun h => ⟨h, isSubtype_trans below h⟩, fun both => both.1⟩
    case isFalse notRight =>
      constructor
      · intro top
        cases subtypeRule_of_isSubtype top
        exact ⟨isSubtype_any left, isSubtype_any right⟩
      · intro both
        rw [eq_any_of_isSubtype unpaired notLeft notRight both.1 both.2]
        rfl

/-- The meet of two such types: the smaller of two comparable types, `null` below others that have
it below them, and none below the rest. -/
theorem any_meet?_of_unpaired (sub : Ty) :
    (left.meet? right).any sub.isSubtype = (sub.isSubtype left && sub.isSubtype right) := by
  -- Four cases, as in the definition. In the last one the types have nothing below both.
  rw [meet?_of_unpaired unpaired, Bool.eq_iff_iff, Bool.and_eq_true]
  split
  case isTrue below =>
    exact ⟨fun h => ⟨h, isSubtype_trans h below⟩, fun both => both.1⟩
  case isFalse notLeft =>
    split
    case isTrue below =>
      exact ⟨fun h => ⟨isSubtype_trans h below, h⟩, fun both => both.2⟩
    case isFalse notRight =>
      split
      case isTrue below =>
        constructor
        · intro h
          exact ⟨isSubtype_trans h below.1, isSubtype_trans h below.2⟩
        · intro both
          rw [eq_null_of_isSubtype unpaired notLeft notRight both.1 both.2]
          rfl
      case isFalse notBelow =>
        refine iff_of_false nofun fun both => notBelow ?_
        rw [← eq_null_of_isSubtype unpaired notLeft notRight both.1 both.2]
        exact both

/-- The meet of two such types is one of them or a leaf. -/
theorem wellFormed_of_meet?_of_unpaired {bound : Ty} (leftWellFormed : left.WellFormed)
    (rightWellFormed : right.WellFormed) (found : left.meet? right = some bound) :
    bound.WellFormed := by
  rw [meet?_of_unpaired unpaired] at found
  split at found
  · cases found
    exact leftWellFormed
  · split at found
    · cases found
      exact rightWellFormed
    · split at found <;> cases found
      exact trivial

end

/-! ### Nodes with a list of fields -/

section
variable {α : Type} {node : List α → Ty} {R : α → α → Prop} {op : α → α → Option α}
  {lefts rights : List α}
  (nodeIff : ∀ subs sups, (node subs).isSubtype (node sups) ↔ List.Forall₂ R subs sups)
include nodeIff

/-- The join of two tuples, of either sort. `R` relates fields as the order relates the tuples, and
the tuples have `any` above them alone if their fields cannot be put together. -/
theorem join_isSubtype_of_pairwise {sups : List α} (notAny : any.isSubtype (node sups) = false)
    (each : ∀ left ∈ lefts, ∀ right sup,
      (∃ bound, op left right = some bound ∧ R bound sup) ↔ R left sup ∧ R right sup) :
    (((pairwise? op lefts rights).map node).getD any).isSubtype (node sups)
      = ((node lefts).isSubtype (node sups) && (node rights).isSubtype (node sups)) := by
  rw [Bool.eq_iff_iff, Bool.and_eq_true, nodeIff, nodeIff, ← exists_pairwise?_iff each]
  cases pairwise? op lefts rights with
  | none => simp [notAny]
  | some bounds => simp [nodeIff]

/-- The meet of two tuples, of either sort. There is none if their fields cannot be put together. -/
theorem any_meet?_of_pairwise {subs : List α}
    (each : ∀ left ∈ lefts, ∀ right sub,
      (∃ bound, op left right = some bound ∧ R sub bound) ↔ R sub left ∧ R sub right) :
    ((pairwise? op lefts rights).map node).any (node subs).isSubtype
      = ((node subs).isSubtype (node lefts) && (node subs).isSubtype (node rights)) := by
  -- The types below are on the other side of the relation, so it is turned around.
  have swapIff : ∀ sups,
      (node subs).isSubtype (node sups) ↔ List.Forall₂ (fun sup sub => R sub sup) sups subs :=
    fun sups => (nodeIff subs sups).trans ⟨.flip, .flip⟩
  rw [Bool.eq_iff_iff, Bool.and_eq_true, swapIff, swapIff, ← exists_pairwise?_iff each]
  cases pairwise? op lefts rights with
  | none => simp
  | some bounds => simp [swapIff]

end

/-! ### The bounds -/

/-- A type is above the join exactly when it is above both types. -/
theorem join_isSubtype (left right sup : Ty) :
    (left.join right).isSubtype sup = (left.isSubtype sup && right.isSubtype sup) := by
  -- Above a node with children there are only `any` and nodes of the same kind.
  induction left, right using ind_pair generalizing sup with
  | unpaired left right unpaired => exact join_isSubtype_of_unpaired unpaired sup
  | map domain domain' codomain codomain' ihDomain ihCodomain =>
    cases sup with
    | any => simp
    | map domain'' codomain'' =>
      rw [join, isSubtype_map, isSubtype_map, isSubtype_map, ihDomain, ihCodomain]
      ac_rfl
    | _ => rfl
  | seq inner inner' ih =>
    cases sup with
    | any => simp
    | seq inner'' => rw [join, isSubtype_seq, isSubtype_seq, isSubtype_seq, ih]
    | _ => rfl
  | tuple fields fields' ih =>
    rw [join, joinAll?_eq]
    cases sup with
    | any => simp
    | tuple sups =>
      refine join_isSubtype_of_pairwise (fun _ _ => isSubtype_tuple_iff) rfl ?_
      intro type mem type' sup
      simp [ih type mem]
    | _ => cases pairwise? _ fields fields' <;> rfl
  | namedTuple fields fields' ih =>
    rw [join, joinFields?_eq]
    cases sup with
    | any => simp
    | namedTuple sups =>
      refine join_isSubtype_of_pairwise (fun _ _ => isSubtype_namedTuple_iff) rfl ?_
      intro field mem field' sup
      refine Field.exists_combine?_iff (R := fun (sub sup : Ty) => sub.isSubtype sup) ?_
      simp [ih field mem]
    | _ => cases pairwise? _ fields fields' <;> rfl

/-- A type is below the meet exactly when it is below both types. If there is no meet, no type is
below both. -/
theorem any_meet? (left right sub : Ty) :
    (left.meet? right).any sub.isSubtype = (sub.isSubtype left && sub.isSubtype right) := by
  -- Below a node with children there are only nodes of the same kind.
  induction left, right using ind_pair generalizing sub with
  | unpaired left right unpaired => exact any_meet?_of_unpaired unpaired sub
  | map domain domain' codomain codomain' ihDomain ihCodomain =>
    rw [meet?]
    cases sub with
    | map key value =>
      have regroup : ∀ a b c d, ((a && b) && (c && d)) = ((a && c) && (b && d)) := by decide
      rw [isSubtype_map, isSubtype_map, regroup, ← ihDomain, ← ihCodomain]
      cases domain.meet? domain' <;> cases codomain.meet? codomain' <;> simp
    | _ => cases domain.meet? domain' <;> cases codomain.meet? codomain' <;> rfl
  | seq inner inner' ih =>
    rw [meet?]
    cases sub with
    | seq inner'' =>
      rw [isSubtype_seq, isSubtype_seq, ← ih]
      cases inner.meet? inner' <;> simp
    | _ => cases inner.meet? inner' <;> rfl
  | tuple fields fields' ih =>
    rw [meet?, meetAll?_eq]
    cases sub with
    | tuple subs =>
      refine any_meet?_of_pairwise (fun _ _ => isSubtype_tuple_iff) ?_
      intro type mem type' sub
      rw [← Option.any_eq_true, ih type mem, Bool.and_eq_true]
    | _ => cases pairwise? _ fields fields' <;> rfl
  | namedTuple fields fields' ih =>
    rw [meet?, meetFields?_eq]
    cases sub with
    | namedTuple subs =>
      refine any_meet?_of_pairwise (fun _ _ => isSubtype_namedTuple_iff) ?_
      intro field mem field' sub
      simp only [FieldSubtype, @eq_comm _ sub.name]
      refine Field.exists_combine?_iff (R := fun (sup sub : Ty) => sub.isSubtype sup) ?_
      rw [← Option.any_eq_true, ih field mem, Bool.and_eq_true]
    | _ => cases pairwise? _ fields fields' <;> rfl

/-- A meet of well-formed types is well-formed. A join is too, as a supertype of one. -/
theorem wellFormed_of_meet? {left right bound : Ty} (leftWellFormed : left.WellFormed)
    (rightWellFormed : right.WellFormed) (found : left.meet? right = some bound) :
    bound.WellFormed := by
  induction left, right using ind_pair generalizing bound with
  | unpaired left right unpaired =>
    exact wellFormed_of_meet?_of_unpaired unpaired leftWellFormed rightWellFormed found
  | map domain domain' codomain codomain' ihDomain ihCodomain =>
    rw [meet?] at found
    obtain ⟨key, keyFound, found⟩ := Option.bind_eq_some_iff.mp found
    obtain ⟨value, valueFound, found⟩ := Option.bind_eq_some_iff.mp found
    cases found
    exact ⟨ihDomain leftWellFormed.1 rightWellFormed.1 keyFound,
      ihCodomain leftWellFormed.2 rightWellFormed.2 valueFound⟩
  | seq inner inner' ih =>
    rw [meet?] at found
    obtain ⟨element, elementFound, rfl⟩ := Option.map_eq_some_iff.mp found
    have wellFormed : element.WellFormed := ih leftWellFormed rightWellFormed elementFound
    exact wellFormed
  | tuple fields fields' ih =>
    rw [meet?, meetAll?_eq] at found
    obtain ⟨bounds, together, rfl⟩ := Option.map_eq_some_iff.mp found
    rw [wellFormed_tuple_iff] at leftWellFormed rightWellFormed ⊢
    refine ⟨ne_nil_of_pairwise? together leftWellFormed.1, ?_⟩
    intro bound mem
    obtain ⟨type, mem', type', mem'', made⟩ := exists_of_mem_pairwise? together mem
    exact ih type mem' type' (leftWellFormed.2 type mem') (rightWellFormed.2 type' mem'') made
  | namedTuple fields fields' ih =>
    rw [meet?, meetFields?_eq] at found
    obtain ⟨bounds, together, rfl⟩ := Option.map_eq_some_iff.mp found
    rw [wellFormed_namedTuple_iff] at leftWellFormed rightWellFormed ⊢
    refine ⟨ne_nil_of_pairwise? together leftWellFormed.1, ?_⟩
    intro bound mem
    obtain ⟨field, mem', field', mem'', made⟩ := exists_of_mem_pairwise? together mem
    obtain ⟨name, -, type⟩ := Field.combine?_eq_some_iff.mp made
    obtain ⟨valid, fieldWellFormed⟩ := leftWellFormed.2 field mem'
    obtain ⟨-, fieldWellFormed'⟩ := rightWellFormed.2 field' mem''
    exact ⟨name ▸ valid, ih field mem' _ fieldWellFormed fieldWellFormed' type⟩

/-- Two built types have a least type above both. If there is a type below both, they have a
greatest one. Both bounds can be built. -/
theorem exists_least_and_greatest_bound (a b : Ty) (aBuilt : a.Built) (bBuilt : b.Built) :
    (∃ join : Ty, join.Built ∧ a.isSubtype join ∧ b.isSubtype join ∧
      ∀ sup : Ty, a.isSubtype sup → b.isSubtype sup → join.isSubtype sup) ∧
    ((∃ sub : Ty, sub.isSubtype a ∧ sub.isSubtype b) →
      ∃ meet : Ty, meet.Built ∧ meet.isSubtype a ∧ meet.isSubtype b ∧
        ∀ sub : Ty, sub.isSubtype a → sub.isSubtype b → sub.isSubtype meet) := by
  constructor
  · have above : a.isSubtype (a.join b) ∧ b.isSubtype (a.join b) := by
      rw [← Bool.and_eq_true, ← join_isSubtype]
      exact isSubtype_refl _
    have wellFormed : (a.join b).WellFormed :=
      (widens_of_isSubtype aBuilt.wellFormed above.1).wellFormed aBuilt.wellFormed
    refine ⟨a.join b, built_iff_wellFormed.mpr wellFormed, above.1, above.2, ?_⟩
    intro sup ofLeft ofRight
    rw [join_isSubtype, ofLeft, ofRight]
    rfl
  · rintro ⟨sub, ofLeft, ofRight⟩
    have bounded : (a.meet? b).any sub.isSubtype := by
      rw [any_meet?, ofLeft, ofRight]
      rfl
    obtain ⟨meet, found, -⟩ := (Option.any_eq_true _ _).mp bounded
    have belowIff : ∀ sub : Ty, sub.isSubtype meet ↔ sub.isSubtype a ∧ sub.isSubtype b := by
      intro sub
      rw [← Bool.and_eq_true, ← any_meet?, found]
      rfl
    have below := (belowIff meet).mp (isSubtype_refl meet)
    have wellFormed := wellFormed_of_meet? aBuilt.wellFormed bBuilt.wellFormed found
    refine ⟨meet, built_iff_wellFormed.mpr wellFormed, below.1, below.2, ?_⟩
    intro sub ofLeft ofRight
    exact (belowIff sub).mpr ⟨ofLeft, ofRight⟩

/-- Two tuples with `null` as the only type below their first fields, and `any` as the only type
above them. -/
theorem exists_least_and_greatest_bound_tuple :
    (tuple [event, seq int]).Built ∧ (tuple [machine, seq int]).Built ∧
    (∃ join : Ty, join.Built ∧ (tuple [event, seq int]).isSubtype join ∧
      (tuple [machine, seq int]).isSubtype join ∧ join.isSubtype (tuple [any, seq int])) ∧
    (∃ meet : Ty, meet.Built ∧ meet.isSubtype (tuple [event, seq int]) ∧
      meet.isSubtype (tuple [machine, seq int]) ∧ (tuple [null, seq int]).isSubtype meet) := by
  have leftBuilt : (tuple [event, seq int]).Built :=
    built_iff_wellFormed.mpr (by simp [WellFormed, AllWellFormed])
  have rightBuilt : (tuple [machine, seq int]).Built :=
    built_iff_wellFormed.mpr (by simp [WellFormed, AllWellFormed])
  have bounds := exists_least_and_greatest_bound _ _ leftBuilt rightBuilt
  obtain ⟨join, joinBuilt, ofLeft, ofRight, least⟩ := bounds.1
  obtain ⟨meet, meetBuilt, toLeft, toRight, greatest⟩ :=
    bounds.2 ⟨tuple [null, seq int], by decide, by decide⟩
  exact ⟨leftBuilt, rightBuilt,
    ⟨join, joinBuilt, ofLeft, ofRight, least _ (by decide) (by decide)⟩,
    ⟨meet, meetBuilt, toLeft, toRight, greatest _ (by decide) (by decide)⟩⟩

end Ty

end MachineTypes
