import Mathlib.Data.List.Forall2
import MachineTypes.Proofs.Ty.MapForeign
import MachineTypes.Subtype.Events

/-!
# `MachineTypes.Proofs.Subtype.Rules`: subtyping as a table of rules

`SubtypeRule` is the rule table of subtyping for one pair of nodes, with `isSubtype` in its
premises. `isSubtype_iff_rule` says that the check decides it. The proofs about subtyping go by
cases on this relation and never unfold the check.

`isSubtype_iff_children` is the same for all nodes alike: the roots fit, and so do the children
that correspond. From it follows `isSubtype_mapForeign`: foreign leaves can be replaced on both
sides without a change of verdict.

The rules are not those of a textbook in two places. A foreign leaf is below every other foreign
leaf, whatever their tags are. And `null` is below `event` and `machine`, for which it stands in.
-/

set_option autoImplicit false

namespace MachineTypes

/-! ### Lists related element by element -/

/-- Two relations between lists compose if they compose at every element in the middle. -/
theorem forall₂_comp_of_mem {α β γ : Type} {R : α → β → Prop} {S : β → γ → Prop} {T : α → γ → Prop}
    {lower : List α} {middle : List β} {upper : List γ}
    (comp : ∀ b ∈ middle, ∀ a c, R a b → S b c → T a c)
    (left : List.Forall₂ R lower middle) (right : List.Forall₂ S middle upper) :
    List.Forall₂ T lower upper := by
  -- Along the lower pairs. The upper list is taken apart with them.
  induction left generalizing upper with
  | nil =>
    cases right
    exact .nil
  | @cons a b lower middle head _ ih =>
    cases right with
    | cons head' rest' =>
      have restComp : ∀ b ∈ middle, ∀ a c, R a b → S b c → T a c := by
        intro b mem
        exact comp b (List.mem_cons_of_mem _ mem)
      exact .cons (comp b (by simp) _ _ head head') (ih restComp rest')

/-- A relation between lists can be replaced by one that follows from it at every element of the
first list. -/
theorem forall₂_imp_of_mem {α β : Type} {R S : α → β → Prop} {lower : List α} {upper : List β}
    (imp : ∀ a ∈ lower, ∀ b, R a b → S a b) (pairs : List.Forall₂ R lower upper) :
    List.Forall₂ S lower upper := by
  -- `Forall₂.imp` does not know where an element is from, so that is added to the relation.
  have marked : List.Forall₂ (fun a b => a ∈ lower ∧ R a b) lower upper :=
    (List.forall₂_and_left lower upper).mpr ⟨fun _ mem => mem, pairs⟩
  refine marked.imp ?_
  intro a b both
  exact imp a both.1 b both.2

/-! ### What the roots are rejected for -/

namespace Mismatch

/-- Numbers of fields fit exactly when they are equal. -/
theorem ofArities?_eq_none_iff {sub sup : Nat} : ofArities? sub sup = none ↔ sub = sup := by
  unfold ofArities?
  split <;> simp_all

/-- Lists of names of one length have no first difference exactly when they are equal. -/
theorem ofNames?_eq_none_iff {subs sups : List String} (index : Nat)
    (length : subs.length = sups.length) :
    ofNames? index subs sups = none ↔ subs = sups := by
  -- For every index, which only counts where the difference is.
  induction subs generalizing index sups with
  | nil =>
    cases sups with
    | nil => simp [ofNames?]
    | cons => simp at length
  | cons sub subs ih =>
    cases sups with
    | nil => simp at length
    | cons sup sups =>
      have restIff : ofNames? (index + 1) subs sups = none ↔ subs = sups :=
        ih (index + 1) (by simpa using length)
      by_cases same : sub = sup <;> simp [ofNames?, same, restIff]

end Mismatch

namespace Ty

/-! ### Tuples, field by field -/

/-- A field can stand where another one is expected: it has the same name, and its type is a
subtype. -/
def FieldSubtype (sub sup : Field Ty) : Prop :=
  sub.name = sup.name ∧ sub.type.isSubtype sup.type

/-- The lists are compared at the places that both have. -/
theorem allSubtypes_iff_forall_mem_zip {subs sups : List Ty} :
    allSubtypes subs sups ↔ ∀ pair ∈ subs.zip sups, pair.1.isSubtype pair.2 := by
  induction subs generalizing sups with
  | nil => simp
  | cons sub subs ih =>
    cases sups with
    | nil => simp
    | cons sup sups =>
      rw [allSubtypes_cons, Bool.and_eq_true, ih, List.zip_cons_cons, List.forall_mem_cons]

/-- For lists of one length these are all places. -/
theorem allSubtypes_iff_forall₂ {subs sups : List Ty} (length : subs.length = sups.length) :
    allSubtypes subs sups ↔ List.Forall₂ (fun sub sup => sub.isSubtype sup) subs sups := by
  rw [allSubtypes_iff_forall_mem_zip, List.forall₂_iff_zip]
  constructor
  · intro all
    exact ⟨length, fun mem => all _ mem⟩
  · intro all pair mem
    exact all.2 mem

/-- A tuple is a subtype of another exactly when their fields correspond one to one. -/
theorem isSubtype_tuple_iff {subs sups : List Ty} :
    (tuple subs).isSubtype (tuple sups) ↔
      List.Forall₂ (fun sub sup => sub.isSubtype sup) subs sups := by
  rw [isSubtype_tuple, Bool.and_eq_true, decide_eq_true_eq]
  constructor
  · intro both
    exact (allSubtypes_iff_forall₂ both.1).mp both.2
  · intro all
    -- Lists that correspond element by element have one length, which the check looks at first.
    have length : subs.length = sups.length := all.length_eq
    exact ⟨length, (allSubtypes_iff_forall₂ length).mpr all⟩

/-- The texts of the names of fields, which the check compares. -/
theorem map_text (fields : List (Field Ty)) :
    fields.map (·.name.text) = (fields.map (·.name)).map FieldName.text := by
  rw [List.map_map]
  rfl

/-- Named tuples fit at the root exactly when they have the same names in the same order. -/
theorem mismatch?_namedTuple_eq_none_iff {subs sups : List (Field Ty)} :
    (namedTuple subs).mismatch? (namedTuple sups) = none ↔
      subs.map (·.name) = sups.map (·.name) := by
  rw [mismatch?, Option.or_eq_none_iff, Mismatch.ofArities?_eq_none_iff]
  constructor
  · intro both
    obtain ⟨length, names⟩ := both
    rw [Mismatch.ofNames?_eq_none_iff 0 (by simpa using length), map_text, map_text] at names
    exact FieldName.text_injective.list_map names
  · intro names
    have length : subs.length = sups.length := by simpa using congrArg List.length names
    rw [Mismatch.ofNames?_eq_none_iff 0 (by simpa using length), map_text, map_text, names]
    exact ⟨length, rfl⟩

/-- Fields correspond one to one exactly when the names are the same in the same order and the types
are compared with success. The first part is checked at the node, the second below it. -/
theorem forall₂_fieldSubtype_iff {subs sups : List (Field Ty)} :
    List.Forall₂ FieldSubtype subs sups ↔
      subs.map (·.name) = sups.map (·.name) ∧ fieldSubtypes subs sups := by
  induction subs generalizing sups with
  | nil => cases sups <;> simp [fieldSubtypes_eq_allSubtypes]
  | cons sub subs ih =>
    cases sups with
    | nil => simp
    | cons sup sups =>
      simp only [List.forall₂_cons, ih, FieldSubtype, List.map_cons, List.cons.injEq,
        fieldSubtypes_cons, Bool.and_eq_true]
      tauto

/-- A named tuple is a subtype of another exactly when their fields correspond one to one. -/
theorem isSubtype_namedTuple_iff {subs sups : List (Field Ty)} :
    (namedTuple subs).isSubtype (namedTuple sups) ↔ List.Forall₂ FieldSubtype subs sups := by
  rw [isSubtype_namedTuple, Bool.and_eq_true, Option.isNone_iff_eq_none,
    mismatch?_namedTuple_eq_none_iff, forall₂_fieldSubtype_iff]

/-! ### The rule table -/

/-- The rules of subtyping. The children of the two nodes are compared by `isSubtype`. -/
inductive SubtypeRule : Ty → Ty → Prop where
  | any (sub : Ty) : SubtypeRule sub any
  | bool : SubtypeRule bool bool
  | event : SubtypeRule event event
  | machine : SubtypeRule machine machine
  | int : SubtypeRule int int
  | null : SubtypeRule null null
  | nullEvent : SubtypeRule null event
  | nullMachine : SubtypeRule null machine
  | foreign (sub sup : ForeignType) : SubtypeRule (foreign sub) (foreign sup)
  | map {domain domain' codomain codomain' : Ty} :
    domain.isSubtype domain' → codomain.isSubtype codomain' →
      SubtypeRule (map domain codomain) (map domain' codomain')
  | seq {inner inner' : Ty} : inner.isSubtype inner' → SubtypeRule (seq inner) (seq inner')
  | tuple {subs sups : List Ty} :
    List.Forall₂ (fun sub sup => sub.isSubtype sup) subs sups →
      SubtypeRule (tuple subs) (tuple sups)
  | namedTuple {subs sups : List (Field Ty)} :
    List.Forall₂ FieldSubtype subs sups → SubtypeRule (namedTuple subs) (namedTuple sups)

/-- What a rule allows is accepted by the check. -/
theorem SubtypeRule.isSubtype {sub sup : Ty} (rule : SubtypeRule sub sup) : sub.isSubtype sup := by
  cases rule with
  | any => exact isSubtype_any sub
  | map domains codomains => simp [domains, codomains]
  | seq inners => simpa using inners
  | tuple fields => exact isSubtype_tuple_iff.mpr fields
  | namedTuple fields => exact isSubtype_namedTuple_iff.mpr fields
  | _ => rfl

/-- What the check accepts is allowed by a rule, and the premises of the rule are the verdicts on
the children. -/
theorem subtypeRule_of_isSubtype {sub sup : Ty} (accepted : sub.isSubtype sup) :
    SubtypeRule sub sup := by
  -- An accepted pair fits at the root.
  have fits : sub.mismatch? sup = none := by
    cases why : sub.mismatch? sup with
    | none => rfl
    | some => simp [isSubtype_eq_false_of_mismatch why] at accepted
  -- The roots do not fit for most pairs of constructors. For each other pair there is one rule.
  cases sub <;> cases sup <;> simp [mismatch?, kind, Kind.acceptsNull] at fits accepted
  case map.map => exact .map accepted.1 accepted.2
  case seq.seq => exact .seq accepted
  case tuple.tuple => exact .tuple (isSubtype_tuple_iff.mp accepted)
  case namedTuple.namedTuple => exact .namedTuple (isSubtype_namedTuple_iff.mp accepted)
  all_goals constructor

/-- The check accepts exactly the pairs for which there is a rule. -/
theorem isSubtype_iff_rule {sub sup : Ty} : sub.isSubtype sup ↔ SubtypeRule sub sup :=
  ⟨subtypeRule_of_isSubtype, SubtypeRule.isSubtype⟩

/-! ### Roots and children -/

/-- In an accepted pair, the children that correspond are accepted. -/
theorem allSubtypes_children_of_isSubtype {sub sup : Ty} (accepted : sub.isSubtype sup) :
    allSubtypes sub.children sup.children := by
  cases subtypeRule_of_isSubtype accepted with
  | any | bool | event | machine | int | null | nullEvent | nullMachine | foreign =>
    simp [children]
  | map domains codomains => simp [children, domains, codomains]
  | seq inners => simp [children, inners]
  | tuple fields => exact (allSubtypes_iff_forall₂ fields.length_eq).mpr fields
  | @namedTuple subs sups fields =>
    show allSubtypes (subs.map (·.type)) (sups.map (·.type))
    rw [← fieldSubtypes_eq_allSubtypes]
    exact (forall₂_fieldSubtype_iff.mp fields).2

/-- The check accepts exactly when the roots fit and the children that correspond are
accepted. -/
theorem isSubtype_iff_children {sub sup : Ty} :
    sub.isSubtype sup ↔ sub.mismatch? sup = none ∧ allSubtypes sub.children sup.children := by
  constructor
  · intro accepted
    refine ⟨?_, allSubtypes_children_of_isSubtype accepted⟩
    cases why : sub.mismatch? sup with
    | none => rfl
    | some => simp [isSubtype_eq_false_of_mismatch why] at accepted
  · intro both
    obtain ⟨fits, all⟩ := both
    unfold isSubtype checkSubtype
    -- The cases are those of the check: map, sequence, tuple, named tuple, and all other pairs.
    split
    case h_1 => simpa [Tracer.run_compare_silent, fits, run_andM, children, isSubtype] using all
    case h_2 => simpa [Tracer.run_compare_silent, fits, children, isSubtype] using all
    case h_3 => simpa [Tracer.run_compare_silent, fits, children, allSubtypes] using all
    case h_4 =>
      rw [children, children, ← fieldSubtypes_eq_allSubtypes] at all
      simpa [Tracer.run_compare_silent, fits, fieldSubtypes] using all
    case h_5 => simp [Tracer.run_compare_silent, fits]

/-- What the roots are rejected for does not depend on foreign leaves. -/
theorem mismatch?_mapForeign (f g : ForeignType → ForeignType) (sub sup : Ty) :
    (sub.mapForeign f).mismatch? (sup.mapForeign g) = sub.mismatch? sup := by
  cases sub <;> cases sup
  case tuple.tuple subs sups =>
    simp only [mapForeign, mismatch?, mapForeignAll_eq_map, List.length_map]
  case namedTuple.namedTuple subs sups =>
    simp only [mapForeign, mismatch?, mapForeignFields_eq_map, List.length_map, List.map_map]
    rfl
  -- All other roots are compared by their kinds, and those stay.
  all_goals rfl

/-- A change of the types on both sides that keeps each verdict keeps that on the lists. -/
theorem allSubtypes_map {f g : Ty → Ty} {subs sups : List Ty}
    (eachEq : ∀ sub ∈ subs, ∀ sup, (f sub).isSubtype (g sup) = sub.isSubtype sup) :
    allSubtypes (subs.map f) (sups.map g) = allSubtypes subs sups := by
  induction subs generalizing sups with
  | nil => simp
  | cons sub subs ih =>
    cases sups with
    | nil => simp
    | cons sup sups =>
      have headEq : (f sub).isSubtype (g sup) = sub.isSubtype sup := eachEq sub (by simp) sup
      have restEq : allSubtypes (subs.map f) (sups.map g) = allSubtypes subs sups := by
        refine ih ?_
        intro other mem
        exact eachEq other (by simp [mem])
      rw [List.map_cons, List.map_cons, allSubtypes_cons, allSubtypes_cons, headEq, restEq]

/-- Foreign leaves count for nothing but their kind: replacing them on either side keeps the
verdict. -/
theorem isSubtype_mapForeign (f g : ForeignType → ForeignType) (sub sup : Ty) :
    (sub.mapForeign f).isSubtype (sup.mapForeign g) = sub.isSubtype sup := by
  -- The roots are compared by what replacing leaves alone, and the children are replaced alike.
  induction sub using ind_children generalizing sup with
  | node sub ih =>
    rw [Bool.eq_iff_iff, isSubtype_iff_children, isSubtype_iff_children, mismatch?_mapForeign,
      children_mapForeign, children_mapForeign, allSubtypes_map ih]

end Ty

end MachineTypes
