import MachineTypes.Proofs.Subtype.Rules
import MachineTypes.Ty.Nodes

/-!
# `MachineTypes.Proofs.Subtype.Order`: the subtype relation as an order

The laws of subtyping that speak of the relation alone. It is a preorder (`isSubtype_preorder`). Two
types are related both ways exactly when they differ in foreign leaves only
(`isSubtype_antisymm_iff`). And it is covariant in every position: around a hole, only what is put
into the hole decides (`isSubtype_fill_iff`).

All three rest on the rule table of `Proofs.Subtype.Rules`, which says when two nodes with given
children are related. None needs the types to be well-formed.
-/

set_option autoImplicit false

namespace MachineTypes.Ty

/-! ## A preorder

`isSubtype_refl` and `isSubtype_trans` hold for all trees, well-formed or not. Reflexivity
extends to `==`, which ignores providers: `isSubtype_of_beq` erases them on both sides, which
`isSubtype` cannot tell.

Transitivity goes by induction on the type in the middle. Its root decides which rules can stand
on the left and on the right of it, and the induction hypothesis composes them child by child.
-/

/-- Every type is a subtype of itself. -/
theorem isSubtype_refl (type : Ty) : type.isSubtype type := by
  -- The rule for the kind of node applies, and its premises are the hypotheses for the children.
  induction type with
  | any | bool | event | machine | int | null | foreign => rfl
  | map domain codomain ihDomain ihCodomain =>
    exact (SubtypeRule.map ihDomain ihCodomain).isSubtype
  | seq inner ih => exact (SubtypeRule.seq ih).isSubtype
  | tuple fields ih => exact isSubtype_tuple_iff.mpr (List.forall₂_same.mpr ih)
  | namedTuple fields ih =>
    have same : ∀ field ∈ fields, FieldSubtype field field := by
      intro field mem
      exact ⟨rfl, ih field mem⟩
    exact isSubtype_namedTuple_iff.mpr (List.forall₂_same.mpr same)

/-- A field can stand where it is expected itself. -/
theorem fieldSubtype_refl (field : Field Ty) : FieldSubtype field field :=
  ⟨rfl, isSubtype_refl field.type⟩

/-- Types that become equal when their foreign leaves are replaced are subtypes of each other. -/
theorem isSubtype_of_mapForeign_eq {f : ForeignType → ForeignType} {type type' : Ty}
    (same : type.mapForeign f = type'.mapForeign f) : type.isSubtype type' := by
  calc type.isSubtype type'
      = (type.mapForeign f).isSubtype (type'.mapForeign f) := (isSubtype_mapForeign f f _ _).symm
    _ = (type'.mapForeign f).isSubtype (type'.mapForeign f) := by rw [same]
    _ = true := isSubtype_refl _

/-- Equal types are subtypes of each other, whoever provides their foreign types. -/
theorem isSubtype_of_beq {type type' : Ty} (equal : type == type') : type.isSubtype type' :=
  isSubtype_of_mapForeign_eq (beq_iff_eraseProviders_eq.mp equal)

/-- A subtype of a subtype is a subtype. -/
theorem isSubtype_trans {sub middle sup : Ty} (lower : sub.isSubtype middle)
    (upper : middle.isSubtype sup) : sub.isSubtype sup := by
  -- By induction on the middle type: both premises are about its root, so the rules that can
  -- stand on either side of it are known before any child is looked at.
  induction middle generalizing sub sup with
  | any =>
    -- Nothing but `any` is above `any`.
    cases subtypeRule_of_isSubtype upper
    exact isSubtype_any sub
  | bool | event | machine | int =>
    -- Above such a leaf are the leaf itself and `any`.
    cases subtypeRule_of_isSubtype upper with
    | any => exact isSubtype_any sub
    | _ => exact lower
  | null =>
    -- Below `null` is `null` only, so `event` and `machine` accept what was below it.
    cases subtypeRule_of_isSubtype lower
    exact upper
  | foreign type =>
    -- The tags of the three leaves need not agree, and no rule looks at them.
    cases subtypeRule_of_isSubtype upper with
    | any => exact isSubtype_any sub
    | foreign =>
      cases subtypeRule_of_isSubtype lower
      exact (SubtypeRule.foreign _ _).isSubtype
  | map domain codomain ihDomain ihCodomain =>
    cases subtypeRule_of_isSubtype upper with
    | any => exact isSubtype_any sub
    | map domains' codomains' =>
      cases subtypeRule_of_isSubtype lower with
      | map domains codomains =>
        have domains'' := ihDomain domains domains'
        have codomains'' := ihCodomain codomains codomains'
        exact (SubtypeRule.map domains'' codomains'').isSubtype
  | seq inner ih =>
    cases subtypeRule_of_isSubtype upper with
    | any => exact isSubtype_any sub
    | seq inners' =>
      cases subtypeRule_of_isSubtype lower with
      | seq inners => exact (SubtypeRule.seq (ih inners inners')).isSubtype
  | tuple fields ih =>
    cases subtypeRule_of_isSubtype upper with
    | any => exact isSubtype_any sub
    | tuple upperFields =>
      cases subtypeRule_of_isSubtype lower with
      | tuple lowerFields =>
        have comp : ∀ type ∈ fields, ∀ sub sup : Ty, sub.isSubtype type → type.isSubtype sup →
            sub.isSubtype sup := by
          intro type mem sub sup lower upper
          exact ih type mem lower upper
        exact isSubtype_tuple_iff.mpr (forall₂_comp_of_mem comp lowerFields upperFields)
  | namedTuple fields ih =>
    cases subtypeRule_of_isSubtype upper with
    | any => exact isSubtype_any sub
    | namedTuple upperFields =>
      cases subtypeRule_of_isSubtype lower with
      | namedTuple lowerFields =>
        have comp : ∀ field ∈ fields, ∀ sub sup, FieldSubtype sub field → FieldSubtype field sup →
            FieldSubtype sub sup := by
          intro field mem sub sup lower upper
          have name : sub.name = sup.name := lower.1.trans upper.1
          have type : sub.type.isSubtype sup.type := ih field mem lower.2 upper.2
          exact ⟨name, type⟩
        exact isSubtype_namedTuple_iff.mpr (forall₂_comp_of_mem comp lowerFields upperFields)

/-- Subtyping is a preorder that contains equality of types. -/
theorem isSubtype_preorder (a b c : Ty) :
    (a == b → a.isSubtype b) ∧ (a.isSubtype b → b.isSubtype c → a.isSubtype c) :=
  ⟨isSubtype_of_beq, isSubtype_trans⟩

/-- Two tuples that are equal up to the provider of a foreign leaf, and one above both. -/
theorem isSubtype_preorder_tuple :
    tuple [null, absent] == tuple [null, foreign ⟨.absent, .table Foreign.Absent.capabilities⟩] ∧
      (tuple [null, absent]).isSubtype
        (tuple [null, foreign ⟨.absent, .table Foreign.Absent.capabilities⟩]) ∧
      (tuple [null, foreign ⟨.absent, .table Foreign.Absent.capabilities⟩]).isSubtype
        (tuple [event, any]) ∧
      (tuple [null, absent]).isSubtype (tuple [event, any]) := by
  have laws := isSubtype_preorder (tuple [null, absent])
    (tuple [null, foreign ⟨.absent, .table Foreign.Absent.capabilities⟩]) (tuple [event, any])
  have equal : tuple [null, absent]
      == tuple [null, foreign ⟨.absent, .table Foreign.Absent.capabilities⟩] := by decide
  have upper : (tuple [null, foreign ⟨.absent, .table Foreign.Absent.capabilities⟩]).isSubtype
      (tuple [event, any]) := by decide
  exact ⟨equal, laws.1 equal, upper, laws.2 (laws.1 equal) upper⟩

/-! ## Types that are subtypes of each other

Two types are subtypes of each other exactly when they are the same tree once their foreign
leaves are erased (`isSubtype_antisymm_iff`). So the rules for `any` and `null`, which go one
way, never close a cycle at any depth. The rule for foreign leaves closes one between every two
tags.
-/

/-- Lists related both ways have equal images if elements related both ways have equal images. -/
theorem map_eq_map_of_forall₂ {α β : Type} {R : α → α → Prop} {f : α → β} {left right : List α}
    (eachEq : ∀ a ∈ left, ∀ b, R a b → R b a → f a = f b)
    (forth : List.Forall₂ R left right) (back : List.Forall₂ R right left) :
    left.map f = right.map f := by
  induction forth with
  | nil => rfl
  | @cons a b left right head _ ih =>
    cases back with
    | cons head' rest' =>
      have headEq : f a = f b := eachEq a (by simp) b head head'
      have restEq : left.map f = right.map f :=
        ih (fun other mem => eachEq other (List.mem_cons_of_mem _ mem)) rest'
      rw [List.map_cons, List.map_cons, headEq, restEq]

/-- Types that are subtypes of each other differ in their foreign leaves only. -/
theorem eraseForeign_eq_of_isSubtype {type type' : Ty} (forth : type.isSubtype type')
    (back : type'.isSubtype type) : type.eraseForeign = type'.eraseForeign := by
  -- On the type that is below first. Its root leaves few rules for the first premise, and the
  -- second excludes `any`.
  induction type generalizing type' with
  | any =>
    -- Only `any` is above `any`, so the other type is `any` already by the first premise.
    cases subtypeRule_of_isSubtype forth
    rfl
  | bool | event | machine | int | foreign =>
    -- The other rule with this leaf below is the one for `any`, and `any` is below `any` only.
    cases subtypeRule_of_isSubtype forth with
    | any => cases subtypeRule_of_isSubtype back
    | _ => rfl
  | null =>
    -- Four rules have `null` below, and one has it above. So the second premise is the one to
    -- take apart.
    cases subtypeRule_of_isSubtype back
    rfl
  | map domain codomain ihDomain ihCodomain =>
    cases subtypeRule_of_isSubtype forth with
    | any => cases subtypeRule_of_isSubtype back
    | @map _ domain' _ codomain' domains codomains =>
      cases subtypeRule_of_isSubtype back with
      | map domains' codomains' =>
        have sameDomain : domain.eraseForeign = domain'.eraseForeign :=
          ihDomain domains domains'
        have sameCodomain : codomain.eraseForeign = codomain'.eraseForeign :=
          ihCodomain codomains codomains'
        exact congrArg₂ map sameDomain sameCodomain
  | seq inner ih =>
    cases subtypeRule_of_isSubtype forth with
    | any => cases subtypeRule_of_isSubtype back
    | seq inners =>
      cases subtypeRule_of_isSubtype back with
      | seq inners' => exact congrArg seq (ih inners inners')
  | tuple fields ih =>
    cases subtypeRule_of_isSubtype forth with
    | any => cases subtypeRule_of_isSubtype back
    | @tuple _ fields' pairs =>
      cases subtypeRule_of_isSubtype back with
      | tuple pairs' =>
        have eachEq : ∀ type ∈ fields, ∀ type' : Ty, type.isSubtype type' →
            type'.isSubtype type → type.eraseForeign = type'.eraseForeign := by
          intro type mem type' forth back
          exact ih type mem forth back
        show tuple (mapForeignAll _ fields) = tuple (mapForeignAll _ fields')
        rw [mapForeignAll_eq_map, mapForeignAll_eq_map]
        exact congrArg tuple (map_eq_map_of_forall₂ eachEq pairs pairs')
  | namedTuple fields ih =>
    cases subtypeRule_of_isSubtype forth with
    | any => cases subtypeRule_of_isSubtype back
    | @namedTuple _ fields' pairs =>
      cases subtypeRule_of_isSubtype back with
      | namedTuple pairs' =>
        have eachEq : ∀ field ∈ fields, ∀ field', FieldSubtype field field' →
            FieldSubtype field' field → field.map eraseForeign = field'.map eraseForeign := by
          intro field mem field' forth back
          have sameType : field.type.eraseForeign = field'.type.eraseForeign :=
            ih field mem forth.2 back.2
          exact congrArg₂ Field.mk forth.1 sameType
        show namedTuple (mapForeignFields _ fields) = namedTuple (mapForeignFields _ fields')
        rw [mapForeignFields_eq_map, mapForeignFields_eq_map]
        exact congrArg namedTuple (map_eq_map_of_forall₂ eachEq pairs pairs')

/-- Two types are subtypes of each other exactly when they are the same tree once the tag and
the provider of every foreign leaf are erased. -/
theorem isSubtype_antisymm_iff (type type' : Ty) :
    (type.isSubtype type' ∧ type'.isSubtype type) ↔ type.eraseForeign = type'.eraseForeign := by
  constructor
  · intro both
    exact eraseForeign_eq_of_isSubtype both.1 both.2
  · intro erased
    -- Erasing changes no verdict, and after it the two types are one.
    exact ⟨isSubtype_of_mapForeign_eq erased, isSubtype_of_mapForeign_eq erased.symm⟩

/-! ## Subtyping under a context

Subtyping is covariant in every position. `isSubtype_fill_iff` says so for all contexts and in both
directions: what is put into the hole decides alone whether the filled contexts are in the
relation. What stands around the hole is compared with itself, so by reflexivity it never decides
anything, and no rule for the nodes on the way down fires differently for it.
-/

/-- Lists that differ in one element at most are related if the elements are. -/
theorem forall₂_middle_iff {α : Type} {R : α → α → Prop} (refl : ∀ a, R a a) {before after : List α}
    {a b : α} : List.Forall₂ R (before ++ a :: after) (before ++ b :: after) ↔ R a b := by
  induction before with
  | nil =>
    have rest : List.Forall₂ R after after := List.forall₂_same.mpr fun other _ => refl other
    rw [List.nil_append, List.nil_append, List.forall₂_cons]
    exact and_iff_left rest
  | cons first before ih =>
    rw [List.cons_append, List.cons_append, List.forall₂_cons, ih]
    exact and_iff_right (refl first)

/-- Fields with one name are in the relation exactly when their types are. -/
theorem fieldSubtype_mk_iff {name : FieldName} {type type' : Ty} :
    FieldSubtype ⟨name, type⟩ ⟨name, type'⟩ ↔ type.isSubtype type' :=
  and_iff_right rfl

/-- Every context preserves and reflects subtyping, whatever stands around its hole and however
deep the hole is. -/
theorem isSubtype_fill_iff (context : Context) (sub sup : Ty) :
    (context.fill sub).isSubtype (context.fill sup) ↔ sub.isSubtype sup := by
  -- The context goes down one node at a time, and beside the way down stand equal types.
  induction context with
  | hole => rfl
  | domain context codomain ih =>
    rw [Context.fill, Context.fill, isSubtype_map, Bool.and_eq_true, ih]
    exact and_iff_left (isSubtype_refl codomain)
  | codomain domain context ih =>
    rw [Context.fill, Context.fill, isSubtype_map, Bool.and_eq_true, ih]
    exact and_iff_right (isSubtype_refl domain)
  | inner context ih => rw [Context.fill, Context.fill, isSubtype_seq, ih]
  | field before context after ih =>
    rw [Context.fill, Context.fill, isSubtype_tuple_iff, forall₂_middle_iff isSubtype_refl, ih]
  | namedField before name context after ih =>
    rw [Context.fill, Context.fill, isSubtype_namedTuple_iff,
      forall₂_middle_iff fieldSubtype_refl, fieldSubtype_mk_iff, ih]

end MachineTypes.Ty
