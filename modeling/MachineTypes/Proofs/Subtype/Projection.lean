import MachineTypes.Proofs.Subtype.Rules

/-!
# `MachineTypes.Proofs.Subtype.Projection`: parts of types that are related

Whoever holds a type above another one can take it apart and finds related parts in both: at a
position, under a name, or as the domain, codomain or inner type.

The check compares the fields of tuples by position, while a name is looked up by a search for the
first field that has it. `rel_find?` brings these together: lists that correspond element by element
have the same places where a search can end, so it ends at corresponding elements even if a name
occurs many times.

What is read can be missing: an index can be beyond the last field and a name can be one that no
field has. `Option.Rel` covers this, since it relates nothing with nothing. So the subtype has a
part exactly where the supertype has one, and never less. No condition is made on the two types. In
particular a name may stand at many fields, as in the witness.
-/

set_option autoImplicit false

namespace MachineTypes

/-! ### Lists that correspond element by element -/

section
variable {α β : Type} {R : α → β → Prop} {lower : List α} {upper : List β}

/-- Lists that correspond have the same places, and at each of them elements that correspond. -/
theorem rel_getElem? (pairs : List.Forall₂ R lower upper) (index : Nat) :
    Option.Rel R lower[index]? upper[index]? := by
  induction pairs generalizing index with
  | nil => exact .none
  | cons head _ ih =>
    cases index with
    | zero => exact .some head
    | succ index => exact ih index

/-- Searches end at corresponding elements if elements that correspond are found or not alike. -/
theorem rel_find? {p : α → Bool} {q : β → Bool} (alike : ∀ a b, R a b → p a = q b)
    (pairs : List.Forall₂ R lower upper) : Option.Rel R (lower.find? p) (upper.find? q) := by
  induction pairs with
  | nil => exact .none
  | @cons a b _ _ head _ ih =>
    rw [List.find?_cons, List.find?_cons, alike a b head]
    cases q b with
    | true => exact .some head
    | false => exact ih

variable {γ δ : Type} {S : γ → δ → Prop}

/-- What is found can be looked at further, as long as what is seen corresponds again. -/
theorem rel_map {f : α → γ} {g : β → δ} (imp : ∀ a b, R a b → S (f a) (g b)) {found : Option α}
    {found' : Option β} (both : Option.Rel R found found') :
    Option.Rel S (found.map f) (found'.map g) := by
  cases both with
  | none => exact .none
  | some related => exact .some (imp _ _ related)

end

namespace Ty

/-! ### Named tuples -/

/-- What is read from a named tuple by position or by name is there in both or in neither, and in
the first it is a subtype. -/
structure NamedFieldsProject (sub sup : Ty) : Prop where
  names_eq : sub.names = sup.names
  /-- The fields at a position have one name. -/
  namedField : ∀ index,
    Option.Rel FieldSubtype (sub.namedField? index) (sup.namedField? index)
  fieldType : ∀ name,
    Option.Rel (fun type type' => type.isSubtype type') (sub.fieldType? name) (sup.fieldType? name)

section
variable {subs sups : List (Field Ty)} (fields : List.Forall₂ FieldSubtype subs sups)
include fields

/-- The types found under a name are those of corresponding fields. -/
theorem rel_fieldType? (name : String) :
    Option.Rel (fun type type' => type.isSubtype type')
      ((namedTuple subs).fieldType? name) ((namedTuple sups).fieldType? name) := by
  have sameName : ∀ field field', FieldSubtype field field' →
      decide (field.name.text = name) = decide (field'.name.text = name) := by
    intro field field' both
    rw [both.1]
  exact rel_map (fun _ _ both => both.2) (rel_find? sameName fields)

/-- Named tuples whose fields correspond have the same names and give corresponding fields at every
position and under every name. -/
theorem namedFieldsProject : NamedFieldsProject (namedTuple subs) (namedTuple sups) where
  names_eq := by
    have same := (forall₂_fieldSubtype_iff.mp fields).1
    rw [names, names, map_text, map_text, same]
  namedField := rel_getElem? fields
  fieldType := rel_fieldType? fields

end

/-! ### All types -/

/-- Whatever can be read from a container or a tuple can be read from a subtype of it, and what is
read there is a subtype. -/
structure SafeProjections (sub sup : Ty) : Prop where
  /-- Below a container or a tuple are only others of its kind. -/
  kind_eq : sup.kind ∈ [Kind.map, .seq, .tuple, .namedTuple] → sub.kind = sup.kind
  map : sup.kind = .map →
    (∃ key ∈ sub.domain?, ∃ key' ∈ sup.domain?, key.isSubtype key') ∧
      ∃ value ∈ sub.codomain?, ∃ value' ∈ sup.codomain?, value.isSubtype value'
  seq : sup.kind = .seq →
    ∃ element ∈ sub.inner?, ∃ element' ∈ sup.inner?, element.isSubtype element'
  tuple : sup.kind = .tuple → ∀ index,
    Option.Rel (fun type type' => type.isSubtype type') (sub.field? index) (sup.field? index)
  namedTuple : sup.kind = .namedTuple → NamedFieldsProject sub sup

/-- Projections are safe along subtyping. -/
theorem safeProjections_of_isSubtype (sub sup : Ty) (accepted : sub.isSubtype sup) :
    SafeProjections sub sup := by
  have rule := subtypeRule_of_isSubtype accepted
  refine ⟨?kind_eq, ?map, ?seq, ?tuple, ?namedTuple⟩
  -- In each case all rules are for another kind of supertype, but one.
  case kind_eq =>
    intro compound
    cases rule with
    | any | event | machine | nullEvent | nullMachine => simp [kind] at compound
    | bool | int | null | foreign | map | seq | tuple | namedTuple => rfl
  case map =>
    intro isMap
    cases rule with
    | map domains codomains => exact ⟨⟨_, rfl, _, rfl, domains⟩, ⟨_, rfl, _, rfl, codomains⟩⟩
    | _ => cases isMap
  case seq =>
    intro isSeq
    cases rule with
    | seq inners => exact ⟨_, rfl, _, rfl, inners⟩
    | _ => cases isSeq
  case tuple =>
    intro isTuple
    cases rule with
    | tuple fields => exact rel_getElem? fields
    | _ => cases isTuple
  case namedTuple =>
    intro isNamedTuple
    cases rule with
    | namedTuple fields => exact namedFieldsProject fields
    | _ => cases isNamedTuple

/-- Two fields have one name, and a search for it ends at the first of them in both tuples. The
second fields are read by position. -/
theorem safeProjections_of_isSubtype_duplicate :
    let sub := Ty.namedTuple [⟨⟨"x"⟩, null⟩, ⟨⟨"x"⟩, int⟩]
    let sup := Ty.namedTuple [⟨⟨"x"⟩, event⟩, ⟨⟨"x"⟩, any⟩]
    sub.isSubtype sup ∧ sub.fieldType? "x" = some null ∧ sup.fieldType? "x" = some event ∧
      SafeProjections sub sup := by
  intro sub sup
  have accepted : sub.isSubtype sup := rfl
  exact ⟨accepted, rfl, rfl, safeProjections_of_isSubtype sub sup accepted⟩

end Ty

end MachineTypes
