import MachineTypes.Subtype.Basic
import MachineTypes.Ty.Nodes

/-!
# `MachineTypes.Subtype.Order`: steps and bounds in the subtype order

Two things that say what the subtype order is without comparing two trees: the single steps that go
up in it, and the bounds of two types.
-/

set_option autoImplicit false

namespace MachineTypes.Ty

/-! ## Single steps

A widening step replaces one subtree of a type: any subtree by `any`, a `null` by `event` or
`machine`, or a foreign leaf by one with another tag. `Widens` allows any number of steps through
well-formed types. It says what subtyping means without a word about comparing two trees.
-/

/-- One subtree of the first type is widened in the second. -/
inductive WidensOnce : Ty → Ty → Prop where
  | toAny (type : Ty) : WidensOnce type any
  | nullToEvent : WidensOnce null event
  | nullToMachine : WidensOnce null machine
  | retag (type type' : ForeignType) : type.tag ≠ type'.tag →
      WidensOnce (foreign type) (foreign type')
  | domain {domain domain' : Ty} (codomain : Ty) :
    WidensOnce domain domain' → WidensOnce (map domain codomain) (map domain' codomain)
  | codomain (domain : Ty) {codomain codomain' : Ty} :
    WidensOnce codomain codomain' → WidensOnce (map domain codomain) (map domain codomain')
  | inner {inner inner' : Ty} : WidensOnce inner inner' → WidensOnce (seq inner) (seq inner')
  | field (before after : List Ty) {type type' : Ty} :
    WidensOnce type type' →
      WidensOnce (tuple (before ++ type :: after)) (tuple (before ++ type' :: after))
  | namedField (before after : List (Field Ty)) (name : FieldName) {type type' : Ty} :
    WidensOnce type type' →
      WidensOnce (namedTuple (before ++ ⟨name, type⟩ :: after))
        (namedTuple (before ++ ⟨name, type'⟩ :: after))

/-- The second type is reached from the first by widening steps through well-formed types. -/
inductive Widens : Ty → Ty → Prop where
  | refl (type : Ty) : Widens type type
  | step {first next last : Ty} :
    WidensOnce first next → next.WellFormed → Widens next last → Widens first last

/-- Widening steps can be strung together. -/
theorem Widens.trans {first next last : Ty} (h : Widens first next) (h' : Widens next last) :
    Widens first last := by
  induction h with
  | refl => exact h'
  | step once wellFormed _ ih => exact .step once wellFormed (ih h')

end MachineTypes.Ty

namespace MachineTypes

/-! ## Bounds

`join` is the least type above two types. There always is one, since `any` is above every type.
`meet?` is the greatest type below two types, if there is any type below both.

Both go down the two types side by side. Where the nodes have children that correspond, so have the
nodes of the bound, and elsewhere two types are only bounded by one another, by `any` and by `null`.
-/

/-- The elements of two lists put together at each place, if the lists are equally long and the
elements at each place can be put together. -/
def pairwise? {α : Type} (op : α → α → Option α) : List α → List α → Option (List α)
  | [], [] => some []
  | a :: as, b :: bs => do
    let c ← op a b
    let cs ← pairwise? op as bs
    return c :: cs
  | _, _ => none

/-- Two fields put together, if they have one name and their types can be put together. -/
def Field.combine? {α : Type} (op : α → α → Option α) (left right : Field α) :
    Option (Field α) :=
  if left.name = right.name then (op left.type right.type).map (Field.mk left.name) else none

namespace Ty

mutual

/-- The least type above both types. -/
def join : Ty → Ty → Ty
  | map domain codomain, map domain' codomain' =>
    map (domain.join domain') (codomain.join codomain')
  | seq inner, seq inner' => seq (inner.join inner')
  | tuple fields, tuple fields' => ((joinAll? fields fields').map tuple).getD any
  | namedTuple fields, namedTuple fields' =>
    ((joinFields? fields fields').map namedTuple).getD any
  | left, right =>
    if left.isSubtype right then right else if right.isSubtype left then left else any

/-- The joins of the types at each place of two lists, if the lists are equally long. -/
def joinAll? : List Ty → List Ty → Option (List Ty)
  | [], [] => some []
  | left :: lefts, right :: rights => do
    let rest ← joinAll? lefts rights
    return left.join right :: rest
  | _, _ => none

/-- The same for fields, if the lists have the same names. -/
def joinFields? : List (Field Ty) → List (Field Ty) → Option (List (Field Ty))
  | [], [] => some []
  | ⟨name, left⟩ :: lefts, ⟨name', right⟩ :: rights =>
    if name = name' then do
      let rest ← joinFields? lefts rights
      return ⟨name, left.join right⟩ :: rest
    else none
  | _, _ => none

end

mutual

/-- The greatest type below both types, if there is a type below both. -/
def meet? : Ty → Ty → Option Ty
  | map domain codomain, map domain' codomain' => do
    let key ← domain.meet? domain'
    let value ← codomain.meet? codomain'
    return map key value
  | seq inner, seq inner' => (inner.meet? inner').map seq
  | tuple fields, tuple fields' => (meetAll? fields fields').map tuple
  | namedTuple fields, namedTuple fields' => (meetFields? fields fields').map namedTuple
  | left, right =>
    if left.isSubtype right then some left
    else if right.isSubtype left then some right
    else if null.isSubtype left ∧ null.isSubtype right then some null
    else none

/-- The meets of the types at each place of two lists, if the lists are equally long and there is a
meet at each place. -/
def meetAll? : List Ty → List Ty → Option (List Ty)
  | [], [] => some []
  | left :: lefts, right :: rights => do
    let first ← left.meet? right
    let rest ← meetAll? lefts rights
    return first :: rest
  | _, _ => none

/-- The same for fields, if the lists have the same names. -/
def meetFields? : List (Field Ty) → List (Field Ty) → Option (List (Field Ty))
  | [], [] => some []
  | ⟨name, left⟩ :: lefts, ⟨name', right⟩ :: rights =>
    if name = name' then do
      let first ← left.meet? right
      let rest ← meetFields? lefts rights
      return ⟨name, first⟩ :: rest
    else none
  | _, _ => none

end

end Ty

end MachineTypes
