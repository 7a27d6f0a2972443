import MachineTypes.Ty.Basic

/-!
# `MachineTypes.Subtype.Basic`: the subtype check

A check of two types compares their nodes and then, where these fit, the children in order, up to
the first pair that is rejected. What it does on the way it tells a tracer. The verdict alone is
`Ty.isSubtype`, a check with a tracer that ignores everything.
-/

set_option autoImplicit false

namespace MachineTypes

/-! ## What one pair of nodes can be rejected for

`mismatch?` compares two nodes without looking below them. It is the whole rule table of
subtyping; the rest is recursion over the children. The rules go by the supertype:

* `any` takes every subtype;
* `null`, `event` and `machine` take their own kind and `null`;
* every other kind takes its own kind only, whatever the tag of a foreign type;
* a tuple takes a tuple of its arity, and a named tuple one with its names in its order.
-/

/-- Why a node cannot stand where another one is expected. -/
inductive Mismatch where
  /-- The kind of the one does not fit the kind of the other. -/
  | kind (sub sup : Kind)
  /-- The tuples have different numbers of fields. -/
  | arity (sub sup : Nat)
  /-- The named tuples have different names at an index. -/
  | fieldName (index : Nat) (sub sup : String)
  deriving DecidableEq, Repr

namespace Mismatch

/-- The wording of the reason. -/
def reason : Mismatch → String
  | kind sub sup => sub.name ++ " is not a subtype of " ++ sup.name
  | arity sub sup => "arity " ++ toString sub ++ " differs from " ++ toString sup
  | fieldName index sub sup =>
    "field " ++ toString index ++ " is named `" ++ sub ++ "`, expected `" ++ sup ++ "`"

instance : ToString Mismatch := ⟨reason⟩

/-- The mismatch of two numbers of fields, if they differ. -/
def ofArities? (sub sup : Nat) : Option Mismatch :=
  if sub = sup then none else some (.arity sub sup)

/-- The first difference between two lists of names, of which the first ones have the given
index. What one list has beyond the other is not compared. -/
def ofNames? : Nat → List String → List String → Option Mismatch
  | index, sub :: subs, sup :: sups =>
    if sub = sup then ofNames? (index + 1) subs sups else some (.fieldName index sub sup)
  | _, _, _ => none

end Mismatch

namespace Ty

/-- Why the root of `sub` cannot stand where the root of `sup` is expected, or `none` if it can.
The children are not looked at. -/
def mismatch? : Ty → Ty → Option Mismatch
  | _, any => none
  | tuple subs, tuple sups => Mismatch.ofArities? subs.length sups.length
  | namedTuple subs, namedTuple sups =>
    (Mismatch.ofArities? subs.length sups.length).or
      (Mismatch.ofNames? 0 (subs.map (·.name.text)) (sups.map (·.name.text)))
  | null, sup => if sup.kind.acceptsNull then none else some (.kind .null sup.kind)
  | sub, sup => if sub.kind = sup.kind then none else some (.kind sub.kind sup.kind)

end Ty

/-! ## Checks

A type is a subtype of another if it fits at the root (`Ty.mismatch?`) and the children that
correspond fit too. All positions are covariant. Below `any` nothing is compared.

The check works left to right, stops at the first pair that does not fit, and reports what it
does as events: each comparison has an `enter` and an `exit` with its verdict, and a `mismatch`
between them if its own nodes do not fit. A tracer can do with the events what it likes, in any
monad; `isSubtype` ignores them.
-/

/-- What happens during a check. -/
inductive CheckEvent where
  /-- A comparison of `sub` with `sup` begins. -/
  | enter (sub sup : Ty)
  /-- The nodes of the innermost open comparison do not fit. -/
  | mismatch (why : Mismatch)
  /-- The innermost open comparison ends. -/
  | exit (accepted : Bool)

/-- What is done with each event of a check. -/
abbrev Tracer (m : Type → Type) := CheckEvent → m Unit

namespace Tracer

/-- Ignores all events. -/
def silent : Tracer Id := fun _ => ()

/-- Collects all events. -/
def recorder : Tracer (StateM (Array CheckEvent)) := fun event => modify (·.push event)

variable {m : Type → Type} [Monad m]

/-- One comparison: reports that it begins, rejects if the nodes do not fit, asks the children
otherwise, and reports the verdict. -/
def compare (trace : Tracer m) (sub sup : Ty) (children : m Bool) : m Bool := do
  trace (.enter sub sup)
  let accepted ← match sub.mismatch? sup with
    | some why => do
      trace (.mismatch why)
      pure false
    | none => children
  trace (.exit accepted)
  return accepted

end Tracer

namespace Ty

variable {m : Type → Type} [Monad m]

mutual

/-- Whether `sub` is a subtype of `sup`, with every event given to the tracer. -/
def checkSubtype (trace : Tracer m) : Ty → Ty → m Bool
  | map domain codomain, map domain' codomain' =>
    trace.compare (map domain codomain) (map domain' codomain')
      (checkSubtype trace domain domain' <&&> checkSubtype trace codomain codomain')
  | seq inner, seq inner' =>
    trace.compare (seq inner) (seq inner') (checkSubtype trace inner inner')
  | tuple fields, tuple fields' =>
    trace.compare (tuple fields) (tuple fields') (checkAll trace fields fields')
  | namedTuple fields, namedTuple fields' =>
    trace.compare (namedTuple fields) (namedTuple fields') (checkFields trace fields fields')
  | sub, sup => trace.compare sub sup (pure true)

/-- Whether the types of one list are subtypes of those of the other, pair by pair up to the
first that is not. -/
def checkAll (trace : Tracer m) : List Ty → List Ty → m Bool
  | sub :: subs, sup :: sups => checkSubtype trace sub sup <&&> checkAll trace subs sups
  | _, _ => pure true

/-- The same for the types of named fields. -/
def checkFields (trace : Tracer m) : List (Field Ty) → List (Field Ty) → m Bool
  | ⟨_, sub⟩ :: subs, ⟨_, sup⟩ :: sups =>
    checkSubtype trace sub sup <&&> checkFields trace subs sups
  | _, _ => pure true

end

/-- Whether `sub` is a subtype of `sup`. -/
def isSubtype (sub sup : Ty) : Bool :=
  Id.run (checkSubtype .silent sub sup)

/-- The verdict of the check and the events it caused, in order. -/
def checkRecorded (sub sup : Ty) : Bool × Array CheckEvent :=
  Id.run (StateT.run (checkSubtype Tracer.recorder sub sup) #[])

end Ty

end MachineTypes
