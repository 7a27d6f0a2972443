import MachineTypes.Subtype.Basic
import MachineTypes.Ty.Nodes

/-!
# `MachineTypes.Subtype.Diagnosis`: what a stream of events says

A stream of events is read like a walk through two trees: an `enter` goes to the next child of the
comparison around it, and an `exit` goes back. `openComparisons` gives the comparisons that a
stream leaves open, each with the position where it stands, and `begunComparisons` all that it
begins. `Mismatch.Describes` says when a mismatch is true of two nodes, and `FirstMisfit` which of
the positions of two types is the first with such nodes.
-/

set_option autoImplicit false

namespace MachineTypes

/-! ## Mismatches -/

/-- The mismatch is true of the roots of two types. -/
inductive Mismatch.Describes : Mismatch → Ty → Ty → Prop where
  /-- The kinds differ, the second is not `any`, and the first is not a `null` that the second
  accepts. -/
  | kind {sub sup : Ty} : sub.kind ≠ sup.kind → sup.kind ≠ .any →
    ¬ (sub.kind = .null ∧ sup.kind.acceptsNull) →
      Describes (.kind sub.kind sup.kind) sub sup
  | arity {subs sups : List Ty} : subs.length ≠ sups.length →
    Describes (.arity subs.length sups.length) (.tuple subs) (.tuple sups)
  | namedArity {subs sups : List (Field Ty)} : subs.length ≠ sups.length →
    Describes (.arity subs.length sups.length) (.namedTuple subs) (.namedTuple sups)
  /-- The names at the index differ, and those before it do not. -/
  | fieldName {subs sups : List (Field Ty)} (index : Nat) (sub sup : Field Ty) :
    subs.length = sups.length → subs[index]? = some sub → sups[index]? = some sup →
    sub.name ≠ sup.name →
    (∀ earlier < index, (subs.map (·.name))[earlier]? = (sups.map (·.name))[earlier]?) →
      Describes (.fieldName index sub.name.text sup.name.text) (.namedTuple subs)
        (.namedTuple sups)

/-- The position is the first that two types share and where their nodes do not fit, and the
mismatch says why. -/
structure FirstMisfit (sub sup : Ty) (position : List Nat) (subPart supPart : Ty)
    (why : Mismatch) : Prop where
  shared : Ty.SharedPosition sub sup position subPart supPart
  describes : why.Describes subPart supPart
  first : ∀ earlier < position, ∀ left right, Ty.SharedPosition sub sup earlier left right →
    ∀ why : Mismatch, ¬ why.Describes left right

/-! ## Open comparisons -/

/-- The event is one of a check that has found nothing wrong so far. -/
def CheckEvent.Accepting : CheckEvent → Prop
  | enter _ _ => True
  | mismatch _ => False
  | exit accepted => accepted

/-- Whether a comparison begins. -/
def CheckEvent.isEnter : CheckEvent → Bool
  | enter _ _ => true
  | mismatch _ | exit _ => false

/-- A comparison that has begun and not ended. -/
structure OpenComparison where
  sub : Ty
  sup : Ty
  position : List Nat
  /-- The number of comparisons directly inside it that have ended. -/
  ended : Nat

namespace OpenComparison

/-- The position of the next comparison to begin inside the innermost of these. -/
def nextPosition : List OpenComparison → List Nat
  | [] => []
  | parent :: _ => parent.position ++ [parent.ended]

/-- Counts a comparison that has ended inside the innermost of these. -/
def countEnded : List OpenComparison → List OpenComparison
  | [] => []
  | parent :: outer => { parent with ended := parent.ended + 1 } :: outer

/-- The open comparisons after an event, the innermost first. -/
def step (opened : List OpenComparison) : CheckEvent → List OpenComparison
  | .enter sub sup => ⟨sub, sup, nextPosition opened, 0⟩ :: opened
  | .mismatch _ => opened
  | .exit _ => countEnded opened.tail

/-- The comparisons that a stream begins, if the given ones are open before. -/
def begunInside (opened : List OpenComparison) : List CheckEvent → List OpenComparison
  | [] => []
  | .enter sub sup :: rest =>
    ⟨sub, sup, nextPosition opened, 0⟩ :: begunInside (step opened (.enter sub sup)) rest
  | .mismatch why :: rest => begunInside (step opened (.mismatch why)) rest
  | .exit accepted :: rest => begunInside (step opened (.exit accepted)) rest

end OpenComparison

/-- The comparisons that a stream of events leaves open, the innermost first. -/
def openComparisons (stream : List CheckEvent) : List OpenComparison :=
  stream.foldl OpenComparison.step []

/-- The comparisons that a stream of events begins, in order, each as it is when it begins. -/
def begunComparisons (stream : List CheckEvent) : List OpenComparison :=
  OpenComparison.begunInside [] stream

/-- The stream blames the nodes at a position: it accepts all that it ends before its only
mismatch, that is about the innermost open comparison, and then it only rejects the comparisons
still open. -/
structure Blames (stream before : List CheckEvent) (why : Mismatch) (position : List Nat)
    (subPart supPart : Ty) : Prop where
  split : stream = before ++ .mismatch why ::
    List.replicate (openComparisons before).length (.exit false)
  accepting : ∀ event ∈ before, event.Accepting
  innermost : (openComparisons before).head? = some ⟨subPart, supPart, position, 0⟩

end MachineTypes
