import MachineTypes.Builder.Basic

/-!
# `MachineTypes.Builder.Calls`: builders under any sequence of calls

A builder is filled in place, by calls in any order, and it can be used on after a call that fails.
`call` is the outcome of a call with the builder after it, and `after` is the builder after a
sequence of calls.

The rest says, from the calls alone, what such a builder is to hold. `Call.error?` says which calls
are refused and why. `typesWritten` and `namesWritten` are what the other calls write to one field,
in order. The last of it counts.
-/

set_option autoImplicit false

namespace MachineTypes

section
variable {Call α : Type}

/-- The values that calls write to a field, in order, without those of refused calls. -/
def writtenBy (error? : Call → Option TypeError) (value? : Nat → Call → Option α)
    (calls : List Call) (index : Nat) : List α :=
  (calls.filter fun call => (error? call).isNone).filterMap (value? index)

/-- The field is the first to which no value was written. -/
def FirstUnwritten (written : Nat → List α) (index : Nat) : Prop :=
  written index = [] ∧ ∀ earlier < index, written earlier ≠ []

end

/-! ## Tuples -/

namespace TupleBuilder

/-- A call on a builder: it sets the type of a field. -/
structure Call where
  index : Nat
  type : Ty

/-- An operation on a builder in place. What it wrote before an error stays written. -/
abbrev Action := ExceptT TypeError (StateM TupleBuilder)

/-- Does a call in place. -/
def perform (call : Call) : Action Unit := do
  let builder ← get
  MonadExcept.ofExcept (builder.types.requireIndex call.index)
  set (⟨builder.types.set call.index call.type⟩ : TupleBuilder)

/-- The outcome of a call, and the builder after it. -/
def call (builder : TupleBuilder) (call : Call) : Except TypeError Unit × TupleBuilder :=
  Id.run (StateT.run (ExceptT.run (perform call)) builder)

/-- The builder after calls, of which any can fail. -/
def after (builder : TupleBuilder) (calls : List Call) : TupleBuilder :=
  calls.foldl (fun builder call => (builder.call call).2) builder

/-- Why a builder with so many fields refuses a call. -/
def Call.error? (arity : Nat) (call : Call) : Option TypeError :=
  if call.index < arity then none else some (.fieldIndexOutOfRange call.index arity)

/-- The type that a call sets for a field. -/
def Call.typeAt? (index : Nat) (call : Call) : Option Ty :=
  if index = call.index then some call.type else none

/-- The types that calls set for a field, in order. -/
def typesWritten (arity : Nat) : List Call → Nat → List Ty :=
  writtenBy (Call.error? arity) Call.typeAt?

/-- The builder holds what the calls say, and takes the next call accordingly. -/
structure Reflects (arity : Nat) (calls : List Call) (builder : TupleBuilder) : Prop where
  arity_eq : builder.arity = arity
  /-- The next call fails exactly if it is refused, and then for the reason given. -/
  error_iff : ∀ call error, (builder.call call).1 = .error error ↔ call.error? arity = some error
  /-- A call that fails leaves the builder as it is. -/
  error_self : ∀ call error, (builder.call call).1 = .error error → (builder.call call).2 = builder
  isComplete_iff : builder.isComplete ↔ ∀ index < arity, typesWritten arity calls index ≠ []
  build_ok_iff : (∃ type, builder.build = .ok type) ↔ builder.isComplete
  /-- A finished tuple has the types that were set last. -/
  build_ok : ∀ type, builder.build = .ok type → ∃ fields, type = .tuple fields ∧
    fields.length = arity ∧
      ∀ index < arity, fields[index]? = (typesWritten arity calls index).getLast?
  /-- Otherwise the first field without a type is reported. -/
  build_error : ∀ error, builder.build = .error error → ∃ index < arity,
    FirstUnwritten (typesWritten arity calls) index ∧ error = .fieldTypeUnset index

end TupleBuilder

/-! ## Named tuples -/

namespace NamedTupleBuilder

/-- A call on a builder: it sets the type or the name of a field. -/
inductive Call where
  | setType (index : Nat) (type : Ty)
  | setName (index : Nat) (text : String)

/-- An operation on a builder in place. What it wrote before an error stays written. -/
abbrev Action := ExceptT TypeError (StateM NamedTupleBuilder)

/-- Does a call in place. -/
def perform : Call → Action Unit
  | .setType index type => do
    let builder ← get
    MonadExcept.ofExcept (builder.types.requireIndex index)
    set { builder with
      types := builder.types.set index type
      size_names := by simp [builder.size_names] }
  | .setName index text => do
    let builder ← get
    MonadExcept.ofExcept (builder.names.requireIndex index)
    let name ← MonadExcept.ofExcept (FieldName.ofString text)
    set { builder with
      names := builder.names.set index name
      size_names := by simp [builder.size_names] }

/-- The outcome of a call, and the builder after it. -/
def call (builder : NamedTupleBuilder) (call : Call) : Except TypeError Unit × NamedTupleBuilder :=
  Id.run (StateT.run (ExceptT.run (perform call)) builder)

/-- The builder after calls, of which any can fail. -/
def after (builder : NamedTupleBuilder) (calls : List Call) : NamedTupleBuilder :=
  calls.foldl (fun builder call => (builder.call call).2) builder

namespace Call

/-- Why a builder with so many fields refuses a call. The index is looked at before the name. -/
def error? (arity : Nat) : Call → Option TypeError
  | setType index _ => if index < arity then none else some (.fieldIndexOutOfRange index arity)
  | setName index text =>
    if index < arity then
      if FieldName.Valid text then none else some (.invalidFieldName text)
    else some (.fieldIndexOutOfRange index arity)

/-- The type that a call sets for a field. -/
def typeAt? (index : Nat) : Call → Option Ty
  | setType index' type => if index = index' then some type else none
  | setName _ _ => none

/-- The name that a call sets for a field. -/
def nameAt? (index : Nat) : Call → Option FieldName
  | setType _ _ => none
  | setName index' text => if index = index' then some ⟨text⟩ else none

end Call

/-- The types that calls set for a field, in order. -/
def typesWritten (arity : Nat) : List Call → Nat → List Ty :=
  writtenBy (Call.error? arity) Call.typeAt?

/-- The names that calls set for a field, in order. -/
def namesWritten (arity : Nat) : List Call → Nat → List FieldName :=
  writtenBy (Call.error? arity) Call.nameAt?

/-- The builder holds what the calls say, and takes the next call accordingly. -/
structure Reflects (arity : Nat) (calls : List Call) (builder : NamedTupleBuilder) : Prop where
  arity_eq : builder.arity = arity
  /-- The next call fails exactly if it is refused, and then for the reason given. -/
  error_iff : ∀ call error, (builder.call call).1 = .error error ↔ call.error? arity = some error
  /-- A call that fails leaves the builder as it is. -/
  error_self : ∀ call error, (builder.call call).1 = .error error → (builder.call call).2 = builder
  isComplete_iff : builder.isComplete ↔ ∀ index < arity,
    namesWritten arity calls index ≠ [] ∧ typesWritten arity calls index ≠ []
  build_ok_iff : (∃ type, builder.build = .ok type) ↔ builder.isComplete
  /-- A finished named tuple has the names and types that were set last. -/
  build_ok : ∀ type, builder.build = .ok type → ∃ fields, type = .namedTuple fields ∧
    fields.length = arity ∧ ∀ index < arity, ∃ field, fields[index]? = some field ∧
      (namesWritten arity calls index).getLast? = some field.name ∧
        (typesWritten arity calls index).getLast? = some field.type
  /-- Otherwise the first field without a name is reported, or if all have names the first one
  without a type. -/
  build_error : ∀ error, builder.build = .error error →
    (∃ index < arity, FirstUnwritten (namesWritten arity calls) index ∧
      error = .fieldNameUnset index) ∨
    ((∀ index < arity, namesWritten arity calls index ≠ []) ∧
      ∃ index < arity, FirstUnwritten (typesWritten arity calls) index ∧
        error = .fieldTypeUnset index)

end NamedTupleBuilder

end MachineTypes
