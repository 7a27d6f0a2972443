import MachineTypes.Proofs.Builder.InOrder
import MachineTypes.Proofs.Outcome
import MachineTypes.Ty.Construct

/-!
# `MachineTypes.Proofs.Ty.Construct`: tuples made in one step

`Ty.ofFields` and `Ty.ofNamedFields` fill a builder in order. The indexes and the unset slots of
that builder never cause an error, so what is left is one equation each: a tuple has the fields that
were given, and a named tuple has them if each of their names is valid.

The loops are followed with `filled`, which says what a builder looks like when the first fields are
set and the others are not. One turn of a loop makes one more field set (`setField_holding`), and a
whole run sets all that fit (`setTypesFrom_filled`, `setFieldsFrom_holding`). The equations
`Ty.ofFields_eq` and `Ty.ofNamedFields_eq` are these runs from a new builder to its end, and other
modules use them in place of the loops.
-/

set_option autoImplicit false

namespace MachineTypes

/-- The field with the given name and type, if the text can name a field. -/
def Field.ofPair (pair : String × Ty) : Except TypeError (Field Ty) :=
  (FieldName.ofString pair.1).map fun name => ⟨name, pair.2⟩

/-- The texts and types of a list give exactly the fields they are taken from, and only if all
texts are valid names. -/
theorem mapM_ofPair_eq_ok_iff {pairs : List (String × Ty)} {fields : List (Field Ty)} :
    pairs.mapM Field.ofPair = .ok fields ↔
      pairs = fields.map (fun field => (field.name.text, field.type)) ∧
        ∀ field ∈ fields, FieldName.Valid field.name.text := by
  -- Along the pairs. The fields are taken apart with them.
  induction pairs generalizing fields with
  | nil =>
    constructor
    · intro done
      cases done
      exact ⟨rfl, List.forall_mem_nil _⟩
    · rintro ⟨none, -⟩
      rw [List.map_eq_nil_iff.mp none.symm]
      rfl
  | cons pair rest ih =>
    obtain ⟨text, type⟩ := pair
    rw [List.mapM_cons, bind_eq_ok_iff]
    constructor
    · rintro ⟨field, isField, others⟩
      obtain ⟨name, isName, rfl⟩ := map_eq_ok_iff.mp isField
      obtain ⟨valid, rfl⟩ := FieldName.ofString_eq_ok_iff.mp isName
      obtain ⟨restFields, restDone, same⟩ := bind_eq_ok_iff.mp others
      cases same
      obtain ⟨rfl, restValid⟩ := ih.mp restDone
      exact ⟨rfl, List.forall_mem_cons.mpr ⟨valid, restValid⟩⟩
    · rintro ⟨same, allValid⟩
      cases fields with
      | nil => cases same
      | cons field restFields =>
        cases same
        obtain ⟨valid, restValid⟩ := List.forall_mem_cons.mp allValid
        refine ⟨field, ?_, ?_⟩
        · exact map_eq_ok_iff.mpr ⟨_, FieldName.ofString_eq_ok_iff.mpr ⟨valid, rfl⟩, rfl⟩
        · rw [ih.mpr ⟨rfl, restValid⟩]
          rfl

/-! ### Tuples -/

namespace TupleBuilder

/-- Types that fit into the unset fields are all set. -/
theorem setTypesFrom_filled {arity : Nat} {done types : List Ty}
    (room : done.length + types.length ≤ arity) :
    (filled arity done).setTypesFrom done.length types = .ok (filled arity (done ++ types)) := by
  -- Along the types that are left. The fields done so far grow with each of them, so they are
  -- arbitrary in the induction.
  induction types generalizing done with
  | nil => rw [setTypesFrom, List.append_nil]
  | cons type rest ih =>
    rw [List.length_cons] at room
    have one : (done ++ [type]).length = done.length + 1 := by simp
    rw [setTypesFrom, setType_filled (by omega)]
    show (filled arity (done ++ [type])).setTypesFrom (done.length + 1) rest = _
    rw [← one, ih (by omega), ← List.append_cons]

end TupleBuilder

/-- A tuple made in one step has the given fields. -/
theorem Ty.ofFields_eq {fields : List Ty} (nonempty : fields ≠ []) :
    Ty.ofFields fields = .ok (.tuple fields) := by
  have positive : 0 < fields.length := List.length_pos_iff.mpr nonempty
  have allSet := @TupleBuilder.setTypesFrom_filled fields.length [] fields (by simp)
  rw [List.length_nil, List.nil_append] at allSet
  rw [Ty.ofFields, TupleBuilder.new_eq_filled positive]
  -- The failures of the steps get the kind of the tuple, and there are none.
  show Except.mapError _ ((TupleBuilder.filled fields.length []).setTypesFrom 0 fields >>=
    TupleBuilder.build) = _
  rw [allSet]
  show Except.mapError _ (TupleBuilder.filled fields.length fields).build = _
  rw [TupleBuilder.build_filled rfl]
  rfl

/-- Making a tuple in one step succeeds exactly if there is a field. -/
theorem Ty.ofFields_eq_ok_iff {fields : List Ty} {type : Ty} :
    Ty.ofFields fields = .ok type ↔ fields ≠ [] ∧ type = .tuple fields := by
  by_cases nonempty : fields = []
  · subst nonempty
    exact iff_of_false nofun (fun made => made.1 rfl)
  · rw [Ty.ofFields_eq nonempty, Except.ok.injEq, and_iff_right nonempty, eq_comm]

/-! ### Named tuples -/

namespace NamedTupleBuilder

/-- A builder whose first fields are given. -/
def holding (arity : Nat) (fields : List (Field Ty)) : NamedTupleBuilder :=
  filled arity (fields.map (·.name)) (fields.map (·.type))

/-- The name and the type of the first unset field are set, unless the name is invalid. -/
theorem setField_holding {arity : Nat} {done : List (Field Ty)} (room : done.length < arity)
    (text : String) (type : Ty) :
    ((holding arity done).setName done.length text >>= fun named =>
        named.setType done.length type)
      = (Field.ofPair (text, type)).map fun field => holding arity (done ++ [field]) := by
  have roomForName : (done.map (·.name)).length < arity := by rwa [List.length_map]
  have roomForType : (done.map (·.type)).length < arity := by rwa [List.length_map]
  have named := setName_filled (done.map (·.type)) roomForName text
  rw [List.length_map] at named
  rw [holding, named, Field.ofPair]
  cases FieldName.ofString text with
  | error => rfl
  | ok name =>
    have typed := setType_filled (done.map (·.name) ++ [name]) roomForType type
    rw [List.length_map] at typed
    show (filled arity _ _).setType done.length type = .ok (holding arity (done ++ [⟨name, type⟩]))
    rw [typed, holding, List.map_append, List.map_append]
    rfl

/-- Fields that fit into the unset ones are all set, or the first invalid name is reported. -/
theorem setFieldsFrom_holding {arity : Nat} {done : List (Field Ty)} {pairs : List (String × Ty)}
    (room : done.length + pairs.length ≤ arity) :
    (holding arity done).setFieldsFrom done.length pairs
      = (pairs.mapM Field.ofPair).map fun added => holding arity (done ++ added) := by
  induction pairs generalizing done with
  | nil =>
    show Except.ok _ = Except.ok (holding arity (done ++ []))
    rw [List.append_nil]
  | cons pair rest ih =>
    obtain ⟨text, type⟩ := pair
    rw [List.length_cons] at room
    show ((holding arity done).setName done.length text >>= fun named =>
      named.setType done.length type >>= fun next =>
        next.setFieldsFrom (done.length + 1) rest) = _
    rw [← bind_assoc, setField_holding (by omega), List.mapM_cons]
    cases Field.ofPair (text, type) with
    | error => rfl
    | ok field =>
      have one : (done ++ [field]).length = done.length + 1 := by simp
      show (holding arity (done ++ [field])).setFieldsFrom (done.length + 1) rest = _
      rw [← one, ih (by omega)]
      cases rest.mapM Field.ofPair with
      | error => rfl
      | ok added =>
        show Except.ok _ = Except.ok (holding arity (done ++ field :: added))
        rw [List.append_cons done field added]

/-- A builder that holds as many fields as it was made for gives the named tuple of these fields. -/
theorem build_holding (fields : List (Field Ty)) :
    (holding fields.length fields).build = .ok (.namedTuple fields) := by
  rw [holding, build_filled (List.length_map _) (List.length_map _), zipWith_mk_map]

end NamedTupleBuilder

/-- A named tuple made in one step has the given fields, and if that fails the first invalid name
is the cause. -/
theorem Ty.ofNamedFields_eq {pairs : List (String × Ty)} (nonempty : pairs ≠ []) :
    Ty.ofNamedFields pairs
      = ((pairs.mapM Field.ofPair).map .namedTuple).mapError (⟨.namedTuple, ·⟩) := by
  have positive : 0 < pairs.length := List.length_pos_iff.mpr nonempty
  have allSet := @NamedTupleBuilder.setFieldsFrom_holding pairs.length [] pairs (by simp)
  rw [Ty.ofNamedFields, NamedTupleBuilder.new_eq_filled positive]
  show Except.mapError _ ((NamedTupleBuilder.holding pairs.length []).setFieldsFrom 0 pairs >>=
    NamedTupleBuilder.build) = _
  rw [List.length_nil] at allSet
  rw [allSet]
  cases outcome : pairs.mapM Field.ofPair with
  | error => rfl
  | ok fields =>
    obtain ⟨same, -⟩ := mapM_ofPair_eq_ok_iff.mp outcome
    have length : pairs.length = fields.length := by rw [same, List.length_map]
    show Except.mapError _ (NamedTupleBuilder.holding pairs.length fields).build = _
    rw [length, NamedTupleBuilder.build_holding]
    rfl

/-- Making a named tuple in one step succeeds exactly if there is a field and all names are
valid. -/
theorem Ty.ofNamedFields_eq_ok_iff {pairs : List (String × Ty)} {type : Ty} :
    Ty.ofNamedFields pairs = .ok type ↔
      ∃ fields : List (Field Ty), fields ≠ [] ∧
        pairs = fields.map (fun field => (field.name.text, field.type)) ∧
          (∀ field ∈ fields, FieldName.Valid field.name.text) ∧ type = .namedTuple fields := by
  by_cases nonempty : pairs = []
  · subst nonempty
    refine iff_of_false nofun ?_
    rintro ⟨fields, some, none, -⟩
    exact some (List.map_eq_nil_iff.mp none.symm)
  · rw [Ty.ofNamedFields_eq nonempty]
    constructor
    · intro made
      cases outcome : pairs.mapM Field.ofPair with
      | error =>
        rw [outcome] at made
        cases made
      | ok fields =>
        rw [outcome] at made
        cases made
        obtain ⟨rfl, valid⟩ := mapM_ofPair_eq_ok_iff.mp outcome
        exact ⟨fields, fun none => nonempty (List.map_eq_nil_iff.mpr none), rfl, valid, rfl⟩
    · rintro ⟨fields, -, same, valid, rfl⟩
      rw [mapM_ofPair_eq_ok_iff.mpr ⟨same, valid⟩]
      rfl

end MachineTypes
