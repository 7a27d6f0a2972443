import Mathlib.Data.List.Basic
import MachineTypes.Ty.Inspect
import MachineTypes.Ty.MapForeign
import MachineTypes.Ty.Nodes

/-!
# `MachineTypes.Proofs.Ty.MapForeign`: types with other foreign leaves

A map over the foreign leaves of a type changes nothing else of it. Two such maps matter: the one
that erases all foreign leaves, which is as much as subtyping can see, and the one that erases the
providers in them, which is as much as `==` and the texts of a type can see.

So a result that some function cannot tell equal types apart is proved once for the erased type and
carried over by `congr_of_beq` and `congr_of_beq₂`. None of the results here asks for well-formed
types.
-/

set_option autoImplicit false

namespace MachineTypes.Ty

/-! ## Replacing foreign leaves

Two replacements of the foreign leaves of a type say what a foreign leaf counts for:

* `eraseForeign` makes all foreign leaves the same, so it forgets their tags and providers;
* `eraseProviders` keeps the tags and forgets the providers.

`beq_iff_eraseProviders_eq` says that `==` is equality of trees up to providers: the root, the
names, the order of the fields and the tags count at every position.
-/

/-- The type with the tag and the provider of every foreign leaf erased. -/
def eraseForeign : Ty → Ty := mapForeign fun _ => .absent

/-- The type with the provider of every foreign leaf erased. -/
def eraseProviders : Ty → Ty := mapForeign fun type => ⟨type.tag, Foreign.Absent.provider⟩

/-! ### Equality up to providers -/

/-- Lists of types are equal up to providers if their types are. -/
theorem beqAll_iff {types types' : List Ty}
    (eachIff : ∀ type ∈ types, ∀ type', type.beq type' ↔
      type.eraseProviders = type'.eraseProviders) :
    beqAll types types' ↔ types.map eraseProviders = types'.map eraseProviders := by
  -- Along the first list. The second must end with it.
  induction types generalizing types' with
  | nil => cases types' <;> simp [beqAll]
  | cons type rest ih =>
    cases types' with
    | nil => simp [beqAll]
    | cons type' rest' =>
      have headIff := eachIff type (by simp) type'
      have restIff : beqAll rest rest' ↔ rest.map eraseProviders = rest'.map eraseProviders := by
        refine ih ?_
        intro other mem
        exact eachIff other (by simp [mem])
      rw [beqAll, Bool.and_eq_true, headIff, restIff, List.map_cons, List.map_cons,
        List.cons.injEq]

/-- Lists of fields are equal up to providers if their names are equal and their types are
equal up to providers. -/
theorem beqFields_iff {fields fields' : List (Field Ty)}
    (eachIff : ∀ field ∈ fields, ∀ type', field.type.beq type' ↔
      field.type.eraseProviders = type'.eraseProviders) :
    beqFields fields fields' ↔
      fields.map (Field.map eraseProviders) = fields'.map (Field.map eraseProviders) := by
  induction fields generalizing fields' with
  | nil => cases fields' <;> simp [beqFields]
  | cons field rest ih =>
    cases fields' with
    | nil => simp [beqFields]
    | cons field' rest' =>
      have headIff := eachIff field (by simp) field'.type
      have restIff : beqFields rest rest' ↔
          rest.map (Field.map eraseProviders) = rest'.map (Field.map eraseProviders) := by
        refine ih ?_
        intro other mem
        exact eachIff other (by simp [mem])
      rw [beqFields, Bool.and_eq_true, Bool.and_eq_true, decide_eq_true_eq, headIff, restIff,
        List.map_cons, List.map_cons, List.cons.injEq, Field.map, Field.map, Field.mk.injEq]

/-- Two types are equal exactly when they are the same tree once providers are erased. -/
theorem beq_iff_eraseProviders_eq {type type' : Ty} :
    type == type' ↔ type.eraseProviders = type'.eraseProviders := by
  show type.beq type' ↔ _
  induction type generalizing type' with
  | any | bool | event | machine | int | null =>
    cases type' <;> simp [beq, kind, eraseProviders, mapForeign]
  | foreign foreignType =>
    cases type' with
    | foreign foreignType' =>
      -- Equality of foreign types is equality of their tags, and the tag is what is not erased.
      show (foreignType.tag == foreignType'.tag) = true ↔ _
      simp [eraseProviders, mapForeign]
    | _ => simp [beq, kind, eraseProviders, mapForeign]
  | map domain codomain ihDomain ihCodomain =>
    cases type' with
    | map domain' codomain' =>
      rw [beq, Bool.and_eq_true, ihDomain, ihCodomain]
      simp [eraseProviders, mapForeign]
    | _ => simp [beq, kind, eraseProviders, mapForeign]
  | seq inner ih =>
    cases type' with
    | seq inner' =>
      rw [beq, ih]
      simp [eraseProviders, mapForeign]
    | _ => simp [beq, kind, eraseProviders, mapForeign]
  | tuple fields ih =>
    cases type' with
    | tuple fields' =>
      rw [beq, beqAll_iff fun type mem _ => ih type mem]
      simp [eraseProviders, mapForeign, mapForeignAll_eq_map]
    | _ => simp [beq, kind, eraseProviders, mapForeign]
  | namedTuple fields ih =>
    cases type' with
    | namedTuple fields' =>
      rw [beq, beqFields_iff fun field mem _ => ih field mem]
      simp [eraseProviders, mapForeign, mapForeignFields_eq_map]
    | _ => simp [beq, kind, eraseProviders, mapForeign]

/-! ## What a type shows of its providers

`beq_iff_label_at` says what `==` compares: at every position the two types have nodes with one
label, or neither has a node. A label is the kind of a node, the names of its fields and its tag.

A replacement of the foreign leaves that keeps the tags keeps the labels, the notation and the
inspection. Erasing the providers is such a replacement, and types that are equal are the same tree
after it. So each equation here about `mapForeign` is also one between types that are equal.
-/

/-! ### Labels -/

/-- What a node has besides its children and its provider. -/
structure Label where
  kind : Kind
  names : List String
  tag? : Option Tag
  deriving DecidableEq, Repr

/-- The tag of a foreign leaf. -/
def tag? : Ty → Option Tag
  | foreign type => some type.tag
  | _ => none

/-- The label of the root. -/
def label (type : Ty) : Label := ⟨type.kind, type.names, type.tag?⟩

/-- The nodes of a type with replaced foreign leaves are its nodes with replaced foreign leaves. -/
theorem at?_mapForeign (f : ForeignType → ForeignType) (type : Ty) (position : List Nat) :
    (type.mapForeign f).at? position = (type.at? position).map (mapForeign f) := by
  induction position generalizing type with
  | nil => rfl
  | cons index rest ih =>
    rw [at?, at?, children_mapForeign, List.getElem?_map]
    cases type.children[index]? with
    | none => rfl
    | some child => exact ih child

/-- A replacement keeps the kind of the root: a foreign leaf stays a foreign leaf. -/
theorem kind_mapForeign (f : ForeignType → ForeignType) (type : Ty) :
    (type.mapForeign f).kind = type.kind := by
  cases type <;> rfl

/-- A replacement keeps the names of the fields. -/
theorem names_mapForeign (f : ForeignType → ForeignType) (type : Ty) :
    (type.mapForeign f).names = type.names := by
  cases type with
  | namedTuple fields =>
    show (mapForeignFields f fields).map (·.name.text) = fields.map (·.name.text)
    rw [mapForeignFields_eq_map, List.map_map]
    rfl
  | _ => rfl

/-- A replacement that keeps the tags keeps the label of the root. -/
theorem label_mapForeign {f : ForeignType → ForeignType}
    (keepsTag : ∀ type, (f type).tag = type.tag) (type : Ty) :
    (type.mapForeign f).label = type.label := by
  have tag : (type.mapForeign f).tag? = type.tag? := by
    cases type with
    | foreign type => exact congrArg some (keepsTag type)
    | _ => rfl
  rw [label, label, kind_mapForeign, names_mapForeign, tag]

/-! ### Notation and inspection -/

/-- The texts of a list of types are the texts of its types. -/
theorem displayAll_eq_map (types : List Ty) : displayAll types = types.map display := by
  induction types with
  | nil => rfl
  | cons type rest ih => rw [displayAll, ih, List.map_cons]

/-- The text of a named field. -/
def displayField (field : Field Ty) : String :=
  field.name.text ++ ": " ++ field.type.display

/-- The texts of a list of fields are the texts of its fields. -/
theorem displayFields_eq_map (fields : List (Field Ty)) :
    displayFields fields = fields.map displayField := by
  induction fields with
  | nil => rfl
  | cons field rest ih => rw [displayFields, ih, List.map_cons, displayField]

/-- The inspections of a list of types are those of its types. -/
theorem inspectAll_eq_map (types : List Ty) : inspectAll types = types.map inspect := by
  induction types with
  | nil => rfl
  | cons type rest ih => rw [inspectAll, ih, List.map_cons]

/-- The inspection of fields stays the same if that of their types does. -/
theorem inspectFields_congr {f : ForeignType → ForeignType} {fields : List (Field Ty)}
    (eachEq : ∀ field ∈ fields, (field.type.mapForeign f).inspect = field.type.inspect) :
    inspectFields (mapForeignFields f fields) = inspectFields fields := by
  induction fields with
  | nil => rfl
  | cons field rest ih =>
    obtain ⟨head, tail⟩ := List.forall_mem_cons.mp eachEq
    rw [mapForeignFields, inspectFields, inspectFields, head, ih tail]

section
variable {f : ForeignType → ForeignType} (keepsTag : ∀ type, (f type).tag = type.tag)
include keepsTag

/-- The notation of a type shows of a foreign leaf its tag only. -/
theorem display_mapForeign (type : Ty) : (type.mapForeign f).display = type.display := by
  induction type with
  | any | bool | event | machine | int | null => rfl
  | foreign type =>
    have same : (f type).isAbsent = type.isAbsent := congrArg Tag.isAbsent (keepsTag type)
    rw [mapForeign, display, display, same, keepsTag]
  | map domain codomain ihDomain ihCodomain =>
    rw [mapForeign, display, display, ihDomain, ihCodomain]
  | seq inner ih => rw [mapForeign, display, display, ih]
  | tuple fields ih =>
    rw [mapForeign, display, display, displayAll_eq_map, displayAll_eq_map, mapForeignAll_eq_map,
      List.map_map]
    exact congrArg displayTuple (List.map_congr_left ih)
  | namedTuple fields ih =>
    have each : ∀ field ∈ fields, displayField (field.map (mapForeign f)) = displayField field := by
      intro field mem
      rw [displayField, Field.map, ih field mem, displayField]
    rw [mapForeign, display, display, displayFields_eq_map, displayFields_eq_map,
      mapForeignFields_eq_map, List.map_map]
    exact congrArg displayNamedTuple (List.map_congr_left each)

/-- The inspection of a type shows of a foreign leaf its tag only. -/
theorem inspect_mapForeign (type : Ty) : (type.mapForeign f).inspect = type.inspect := by
  induction type with
  | any | bool | event | machine | int | null => rfl
  | foreign type =>
    have same : (f type).inspect = type.inspect := by
      unfold ForeignType.inspect
      rw [keepsTag]
    rw [mapForeign, inspect, inspect, same]
  | map domain codomain ihDomain ihCodomain =>
    rw [mapForeign, inspect, inspect, ihDomain, ihCodomain]
  | seq inner ih => rw [mapForeign, inspect, inspect, ih]
  | tuple fields ih =>
    have each : inspectAll (mapForeignAll f fields) = inspectAll fields := by
      rw [inspectAll_eq_map, inspectAll_eq_map, mapForeignAll_eq_map, List.map_map]
      exact List.map_congr_left ih
    rw [mapForeign, inspect, inspect, each]
  | namedTuple fields ih => rw [mapForeign, inspect, inspect, inspectFields_congr ih]

end

/-! ### Equality -/

/-- Fields are given by the list of their names and the list of their types. -/
theorem map_fieldMap_eq_zipWith (f : Ty → Ty) (fields : List (Field Ty)) :
    fields.map (Field.map f)
      = List.zipWith (fun text type => ⟨⟨text⟩, type⟩) (fields.map (·.name.text))
          ((fields.map (·.type)).map f) := by
  induction fields with
  | nil => rfl
  | cons field rest ih =>
    rw [List.map_cons, ih]
    rfl

/-- A node without its provider is given by its label and its children. -/
theorem eraseProviders_eq_of_label_eq {type type' : Ty} (label_eq : type.label = type'.label)
    (children_eq : type.children.map eraseProviders = type'.children.map eraseProviders) :
    type.eraseProviders = type'.eraseProviders := by
  obtain ⟨kind_eq, names_eq, tag_eq⟩ := Label.mk.inj label_eq
  -- The labels leave only pairs of one kind.
  cases type <;> cases type' <;> cases kind_eq
  case foreign.foreign type type' =>
    have same : type.tag = type'.tag := Option.some.inj tag_eq
    simp [eraseProviders, mapForeign, same]
  case map.map domain codomain domain' codomain' =>
    obtain ⟨domain_eq, codomain_eq⟩ := List.cons.inj children_eq
    exact congrArg₂ map domain_eq (List.head_eq_of_cons_eq codomain_eq)
  case seq.seq inner inner' => exact congrArg seq (List.head_eq_of_cons_eq children_eq)
  case tuple.tuple fields fields' =>
    simp only [eraseProviders, mapForeign, mapForeignAll_eq_map]
    exact congrArg tuple children_eq
  case namedTuple.namedTuple fields fields' =>
    have fields_eq : fields.map (Field.map eraseProviders)
        = fields'.map (Field.map eraseProviders) := by
      rw [map_fieldMap_eq_zipWith, map_fieldMap_eq_zipWith]
      exact congrArg₂ _ names_eq children_eq
    simp only [eraseProviders, mapForeign, mapForeignFields_eq_map]
    exact congrArg namedTuple fields_eq
  -- The other nodes are leaves that hold nothing but their kind.
  all_goals rfl

/-- The labels of a type are those of the type without providers. -/
theorem map_label_at?_eraseProviders (type : Ty) (position : List Nat) :
    (type.eraseProviders.at? position).map label = (type.at? position).map label := by
  have each : ∀ node : Ty, node.eraseProviders.label = node.label :=
    label_mapForeign fun _ => rfl
  rw [eraseProviders, at?_mapForeign, Option.map_map]
  exact congrArg (Option.map · _) (funext each)

/-- Two types are equal exactly when they have nodes at the same positions, with the same labels
there. -/
theorem beq_iff_label_at {type type' : Ty} :
    type == type' ↔
      ∀ position, (type.at? position).map label = (type'.at? position).map label := by
  rw [beq_iff_eraseProviders_eq]
  constructor
  · intro erased position
    rw [← map_label_at?_eraseProviders, erased, map_label_at?_eraseProviders]
  · intro same
    -- The position of the root gives the label, and the positions that go through one child give
    -- what is below it.
    induction type using ind_children generalizing type' with
    | node type ih =>
      refine eraseProviders_eq_of_label_eq (Option.some.inj (same [])) ?_
      apply List.ext_getElem?
      intro index
      rw [List.getElem?_map, List.getElem?_map]
      have below : ∀ rest,
          (type.children[index]?.bind (·.at? rest)).map label
            = (type'.children[index]?.bind (·.at? rest)).map label :=
        fun rest => same (index :: rest)
      cases found : type.children[index]? <;> cases found' : type'.children[index]?
      case none.none => rfl
      case some.some child child' =>
        rw [found, found'] at below
        exact congrArg some (ih child (List.mem_of_getElem? found) below)
      -- Only one of the types has a node at this index.
      all_goals
        have root := below []
        rw [found, found'] at root
        cases root

/-- Erasing providers gives an equal type. -/
theorem eraseProviders_beq (type : Ty) : type.eraseProviders == type :=
  beq_iff_label_at.mpr (map_label_at?_eraseProviders type)

/-- What erasing providers does not change is the same for types that are equal. -/
theorem congr_of_beq {α : Type} {F : Ty → α} (blind : ∀ type, F type.eraseProviders = F type)
    {type type' : Ty} (equal : type == type') : F type = F type' := by
  rw [← blind type, beq_iff_eraseProviders_eq.mp equal, blind]

/-- The same for what is seen of two types. -/
theorem congr_of_beq₂ {α : Type} {F : Ty → Ty → α}
    (blind : ∀ type other, F type.eraseProviders other.eraseProviders = F type other)
    {type type' other other' : Ty} (equal : type == type') (equal' : other == other') :
    F type other = F type' other' := by
  rw [← blind type, beq_iff_eraseProviders_eq.mp equal, beq_iff_eraseProviders_eq.mp equal', blind]

/-- Equal types have one kind. -/
theorem kind_of_beq {type type' : Ty} (equal : type == type') : type.kind = type'.kind :=
  congr_of_beq (kind_mapForeign _) equal

/-- Equal types have one text. -/
theorem display_of_beq {type type' : Ty} (equal : type == type') : type.display = type'.display :=
  congr_of_beq (display_mapForeign fun _ => rfl) equal

/-- Equal types have one inspection. -/
theorem inspect_of_beq {type type' : Ty} (equal : type == type') : type.inspect = type'.inspect :=
  congr_of_beq (inspect_mapForeign fun _ => rfl) equal

end MachineTypes.Ty
