import MachineTypes.Proofs.Tag
import MachineTypes.Proofs.Ty.Built
import MachineTypes.Proofs.Ty.MapForeign
import MachineTypes.Proofs.Ty.Nodes

/-!
# `MachineTypes.Proofs.Ty.Display`: the notation of types is unambiguous

The text of a type can be read off the front of any text that begins with it, and what is read is
the type without its providers (`cancels_display`). `Cancels` says this of two things with a text
each: what begins with both texts has one thing in front and one rest behind it.

The proof follows the notation. The opening of a node is a keyword or a keyword with a bracket, no
opening begins another, and so the opening gives the kind of the node
(`opening_eq_of_append_eq`). Then the parts are read off one after the other, and a list of fields
by `cancels_closing`. Only tuples and named tuples open alike. They differ in the first mark after
the bracket (`display_tuple_append_ne`), if the names have no marks.

Names stand unescaped, so names with marks can spell the rest of a type. That the lists of fields
are not empty is needed too: both kinds of tuple would show without fields as `()`.
-/

set_option autoImplicit false

namespace MachineTypes

/-! ### Texts that can be read off the front of a text -/

/-- If a text begins with the text of `a` and with that of `a'`, the two have one key and leave one
rest of the text. -/
def Cancels {α β : Type} (text : α → String) (key : α → β) (a a' : α) : Prop :=
  ∀ ⦃rest rest' : List Char⦄, (text a).toList ++ rest = (text a').toList ++ rest' →
    key a = key a' ∧ rest = rest'

/-- Tags can be read off the front of a text, since they are all equally long. -/
theorem Tag.cancels_display (tag tag' : Tag) : Cancels display id tag tag' := by
  intro rest rest' same
  have length : tag.display.toList.length = tag'.display.toList.length := by
    rw [length_toList_display, length_toList_display]
  obtain ⟨same, rest_eq⟩ := List.append_inj same length
  exact ⟨display_injective (String.toList_inj.mp same), rest_eq⟩

/-- What stands before the first occurrence of an element is the same however a list is split
there. -/
theorem append_cons_inj {α : Type} {mark : α} {text text' rest rest' : List α}
    (notMem : mark ∉ text) (notMem' : mark ∉ text')
    (same : text ++ mark :: rest = text' ++ mark :: rest') :
    text = text' ∧ rest = rest' := by
  -- Along the first text. Neither text can end before the other, as its next element would be the
  -- mark.
  induction text generalizing text' with
  | nil =>
    cases text' with
    | nil => exact ⟨rfl, List.tail_eq_of_cons_eq same⟩
    | cons first text' =>
      cases List.head_eq_of_cons_eq same
      exact absurd List.mem_cons_self notMem'
  | cons first text ih =>
    cases text' with
    | nil =>
      cases List.head_eq_of_cons_eq same
      exact absurd List.mem_cons_self notMem
    | cons first' text' =>
      obtain ⟨rfl, tail⟩ := List.cons.inj same
      have notIn := List.not_mem_of_not_mem_cons notMem
      have notIn' := List.not_mem_of_not_mem_cons notMem'
      obtain ⟨rfl, rest_eq⟩ := ih notIn notIn' tail
      exact ⟨rfl, rest_eq⟩

/-- What follows the first of the texts in brackets: the others, each after a comma, and then the
closing bracket. If there are no others, `last` is what follows. -/
def closing (last : List Char) : List String → List Char
  | [] => last
  | text :: texts => ',' :: ' ' :: (text.toList ++ closing [')'] texts)

/-- Texts with commas between them and a bracket behind are the first text and what `closing` puts
after it. -/
theorem toList_intercalate_append (first : String) (others : List String) :
    (", ".intercalate (first :: others)).toList ++ [')']
      = first.toList ++ closing [')'] others := by
  induction others generalizing first with
  | nil => simp [closing]
  | cons second others ih =>
    rw [closing, ← ih]
    simp

section
variable {α β : Type} {text : α → String} {key : α → β}

/-- Lists in brackets can be read off the front of a text if their elements can. -/
theorem cancels_closing {last : List Char} (isLast : last = [')'] ∨ last = [',', ')'])
    {first first' : α} {others others' : List α}
    (each : ∀ item ∈ first :: others, ∀ item' ∈ first' :: others', Cancels text key item item')
    {rest rest' : List Char}
    (same : (text first).toList ++ (closing last (others.map text) ++ rest)
      = (text first').toList ++ (closing last (others'.map text) ++ rest')) :
    (first :: others).map key = (first' :: others').map key ∧ rest = rest' := by
  -- By induction on the list. After an element there is either the end, which begins with a bracket
  -- or with a comma and a bracket, or another element, which has a space after the comma.
  induction others generalizing last first first' others' with
  | nil =>
    obtain ⟨head, same⟩ := each first List.mem_cons_self first' List.mem_cons_self same
    cases others' with
    | nil => exact ⟨congrArg ([·]) head, List.append_cancel_left same⟩
    | cons => rcases isLast with rfl | rfl <;> simp [closing] at same
  | cons second others ih =>
    obtain ⟨head, same⟩ := each first List.mem_cons_self first' List.mem_cons_self same
    cases others' with
    | nil => rcases isLast with rfl | rfl <;> simp [closing] at same
    | cons second' others' =>
      have eachOther : ∀ item ∈ second :: others, ∀ item' ∈ second' :: others',
          Cancels text key item item' := by
        intro item mem item' mem'
        exact each item (List.mem_cons_of_mem _ mem) item' (List.mem_cons_of_mem _ mem')
      simp only [List.map_cons, closing, List.cons_append, List.append_assoc, List.cons.injEq,
        true_and] at same
      obtain ⟨tail, rest_eq⟩ := ih (.inl rfl) eachOther same
      exact ⟨congrArg₂ List.cons head tail, rest_eq⟩

end

namespace Ty

/-- The characters that the notation uses between names and keywords. -/
def marks : List Char := [',', ':', '(', ')', '[', ']']

/-- No field name has a mark in it, at any node. -/
def PlainNames (type : Ty) : Prop :=
  type.Everywhere fun node => ∀ name ∈ node.names, ∀ c ∈ marks, c ∉ name.toList

/-! ### Openings -/

/-- The text of a node before its parts. -/
def opening : Ty → String
  | foreign type => if type.isAbsent then "absent" else "foreign("
  | map _ _ => "map["
  | seq _ => "seq["
  | tuple _ | namedTuple _ => "("
  | leaf => leaf.kind.name

/-- The kind of the root, as far as the opening shows it. Named tuples open like tuples. -/
def openingKind : Ty → Kind
  | namedTuple _ => .tuple
  | type => type.kind

/-- All openings, with the kinds that they show. -/
def openings : List (String × Kind) :=
  [("any", .any), ("bool", .bool), ("event", .event), ("machine", .machine), ("int", .int),
    ("null", .null), ("absent", .foreign), ("foreign(", .foreign), ("map[", .map), ("seq[", .seq),
    ("(", .tuple)]

/-- No opening is the beginning of another, so each shows one kind. -/
theorem eq_of_isPrefix_of_mem_openings :
    ∀ opening ∈ openings, ∀ opening' ∈ openings, opening.1.toList <+: opening'.1.toList →
      opening = opening' := by
  decide

/-- The opening of a type is listed, with the kind that it shows. -/
theorem opening_mem_openings (type : Ty) : (type.opening, type.openingKind) ∈ openings := by
  cases type with
  | foreign type =>
    rw [opening]
    split <;> simp [openings, openingKind, kind]
  | _ => simp [opening, openings, openingKind, kind, Kind.name]

/-- The text of a type begins with its opening. -/
theorem opening_isPrefix_display (type : Ty) : type.opening.toList <+: type.display.toList := by
  cases type with
  | foreign type =>
    rw [opening, display]
    split
    · exact List.prefix_rfl
    · simp [String.toList_append]
  | map | seq => simp [opening, display]
  | tuple fields =>
    rw [opening, display, displayTuple.eq_def]
    split <;> simp
  | namedTuple fields => simp [opening, display, displayNamedTuple]
  | _ => exact List.prefix_rfl

/-- Types whose texts begin one text open alike. -/
theorem opening_eq_of_append_eq {type type' : Ty} {rest rest' : List Char}
    (same : type.display.toList ++ rest = type'.display.toList ++ rest') :
    type.opening = type'.opening ∧ type.openingKind = type'.openingKind := by
  rw [← Prod.mk.injEq]
  have begins : type.opening.toList <+: type.display.toList ++ rest :=
    type.opening_isPrefix_display.trans (List.prefix_append _ _)
  have begins' : type'.opening.toList <+: type.display.toList ++ rest := by
    rw [same]
    exact type'.opening_isPrefix_display.trans (List.prefix_append _ _)
  have mem := type.opening_mem_openings
  have mem' := type'.opening_mem_openings
  -- Both openings begin one text, so one of them begins the other.
  rcases List.prefix_or_prefix_of_prefix begins begins' with before | before
  · exact eq_of_isPrefix_of_mem_openings _ mem _ mem' before
  · exact (eq_of_isPrefix_of_mem_openings _ mem' _ mem before).symm

/-! ### The first mark -/

/-- The first mark of a text. -/
def firstMark? (text : List Char) : Option Char := text.find? (· ∈ marks)

/-- The first mark of a text that is put together is in the first part, or else it is that of the
second. -/
theorem firstMark?_append (text rest : List Char) :
    firstMark? (text ++ rest) = (firstMark? text).or (firstMark? rest) :=
  List.find?_append

/-- In front of a comma, the text of a type does not look like the name of a field. -/
theorem firstMark?_display_append (type : Ty) (rest : List Char) :
    firstMark? (type.display.toList ++ ',' :: rest) ≠ some ':' := by
  cases type with
  | foreign type =>
    rw [display]
    split <;> simp [firstMark?, marks]
  | map | seq => simp [firstMark?, marks, display]
  | tuple fields =>
    rw [display, displayTuple.eq_def]
    split <;> simp [firstMark?, marks]
  | namedTuple fields => simp [firstMark?, marks, display, displayNamedTuple]
  | _ => simp [firstMark?, marks, display, kind, Kind.name]

/-- In front of a colon, a plain name has no mark. -/
theorem firstMark?_append_of_plain {name : String} (plain : ∀ c ∈ marks, c ∉ name.toList)
    (rest : List Char) : firstMark? (name.toList ++ ':' :: rest) = some ':' := by
  have noMark : firstMark? name.toList = none := by
    rw [firstMark?, List.find?_eq_none]
    intro c mem
    simpa using fun isMark => plain c isMark mem
  rw [firstMark?_append, noMark]
  rfl

/-! ### Nodes, given their parts -/

/-- Fields can be read off the front of a text if their types can: a plain name ends at the first
colon. -/
theorem cancels_displayField {field field' : Field Ty}
    (plain : ':' ∉ field.name.text.toList) (plain' : ':' ∉ field'.name.text.toList)
    (types : Cancels display eraseProviders field.type field'.type) :
    Cancels displayField (Field.map eraseProviders) field field' := by
  intro rest rest' same
  simp only [displayField, String.toList_append, List.append_assoc] at same
  -- The names end at the first colon, and what is left begins with the types.
  obtain ⟨name, same⟩ := append_cons_inj plain plain' same
  obtain ⟨type, same⟩ := types (List.tail_eq_of_cons_eq same)
  refine ⟨?_, same⟩
  rw [Field.map, Field.map, type, FieldName.text_injective (String.toList_inj.mp name)]

/-- Foreign leaves can be read off the front of a text, as far as their tags. The absent type shows
as a keyword of its own. -/
theorem cancels_foreign (type type' : ForeignType) :
    Cancels display eraseProviders (foreign type) (foreign type') := by
  intro rest rest' same
  suffices type.tag = type'.tag ∧ rest = rest' by
    simpa [eraseProviders, mapForeign] using this
  have opening_eq := (opening_eq_of_append_eq same).1
  rw [opening, opening] at opening_eq
  rw [display, display] at same
  cases absent : type.isAbsent <;> cases absent' : type'.isAbsent <;>
    simp only [absent, absent'] at opening_eq same
  case false.false =>
    obtain ⟨tag, same⟩ := type.tag.cancels_display type'.tag (by simpa using same)
    exact ⟨tag, by simpa using same⟩
  case true.true =>
    have tag : type.tag = .absent := of_decide_eq_true absent
    have tag' : type'.tag = .absent := of_decide_eq_true absent'
    exact ⟨tag.trans tag'.symm, by simpa using same⟩
  -- One leaf is the absent type and the other is not, so they do not open alike.
  all_goals simp at opening_eq

/-- Maps can be read off the front of a text if their domains and codomains can. -/
theorem cancels_map {domain domain' codomain codomain' : Ty}
    (domains : Cancels display eraseProviders domain domain')
    (codomains : Cancels display eraseProviders codomain codomain') :
    Cancels display eraseProviders (map domain codomain) (map domain' codomain') := by
  intro rest rest' same
  simp only [display, String.toList_append, List.append_assoc] at same
  obtain ⟨domain_eq, same⟩ := domains (List.append_cancel_left same)
  obtain ⟨codomain_eq, same⟩ := codomains (List.append_cancel_left same)
  exact ⟨congrArg₂ map domain_eq codomain_eq, List.append_cancel_left same⟩

/-- Sequences can be read off the front of a text if their element types can. -/
theorem cancels_seq {inner inner' : Ty} (inners : Cancels display eraseProviders inner inner') :
    Cancels display eraseProviders (seq inner) (seq inner') := by
  intro rest rest' same
  simp only [display, String.toList_append, List.append_assoc] at same
  obtain ⟨inner_eq, same⟩ := inners (List.append_cancel_left same)
  exact ⟨congrArg seq inner_eq, List.append_cancel_left same⟩

/-- The text of a tuple: its first field, and the others with commas. If there are no others, one
comma shows that the brackets are those of a tuple. -/
theorem toList_display_tuple (first : Ty) (others : List Ty) :
    (tuple (first :: others)).display.toList
      = '(' :: (first.display.toList ++ closing [',', ')'] (others.map display)) := by
  rw [display, displayAll_eq_map, List.map_cons]
  cases others with
  | nil => simp [displayTuple, closing]
  | cons second others =>
    -- With more than one field there is no comma before the bracket, as for a named tuple.
    show _ = '(' :: (first.display.toList ++ closing [')'] ((second :: others).map display))
    rw [← toList_intercalate_append]
    simp [displayTuple]

/-- The text of a named tuple: its first field, and the others with commas. -/
theorem toList_display_namedTuple (first : Field Ty) (others : List (Field Ty)) :
    (namedTuple (first :: others)).display.toList
      = '(' :: ((displayField first).toList ++ closing [')'] (others.map displayField)) := by
  rw [display, displayFields_eq_map, List.map_cons, ← toList_intercalate_append]
  simp [displayNamedTuple]

/-- Tuples can be read off the front of a text if their fields can. -/
theorem cancels_tuple {fields fields' : List Ty} (nonempty : fields ≠ []) (nonempty' : fields' ≠ [])
    (each : ∀ type ∈ fields, ∀ type' ∈ fields', Cancels display eraseProviders type type') :
    Cancels display eraseProviders (tuple fields) (tuple fields') := by
  intro rest rest' same
  obtain ⟨first, others, rfl⟩ := List.exists_cons_of_ne_nil nonempty
  obtain ⟨first', others', rfl⟩ := List.exists_cons_of_ne_nil nonempty'
  rw [toList_display_tuple, toList_display_tuple, List.cons_append, List.cons_append,
    List.append_assoc, List.append_assoc] at same
  obtain ⟨fields_eq, rest_eq⟩ := cancels_closing (.inr rfl) each (List.tail_eq_of_cons_eq same)
  refine ⟨?_, rest_eq⟩
  simp only [eraseProviders, mapForeign, mapForeignAll_eq_map]
  exact congrArg tuple fields_eq

/-- Named tuples can be read off the front of a text if their fields can. -/
theorem cancels_namedTuple {fields fields' : List (Field Ty)} (nonempty : fields ≠ [])
    (nonempty' : fields' ≠ [])
    (each : ∀ field ∈ fields, ∀ field' ∈ fields',
      Cancels displayField (Field.map eraseProviders) field field') :
    Cancels display eraseProviders (namedTuple fields) (namedTuple fields') := by
  intro rest rest' same
  obtain ⟨first, others, rfl⟩ := List.exists_cons_of_ne_nil nonempty
  obtain ⟨first', others', rfl⟩ := List.exists_cons_of_ne_nil nonempty'
  rw [toList_display_namedTuple, toList_display_namedTuple, List.cons_append, List.cons_append,
    List.append_assoc, List.append_assoc] at same
  obtain ⟨fields_eq, rest_eq⟩ := cancels_closing (.inl rfl) each (List.tail_eq_of_cons_eq same)
  refine ⟨?_, rest_eq⟩
  simp only [eraseProviders, mapForeign, mapForeignFields_eq_map]
  exact congrArg namedTuple fields_eq

/-- The texts of a tuple and of a named tuple never begin one text: the first mark after the bracket
is not a colon for the one and a colon for the other. -/
theorem display_tuple_append_ne {fields : List Ty} {fields' : List (Field Ty)}
    (nonempty : fields ≠ []) (nonempty' : fields' ≠ [])
    (plain : ∀ field ∈ fields', ∀ c ∈ marks, c ∉ field.name.text.toList) (rest rest' : List Char) :
    (tuple fields).display.toList ++ rest ≠ (namedTuple fields').display.toList ++ rest' := by
  intro same
  obtain ⟨first, others, rfl⟩ := List.exists_cons_of_ne_nil nonempty
  obtain ⟨first', others', rfl⟩ := List.exists_cons_of_ne_nil nonempty'
  have comma : ∃ more, closing [',', ')'] (others.map display) = ',' :: more := by
    cases others <;> exact ⟨_, rfl⟩
  obtain ⟨more, comma⟩ := comma
  rw [toList_display_tuple, toList_display_namedTuple, List.cons_append, List.cons_append,
    List.append_assoc, List.append_assoc, comma, displayField, List.cons_append] at same
  -- After the bracket the one text has a type and a comma, and the other has a name and a colon.
  have type := firstMark?_display_append first (more ++ rest)
  rw [List.tail_eq_of_cons_eq same] at type
  simp only [String.toList_append, List.append_assoc] at type
  exact type (firstMark?_append_of_plain (plain first' List.mem_cons_self) _)

/-! ### Types -/

/-- The names of a type are plain if those of the root are, and those below. -/
theorem plainNames_iff {type : Ty} :
    type.PlainNames ↔ (∀ name ∈ type.names, ∀ c ∈ marks, c ∉ name.toList) ∧
      ∀ child ∈ type.children, child.PlainNames :=
  everywhere_iff

/-- The names of a named tuple are plain if those of its fields are, and those below each field. -/
theorem plainNames_namedTuple_iff {fields : List (Field Ty)} :
    (namedTuple fields).PlainNames ↔ ∀ field ∈ fields,
      (∀ c ∈ marks, c ∉ field.name.text.toList) ∧ field.type.PlainNames :=
  everywhere_names_namedTuple_iff

/-- The texts of types can be read off the front of a text. -/
theorem cancels_display {type type' : Ty} (wellFormed : type.WellFormed)
    (wellFormed' : type'.WellFormed) (plain : type.PlainNames) (plain' : type'.PlainNames) :
    Cancels display eraseProviders type type' := by
  -- By induction on the first type. The opening leaves a second type of the same kind, up to the
  -- difference between tuples and named tuples.
  induction type generalizing type' with
  | any | bool | event | machine | int | null =>
    intro rest rest' same
    cases type' <;> cases (opening_eq_of_append_eq same).2
    exact ⟨rfl, List.append_cancel_left same⟩
  | foreign type =>
    intro rest rest' same
    cases type' <;> cases (opening_eq_of_append_eq same).2
    exact cancels_foreign _ _ same
  | map domain codomain ihDomain ihCodomain =>
    intro rest rest' same
    have below := (plainNames_iff.mp plain).2
    have below' := (plainNames_iff.mp plain').2
    cases type' <;> cases (opening_eq_of_append_eq same).2
    case map.refl domain' codomain' =>
      rw [children, List.forall_mem_cons, List.forall_mem_singleton] at below below'
      have domains : Cancels display eraseProviders domain domain' :=
        ihDomain wellFormed.1 wellFormed'.1 below.1 below'.1
      have codomains : Cancels display eraseProviders codomain codomain' :=
        ihCodomain wellFormed.2 wellFormed'.2 below.2 below'.2
      exact cancels_map domains codomains same
  | seq inner ih =>
    intro rest rest' same
    have below := (plainNames_iff.mp plain).2
    have below' := (plainNames_iff.mp plain').2
    cases type' <;> cases (opening_eq_of_append_eq same).2
    case seq.refl inner' =>
      rw [children, List.forall_mem_singleton] at below below'
      have inners : Cancels display eraseProviders inner inner' :=
        ih wellFormed wellFormed' below below'
      exact cancels_seq inners same
  | tuple fields ih =>
    intro rest rest' same
    have below := (plainNames_iff.mp plain).2
    obtain ⟨nonempty, each⟩ := wellFormed_tuple_iff.mp wellFormed
    cases type' <;> cases (opening_eq_of_append_eq same).2
    case tuple.refl fields' =>
      have below' := (plainNames_iff.mp plain').2
      obtain ⟨nonempty', each'⟩ := wellFormed_tuple_iff.mp wellFormed'
      refine cancels_tuple nonempty nonempty' ?_ same
      intro type mem type' mem'
      exact ih type mem (each type mem) (each' type' mem') (below type mem) (below' type' mem')
    case namedTuple.refl fields' =>
      have below' := plainNames_namedTuple_iff.mp plain'
      have nonempty' := (wellFormed_namedTuple_iff.mp wellFormed').1
      refine absurd same (display_tuple_append_ne nonempty nonempty' ?_ rest rest')
      exact fun field mem => (below' field mem).1
  | namedTuple fields ih =>
    intro rest rest' same
    have below := plainNames_namedTuple_iff.mp plain
    obtain ⟨nonempty, each⟩ := wellFormed_namedTuple_iff.mp wellFormed
    cases type' <;> cases (opening_eq_of_append_eq same).2
    case tuple.refl fields' =>
      have nonempty' := (wellFormed_tuple_iff.mp wellFormed').1
      refine absurd same.symm (display_tuple_append_ne nonempty' nonempty ?_ rest' rest)
      exact fun field mem => (below field mem).1
    case namedTuple.refl fields' =>
      have below' := plainNames_namedTuple_iff.mp plain'
      obtain ⟨nonempty', each'⟩ := wellFormed_namedTuple_iff.mp wellFormed'
      refine cancels_namedTuple nonempty nonempty' ?_ same
      intro field mem field' mem'
      have colon : ':' ∈ marks := by decide
      refine cancels_displayField ((below field mem).1 _ colon) ((below' field' mem').1 _ colon) ?_
      exact ih field mem (each field mem).2 (each' field' mem').2 (below field mem).2
        (below' field' mem').2

/-- Built types without marks in their names have one notation exactly when they are equal. -/
theorem display_eq_iff_beq (type type' : Ty) (built : type.Built) (built' : type'.Built)
    (plain : type.PlainNames) (plain' : type'.PlainNames) :
    type.display = type'.display ↔ type == type' := by
  constructor
  · intro same
    have cancels := cancels_display built.wellFormed built'.wellFormed plain plain'
    rw [beq_iff_eraseProviders_eq]
    exact (@cancels [] [] (by rw [same])).1
  · exact display_of_beq

/-- A tuple with one field and a named tuple with one field, whose name is a keyword. -/
theorem display_eq_iff_beq_keyword :
    let unnamed := tuple [int]
    let named := namedTuple [⟨⟨"int"⟩, int⟩]
    unnamed.Built ∧ named.Built ∧ unnamed.PlainNames ∧ named.PlainNames ∧
      unnamed.display ≠ named.display := by
  intro unnamed named
  have built : unnamed.Built :=
    built_iff_wellFormed.mpr (by simp [unnamed, WellFormed, AllWellFormed])
  have built' : named.Built := by
    refine built_iff_wellFormed.mpr (wellFormed_namedTuple_iff.mpr ⟨by simp, ?_⟩)
    simpa [WellFormed] using (by decide : FieldName.Valid "int")
  have leaf : int.PlainNames := plainNames_iff.mpr (by simp [names, children])
  have plain : unnamed.PlainNames := plainNames_iff.mpr (by simpa [unnamed, names, children])
  have plain' : named.PlainNames := by
    refine plainNames_namedTuple_iff.mpr (List.forall_mem_singleton.mpr ⟨?_, leaf⟩)
    simp [marks]
  have different : ¬ unnamed == named := by decide
  refine ⟨built, built', plain, plain', ?_⟩
  exact fun same => different ((display_eq_iff_beq _ _ built built' plain plain').mp same)

/-- Names with marks can make two types look alike. -/
example :
    (namedTuple [⟨⟨"x: int, y"⟩, int⟩]).display
      = (namedTuple [⟨⟨"x"⟩, int⟩, ⟨⟨"y"⟩, int⟩]).display := by
  decide

end Ty

end MachineTypes
