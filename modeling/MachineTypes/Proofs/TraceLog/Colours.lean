import Mathlib.Data.List.Forall2
import MachineTypes.Proofs.Tag
import MachineTypes.Proofs.TraceLog.Steps
import MachineTypes.Proofs.Ty.MapForeign
import MachineTypes.Proofs.Ty.Nodes
import MachineTypes.TraceLog.Steps

/-!
# `MachineTypes.Proofs.TraceLog.Colours`: colours can be taken off a log

A line is put together from parts of two sorts: escapes, and texts without an escape character.
`Decorates` relates a text with colours to the text without them. Parts of both sorts have it, and
it goes over to texts that are put one behind the other (`Decorates.append`). For this an escape has
to begin with the escape character, and no escape may begin another one (`Distinct`). So it holds of
each kind of line, and of a line with its verdict.

Names stand unescaped in the text of a type, so a name can bring an escape with it. The names in the
events of a check are names of the two types, and so it is enough to ask that these have none
(`escapeFree_of_mem_events`).

The lines of a log are its transcript (`lines_after_new`), in which every line has its verdict from
the start. So it does not matter that verdicts are appended later on.
-/

set_option autoImplicit false

namespace MachineTypes

/-! ### Names without escapes -/

/-- There is no escape character in a field name, at any node. -/
def Ty.EscapeFree (type : Ty) : Prop :=
  type.Everywhere fun node => ∀ name ∈ node.names, TraceLog.EscapeFree name

/-- There is no escape character in the names of the mismatch. -/
def Mismatch.EscapeFree : Mismatch → Prop
  | kind _ _ | arity _ _ => True
  | fieldName _ sub sup => TraceLog.EscapeFree sub ∧ TraceLog.EscapeFree sup

/-- There is no escape character in the names of the event. -/
def CheckEvent.EscapeFree : CheckEvent → Prop
  | enter sub sup => sub.EscapeFree ∧ sup.EscapeFree
  | mismatch why => why.EscapeFree
  | exit _ => True

/-- There is no escape character in the names that the step is given. -/
def TraceLog.Step.EscapeFree : Step → Prop
  | call event => event.EscapeFree
  | check sub sup => sub.EscapeFree ∧ sup.EscapeFree

/-! ### Texts without escapes -/

namespace TraceLog

/-- No escape character comes about by putting texts one after the other. -/
@[simp] theorem escapeFree_append {text more : String} :
    EscapeFree (text ++ more) ↔ EscapeFree text ∧ EscapeFree more := by
  simp [EscapeFree]

/-- A list of texts has no escape character if neither they nor the separator have one. -/
theorem EscapeFree.intercalate {separator : String} {texts : List String}
    (between : EscapeFree separator) (each : ∀ text ∈ texts, EscapeFree text) :
    EscapeFree (separator.intercalate texts) := by
  induction texts with
  | nil => simp [EscapeFree]
  | cons first rest ih =>
    obtain ⟨head, tail⟩ := List.forall_mem_cons.mp each
    cases rest with
    | nil => simpa using head
    | cons second rest =>
      rw [String.intercalate_cons_cons]
      simp [head, between, ih tail]

/-- The names of kinds are letters, and one has a space. -/
@[simp] theorem escapeFree_kindName (kind : Kind) : EscapeFree kind.name := by
  cases kind <;> decide

/-- A number is written in digits. -/
@[simp] theorem escapeFree_repr (n : Nat) : EscapeFree n.repr := by
  intro mem
  rw [Nat.repr_eq_ofList_toDigits, String.toList_ofList] at mem
  have digit := Nat.isDigit_of_mem_toDigits (by omega) (by omega) mem
  exact absurd digit (by decide)

/-- A tag is written in hexadecimal digits and dashes. -/
@[simp] theorem escapeFree_tag (tag : Tag) : EscapeFree tag.display := by
  intro mem
  have notDigit : ∀ word, escape ∉ Tag.digits word := by
    intro word mem
    exact absurd (Text.isHexDigit_of_mem_hexDigits mem) (by decide)
  have notDash : escape ≠ '-' := by decide
  simp [Tag.toList_display, notDigit, notDash] at mem

/-- Lines are indented by spaces. -/
theorem escapeFree_indent (depth : Nat) : EscapeFree (Palette.indent depth) := by
  have notSpace : escape ≠ ' ' := by decide
  simp [EscapeFree, Palette.toList_indent, notSpace]

/-- All of a reason but the names in it is fixed text, numbers and kinds. -/
theorem escapeFree_reason {why : Mismatch} (free : why.EscapeFree) : EscapeFree why.reason := by
  cases why with
  | kind sub sup => simp +decide [Mismatch.reason]
  | arity sub sup => simp +decide [Mismatch.reason]
  | fieldName index sub sup => simp +decide [Mismatch.reason, free.1, free.2]

end TraceLog

namespace Ty

/-! ### Types without escapes -/

/-- A type has no escape character in its names if its root and its children have none. -/
theorem escapeFree_iff {type : Ty} :
    type.EscapeFree ↔ (∀ name ∈ type.names, TraceLog.EscapeFree name) ∧
      ∀ child ∈ type.children, child.EscapeFree :=
  everywhere_iff

/-- For a named tuple these are the names of its fields and those inside their types. -/
theorem escapeFree_namedTuple_iff {fields : List (Field Ty)} :
    (namedTuple fields).EscapeFree ↔ ∀ field ∈ fields,
      TraceLog.EscapeFree field.name.text ∧ field.type.EscapeFree :=
  everywhere_names_namedTuple_iff

/-- The notation of a type has no escape character if the names have none. -/
theorem escapeFree_display {type : Ty} (free : type.EscapeFree) :
    TraceLog.EscapeFree type.display := by
  have comma : TraceLog.EscapeFree ", " := by decide
  -- By the notation of each kind of node: brackets, separators and the notations of the children,
  -- and for fields their names.
  induction type with
  | any | bool | event | machine | int | null => exact TraceLog.escapeFree_kindName _
  | foreign type =>
    rw [display]
    split <;> simp +decide
  | map domain codomain ihDomain ihCodomain =>
    have below := (escapeFree_iff.mp free).2
    rw [children, List.forall_mem_cons, List.forall_mem_singleton] at below
    simp +decide [display, ihDomain below.1, ihCodomain below.2]
  | seq inner ih =>
    have below := (escapeFree_iff.mp free).2
    rw [children, List.forall_mem_singleton] at below
    simp +decide [display, ih below]
  | tuple fields ih =>
    have below := (escapeFree_iff.mp free).2
    have each : ∀ text ∈ fields.map display, TraceLog.EscapeFree text := by
      refine List.forall_mem_map.mpr ?_
      intro field mem
      exact ih field mem (below field mem)
    rw [display, displayAll_eq_map, displayTuple.eq_def]
    split
    case h_1 texts only isOnly =>
      have text : TraceLog.EscapeFree only := each only (by simp [isOnly])
      simp +decide [text]
    case h_2 =>
      have inside := TraceLog.EscapeFree.intercalate comma each
      simp +decide [inside]
  | namedTuple fields ih =>
    have below := escapeFree_namedTuple_iff.mp free
    have each : ∀ text ∈ fields.map displayField, TraceLog.EscapeFree text := by
      refine List.forall_mem_map.mpr ?_
      intro field mem
      obtain ⟨name, type⟩ := below field mem
      simp +decide [displayField, name, ih field mem type]
    have inside := TraceLog.EscapeFree.intercalate comma each
    simp +decide [display, displayFields_eq_map, displayNamedTuple, inside]

/-- What a check finds wrong with two nodes names nothing but their own names. -/
theorem escapeFree_mismatch? {sub sup : Ty} (free : sub.EscapeFree) (free' : sup.EscapeFree)
    {why : Mismatch} (found : sub.mismatch? sup = some why) : why.EscapeFree := by
  cases mismatch?_eq_some_iff.mp found with
  | kind | arity | namedArity => trivial
  | fieldName index field field' _ isField isField' =>
    have names := escapeFree_namedTuple_iff.mp free _ (List.mem_of_getElem? isField)
    have names' := escapeFree_namedTuple_iff.mp free' _ (List.mem_of_getElem? isField')
    exact ⟨names.1, names'.1⟩

/-- All names in the events of a check are names of the two types. -/
theorem escapeFree_of_mem_events {sub sup : Ty} (free : sub.EscapeFree) (free' : sup.EscapeFree)
    {event : CheckEvent} (mem : event ∈ sub.events sup) : event.EscapeFree := by
  induction sub using ind_children generalizing sup with
  | node sub ih =>
    rw [events_eq, comparisonEvents, List.mem_append, List.mem_cons, List.mem_singleton] at mem
    -- An event of a check is its `enter`, its `exit` or something in between: the mismatch or the
    -- events of a pair of children.
    rcases mem with (rfl | inside) | rfl
    · exact ⟨free, free'⟩
    · cases found : sub.mismatch? sup with
      | some why =>
        simp only [found, List.mem_singleton] at inside
        subst inside
        exact escapeFree_mismatch? free free' found
      | none =>
        simp only [found] at inside
        obtain ⟨pair, compared, mem⟩ := List.mem_flatMap.mp inside
        obtain ⟨isChild, isChild'⟩ := List.of_mem_zip (mem_of_mem_untilRejected compared)
        have below := (escapeFree_iff.mp free).2 pair.1 isChild
        have below' := (escapeFree_iff.mp free').2 pair.2 isChild'
        exact ih pair.1 isChild below below' mem
    · trivial

end Ty

namespace TraceLog

/-- The calls of a step have no names but those that the step is given. -/
theorem Step.EscapeFree.of_mem_calls {step : Step} (free : step.EscapeFree) {event : CheckEvent}
    (mem : event ∈ step.calls) : event.EscapeFree := by
  cases step with
  | call given =>
    rw [Step.calls, List.mem_singleton] at mem
    rw [mem]
    exact free
  | check sub sup =>
    rw [calls_check] at mem
    exact Ty.escapeFree_of_mem_events free.1 free.2 mem

/-! ### Decorated texts -/

namespace Palette

/-- The escapes of the palette can be told from other texts and from each other. -/
structure Distinct (palette : Palette) : Prop where
  begins : ∀ mark ∈ palette.escapes, mark.head? = some escape
  eq_of_isPrefix : ∀ mark ∈ palette.escapes, ∀ mark' ∈ palette.escapes,
    mark <+: mark' → mark = mark'

/-- The escapes of the coloured palette all begin with the escape character and end with the same
letter, so none begins another. -/
theorem distinct_coloured : coloured.Distinct where
  begins := by decide
  eq_of_isPrefix := by decide

/-- The second text has no escape character, and it is what is left of the first without the
escapes, whatever follows it. -/
structure Decorates (palette : Palette) (text bare : String) : Prop where
  erased : ∀ rest, palette.eraseFrom 0 (text.toList ++ rest)
    = bare.toList ++ palette.eraseFrom 0 rest
  escapeFree : EscapeFree bare

variable {palette : Palette}

/-- Decorated texts can be put one after the other: each is erased without a look at the other. -/
theorem Decorates.append {text bare more bareMore : String} (here : palette.Decorates text bare)
    (next : palette.Decorates more bareMore) :
    palette.Decorates (text ++ more) (bare ++ bareMore) := by
  refine ⟨?_, escapeFree_append.mpr ⟨here.escapeFree, next.escapeFree⟩⟩
  intro rest
  rw [String.toList_append, List.append_assoc, here.erased, next.erased, String.toList_append,
    List.append_assoc]

/-- Taking the escapes off a decorated text leaves the plain one. -/
theorem Decorates.erase_eq {text bare : String} (decorates : palette.Decorates text bare) :
    palette.erase text = bare := by
  have erased := decorates.erased []
  rw [List.append_nil, eraseFrom, List.append_nil] at erased
  rw [erase, erased, String.ofList_toList]

/-- No escape begins with another character. -/
theorem eraseFrom_cons_of_ne (distinct : palette.Distinct) {c : Char} (notEscape : c ≠ escape)
    (rest : List Char) : palette.eraseFrom 0 (c :: rest) = c :: palette.eraseFrom 0 rest := by
  -- An escape that stood here would begin with `c`, and escapes begin otherwise.
  have none : palette.escapes.find? (·.isPrefixOf (c :: rest)) = none := by
    rw [List.find?_eq_none]
    intro mark mem isPrefix
    have begins := distinct.begins mark mem
    cases mark with
    | nil => cases begins
    | cons first more =>
      obtain ⟨same, -⟩ := List.cons_prefix_cons.mp (List.isPrefixOf_iff_prefix.mp isPrefix)
      exact notEscape (same.symm.trans (Option.some.inj begins))
  rw [eraseFrom, none]

/-- Of the escapes that a text can begin with, the one that it begins with is found. -/
theorem find?_escape_append (distinct : palette.Distinct) {mark : List Char}
    (mem : mark ∈ palette.escapes) (rest : List Char) :
    palette.escapes.find? (·.isPrefixOf (mark ++ rest)) = some mark := by
  have begins : mark <+: mark ++ rest := List.prefix_append mark rest
  cases found : palette.escapes.find? (·.isPrefixOf (mark ++ rest)) with
  | none =>
    have notPrefix := List.find?_eq_none.mp found mark mem
    exact absurd (List.isPrefixOf_iff_prefix.mpr begins) notPrefix
  | some other =>
    have otherMem : other ∈ palette.escapes := List.mem_of_find?_eq_some found
    have otherBegins : other <+: mark ++ rest := by simpa using List.find?_some found
    -- Of two escapes that one text begins with, the shorter begins the longer.
    rcases List.prefix_or_prefix_of_prefix otherBegins begins with before | before
    · rw [distinct.eq_of_isPrefix other otherMem mark mem before]
    · rw [distinct.eq_of_isPrefix mark mem other otherMem before]

/-- Characters that belong to an escape are left out. -/
theorem eraseFrom_length_append (covered rest : List Char) :
    palette.eraseFrom covered.length (covered ++ rest) = palette.eraseFrom 0 rest := by
  induction covered with
  | nil => rfl
  | cons c covered ih => exact ih

/-- An escape is left out as a whole. -/
theorem eraseFrom_escape_append (distinct : palette.Distinct) {mark : List Char}
    (mem : mark ∈ palette.escapes) (rest : List Char) :
    palette.eraseFrom 0 (mark ++ rest) = palette.eraseFrom 0 rest := by
  have found := find?_escape_append distinct mem rest
  -- An empty text is not among the escapes, but nothing would have to be erased either.
  cases mark with
  | nil => rfl
  | cons first more =>
    rw [List.cons_append] at found ⊢
    rw [eraseFrom, found]
    exact eraseFrom_length_append more rest

/-- A text without escape characters is kept, whatever follows it. -/
theorem eraseFrom_append_of_not_mem (distinct : palette.Distinct) {text : List Char}
    (notMem : escape ∉ text) (rest : List Char) :
    palette.eraseFrom 0 (text ++ rest) = text ++ palette.eraseFrom 0 rest := by
  induction text with
  | nil => rfl
  | cons c text ih =>
    obtain ⟨notEscape, notIn⟩ := List.ne_and_not_mem_of_not_mem_cons notMem
    rw [List.cons_append, eraseFrom_cons_of_ne distinct notEscape.symm, ih notIn, List.cons_append]

/-- A text without escape characters decorates itself. -/
theorem decorates_of_escapeFree (distinct : palette.Distinct) {text : String}
    (free : EscapeFree text) : palette.Decorates text text :=
  ⟨eraseFrom_append_of_not_mem distinct free, free⟩

/-- A text that the palette writes around the parts of a line leaves nothing. -/
theorem decorates_mark (distinct : palette.Distinct) {mark : String}
    (mem : mark ∈ [palette.type, palette.accept, palette.reject, palette.reset]) :
    palette.Decorates mark "" := by
  refine ⟨?_, by decide⟩
  intro rest
  -- A palette can leave a text empty, and then it is no escape and there is nothing to erase.
  by_cases empty : mark.toList = []
  · rw [empty]
    rfl
  · refine eraseFrom_escape_append distinct ?_ rest
    exact List.mem_filter.mpr ⟨List.mem_map_of_mem mem, decide_eq_true empty⟩

/-- Other escapes than those of the palette stay. -/
example : coloured.erase "\x1b[34mint\x1b[0m \x1b[31mno" = "int \x1b[31mno" := by
  decide

/-! ### Lines -/

/-- A part of a line, with its escapes around it, leaves its own text. -/
theorem Decorates.part {line bare mark text : String} (before : palette.Decorates line bare)
    (distinct : palette.Distinct)
    (mem : mark ∈ [palette.type, palette.accept, palette.reject, palette.reset])
    (free : EscapeFree text) :
    palette.Decorates (line ++ mark ++ text ++ palette.reset) (bare ++ "" ++ text ++ "") := by
  have opening := decorates_mark distinct mem
  have inside := decorates_of_escapeFree distinct free
  have reset : palette.Decorates palette.reset "" := decorates_mark distinct (by simp)
  exact ((before.append opening).append inside).append reset

/-- The line of a comparison is the plain one once the escapes around its types are taken off. -/
theorem decorates_comparisonLine (distinct : palette.Distinct) (depth : Nat) {sub sup : Ty}
    (free : sub.EscapeFree) (free' : sup.EscapeFree) :
    palette.Decorates (palette.comparisonLine depth sub sup)
      (plain.comparisonLine depth sub sup) := by
  have indent := decorates_of_escapeFree distinct (escapeFree_indent depth)
  have left : palette.Decorates (Palette.indent depth ++ palette.type ++ sub.display
      ++ palette.reset) _ := indent.part distinct (by simp) (Ty.escapeFree_display free)
  have arrow : palette.Decorates " <: " " <: " := decorates_of_escapeFree distinct (by decide)
  exact (left.append arrow).part distinct (by simp) (Ty.escapeFree_display free')

/-- So is the line of a reason, which has one part between escapes. -/
theorem decorates_reasonLine (distinct : palette.Distinct) (depth : Nat) {why : Mismatch}
    (free : why.EscapeFree) :
    palette.Decorates (palette.reasonLine depth why) (plain.reasonLine depth why) := by
  have indent := decorates_of_escapeFree distinct (escapeFree_indent depth)
  exact indent.part distinct (by simp) (escapeFree_reason free)

/-- So is what a verdict adds to a line. -/
theorem decorates_verdict (distinct : palette.Distinct) (accepted : Bool) :
    palette.Decorates (palette.verdict accepted) (plain.verdict accepted) := by
  have gap : palette.Decorates "  " "  " := decorates_of_escapeFree distinct (by decide)
  cases accepted with
  | true => exact gap.part distinct (by simp) (by decide)
  | false => exact gap.part distinct (by simp) (by decide)

/-- What is appended to a line once its comparison has ended, or nothing. -/
theorem decorates_ending (distinct : palette.Distinct) (later : List CheckEvent) (inner : Nat) :
    palette.Decorates (palette.ending later inner) (plain.ending later inner) := by
  have nothing : palette.Decorates "" "" := decorates_of_escapeFree distinct (by decide)
  rw [ending, ending]
  cases CheckEvent.closingVerdict? inner later with
  | none => exact nothing
  | some accepted => exact decorates_verdict distinct accepted

/-- The same calls write the same lines with the colours of a palette and without them. -/
theorem forall₂_decorates_transcript (distinct : palette.Distinct) (verbosity : Verbosity)
    (depth : Nat) {calls : List CheckEvent} (free : ∀ event ∈ calls, event.EscapeFree) :
    List.Forall₂ palette.Decorates ((Config.mk verbosity palette).transcript depth calls)
      ((Config.mk verbosity plain).transcript depth calls) := by
  induction calls generalizing depth with
  | nil => exact .nil
  | cons event rest ih =>
    obtain ⟨here, later⟩ := List.forall_mem_cons.mp free
    cases event with
    | enter sub sup =>
      -- The line ends with its verdict here, which may have escapes of its own.
      have line := decorates_comparisonLine distinct depth here.1 here.2
      exact .cons (line.append (decorates_ending distinct rest 0)) (ih (depth + 1) later)
    | mismatch why =>
      cases verbosity with
      | quiet => exact ih depth later
      | verbose => exact .cons (decorates_reasonLine distinct depth here) (ih depth later)
    | exit accepted => exact ih (depth - 1) later

end Palette

/-! ### The two logs -/

/-- After any calls without escape characters in names, a coloured log and a plain one differ in
the escapes and in nothing else. -/
theorem sameButForEscapes_after {palette : Palette} (distinct : palette.Distinct)
    (verbosity : Verbosity) {calls : List CheckEvent}
    (free : ∀ event ∈ calls, event.EscapeFree) :
    SameButForEscapes palette ((new ⟨verbosity, palette⟩).after calls)
      ((new ⟨verbosity, .plain⟩).after calls) := by
  obtain ⟨inRange, -, depth⟩ := (InRange.new ⟨verbosity, palette⟩).after calls
  obtain ⟨inRange', -, depth'⟩ := (InRange.new ⟨verbosity, .plain⟩).after calls
  have sameDepth := depth.trans depth'.symm
  -- Both logs hold the transcripts of the same calls, in which the lines correspond one by one.
  have decorates := Palette.forall₂_decorates_transcript distinct verbosity 0 free
  rw [← lines_after_new, ← lines_after_new] at decorates
  have size := decorates.length_eq
  have eachLine : List.Forall₂ (fun bare text => EscapeFree bare ∧ bare = palette.erase text)
      ((new ⟨verbosity, .plain⟩).after calls).lines.toList
      ((new ⟨verbosity, palette⟩).after calls).lines.toList :=
    decorates.flip.imp fun _ _ line => ⟨line.escapeFree, line.erase_eq.symm⟩
  obtain ⟨free, erased⟩ := (List.forall₂_and_left _ _).mp eachLine
  have mapped := List.forall₂_map_right_iff.mpr erased
  rw [List.forall₂_eq_eq_eq] at mapped
  exact ⟨sameDepth, size, mapped, by simpa using free, call_fst_eq inRange inRange' sameDepth⟩

/-- Do the same steps with a new coloured log and a new plain one, and let no name that the steps
are given have an escape character in it. The steps have the same outcomes: the same ones are
faults, and checks have the same verdicts. The plain log has the lines of the coloured one without
their escapes. -/
theorem colours_are_removable (verbosity : Verbosity) (steps : List Step)
    (free : ∀ step ∈ steps, step.EscapeFree) :
    let coloured := new ⟨verbosity, .coloured⟩
    let plain := new ⟨verbosity, .plain⟩
    (coloured.steps steps).1 = (plain.steps steps).1 ∧
      SameButForEscapes .coloured (coloured.steps steps).2 (plain.steps steps).2 := by
  intro coloured plain
  have outcomes : (coloured.steps steps).1 = (plain.steps steps).1 :=
    steps_fst_eq (InRange.new ⟨verbosity, .coloured⟩) (InRange.new ⟨verbosity, .plain⟩) rfl steps
  have calls : ∀ event ∈ steps.flatMap Step.calls, event.EscapeFree := by
    intro event mem
    obtain ⟨step, isStep, mem⟩ := List.mem_flatMap.mp mem
    exact (free step isStep).of_mem_calls mem
  refine ⟨outcomes, ?_⟩
  rw [steps_snd, steps_snd]
  exact sameButForEscapes_after Palette.distinct_coloured verbosity calls

/-- An `exit` that is a fault, a mismatch by hand, and a check that is rejected for a name. The
lines of the plain log are read off those of the coloured one. -/
theorem colours_are_removable_rejected :
    let sub := Ty.namedTuple [⟨⟨"x"⟩, .int⟩]
    let sup := Ty.namedTuple [⟨⟨"y"⟩, .int⟩]
    let steps := [Step.call (.exit true), .call (.mismatch (.fieldName 0 "a" "b")), .check sub sup]
    let coloured := new ⟨.verbose, .coloured⟩
    let plain := new ⟨.verbose, .plain⟩
    (∀ step ∈ steps, step.EscapeFree) ∧
      (coloured.steps steps).2.lines.toList
        = ["\x1b[2mfield 0 is named `a`, expected `b`\x1b[0m",
          "\x1b[34m(x: int)\x1b[0m <: \x1b[34m(y: int)\x1b[0m  \x1b[2mno\x1b[0m",
          "  \x1b[2mfield 0 is named `x`, expected `y`\x1b[0m"] ∧
      (plain.steps steps).1 = [.error .unmatchedExit, .ok none, .ok (some false)] ∧
      (plain.steps steps).2.lines.toList
        = ["field 0 is named `a`, expected `b`", "(x: int) <: (y: int)  no",
          "  field 0 is named `x`, expected `y`"] := by
  intro sub sup steps coloured plain
  have lines : (coloured.steps steps).2.lines.toList
      = ["\x1b[2mfield 0 is named `a`, expected `b`\x1b[0m",
        "\x1b[34m(x: int)\x1b[0m <: \x1b[34m(y: int)\x1b[0m  \x1b[2mno\x1b[0m",
        "  \x1b[2mfield 0 is named `x`, expected `y`\x1b[0m"] := by
    decide +revert
  have int : Ty.int.EscapeFree := Ty.escapeFree_iff.mpr (by simp [Ty.names, Ty.children])
  have free : sub.EscapeFree :=
    Ty.escapeFree_namedTuple_iff.mpr (List.forall_mem_singleton.mpr ⟨by decide, int⟩)
  have free' : sup.EscapeFree :=
    Ty.escapeFree_namedTuple_iff.mpr (List.forall_mem_singleton.mpr ⟨by decide, int⟩)
  have names : (Mismatch.fieldName 0 "a" "b").EscapeFree := ⟨by decide, by decide⟩
  have each : ∀ step ∈ steps, step.EscapeFree := by
    simpa [steps, Step.EscapeFree, CheckEvent.EscapeFree] using ⟨names, free, free'⟩
  obtain ⟨outcomes, same⟩ := colours_are_removable .verbose steps each
  refine ⟨each, lines, outcomes.symm.trans rfl, same.lines_eq.trans ?_⟩
  rw [lines]
  decide

end TraceLog

end MachineTypes
