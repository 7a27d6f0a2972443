import MachineTypes.Descriptor.Basic
import MachineTypes.Proofs.Descriptor.Equations

/-!
# `MachineTypes.Proofs.Descriptor.Cutoff`: nothing below the deepest level counts

The conversion looks at the level of a node before it looks at the node. So it cannot tell a
descriptor from its `cut`, however deep the descriptor is (`convertAt_cut`), and it cannot tell
descriptors apart that agree on the levels it accepts (`convert_ignores_deep_levels`).

* `convertAt_mapSlots`: the conversion of a node depends on the nodes in its slots only through
  their own conversions. This is the only place where the constructors are told apart, and
  `convertAt_cut` is an induction on the number of levels.
* `cut_eq_of_agreeTo`: what agrees down to a level is cut to the same. A descriptor is given by its
  shell and its slots (`eq_of_shell_eq`), so this too goes level by level.

The main result has both. For the second part the two descriptors are not compared with each other
at all: they are cut to the same descriptor, and neither conversion notices the cut. The hypothesis
speaks of levels 0 to 256 only. At level 257 the two can hold anything, but they have nodes at the
same positions there, because the slots of the nodes above are filled alike. This is needed: a node
that is too deep is an error, and an empty slot is another one.
-/

set_option autoImplicit false

namespace MachineTypes.Descriptor

variable {f : Descriptor → Descriptor}

/-- What is done to the nodes in the slots is all that is done to the slots: none is filled, emptied
or moved. -/
theorem slots_mapSlots (f : Descriptor → Descriptor) (descriptor : Descriptor) :
    (descriptor.mapSlots f).slots = descriptor.slots.map (Option.map f) := by
  cases descriptor with
  | tuple arity fields => cases fields <;> rfl
  | namedTuple arity names fields => cases fields <;> rfl
  | _ => rfl

/-- Slots are converted to the same if each node in them is. -/
theorem convertSlots_map {level : Nat} {slots : List (Option Descriptor)}
    (each : ∀ part, some part ∈ slots → (f part).convertAt level = part.convertAt level)
    (index : Nat) :
    convertSlots level index (slots.map (Option.map f)) = convertSlots level index slots := by
  -- The index goes on counting, so the slots of the rest are converted from the next index on.
  induction slots generalizing index with
  | nil => rfl
  | cons slot rest ih =>
    have tail := ih (fun part mem => each part (List.mem_cons_of_mem _ mem)) (index + 1)
    cases slot with
    | none => rfl
    | some part =>
      rw [List.map_cons, Option.map_some, convertSlots, convertSlots, each part List.mem_cons_self,
        tail]

/-- What is put into the filled slots does not fill an empty one. -/
theorem LacksPart.mapSlots {descriptor : Descriptor} (lacks : descriptor.LacksPart)
    (f : Descriptor → Descriptor) : (descriptor.mapSlots f).LacksPart := by
  cases lacks with
  | record => exact .record
  | domain => exact .domain _
  | codomain => exact .codomain _
  | inner => exact .inner
  | fields arity => exact .fields arity
  | names arity => exact .names arity _
  | namedFields arity names => exact .namedFields arity names

/-- The root keeps its kind, whatever becomes of the nodes below it. -/
theorem kind_mapSlots (f : Descriptor → Descriptor) (descriptor : Descriptor) :
    (descriptor.mapSlots f).kind = descriptor.kind := by
  cases descriptor <;> rfl

/-- A node is converted to the same if each node in its slots is. -/
theorem convertAt_mapSlots {level : Nat} (shallow : level ≤ maxLevel) {descriptor : Descriptor}
    (each : ∀ part, some part ∈ descriptor.slots →
      (f part).convertAt (level + 1) = part.convertAt (level + 1)) :
    (descriptor.mapSlots f).convertAt level = descriptor.convertAt level := by
  cases descriptor using cases_complete with
  | any | bool | event | machine | int | null | foreign => rfl
  | lacksPart descriptor lacks =>
    rw [convertAt_of_lacksPart shallow (lacks.mapSlots f), convertAt_of_lacksPart shallow lacks,
      kind_mapSlots]
  | map domain codomain =>
    rw [mapSlots, Option.map_some, Option.map_some, convertAt_map shallow, convertAt_map shallow,
      each domain (by simp [slots]), each codomain (by simp [slots])]
  | seq inner =>
    rw [mapSlots, Option.map_some, convertAt_seq shallow, convertAt_seq shallow,
      each inner (by simp [slots])]
  -- As many slots as before, so the same count is compared with the arity.
  | tuple arity slots =>
    have types : convertSlots (level + 1) 0 (slots.map (Option.map f))
        = convertSlots (level + 1) 0 slots := convertSlots_map each 0
    rw [mapSlots, Option.map_some, convertAt_tuple shallow, convertAt_tuple shallow,
      List.length_map, types]
  | namedTuple arity nameSlots slots =>
    have types : convertSlots (level + 1) 0 (slots.map (Option.map f))
        = convertSlots (level + 1) 0 slots := convertSlots_map each 0
    rw [mapSlots, Option.map_some, convertAt_namedTuple shallow, convertAt_namedTuple shallow,
      List.length_map, types]

/-- What is left of a descriptor after a cut is converted to the same if all levels are left that
the conversion accepts. -/
theorem convertAt_cut {level levels : Nat} (enough : maxLevel < level + levels)
    (descriptor : Descriptor) :
    (descriptor.cut levels).convertAt level = descriptor.convertAt level := by
  -- A level less is left for each level that the walk goes down, so the sum of both stays the same.
  induction levels generalizing level descriptor with
  | zero =>
    have tooDeep : maxLevel < level := by omega
    rw [convertAt_of_tooDeep tooDeep, convertAt_of_tooDeep tooDeep]
  | succ levels ih =>
    rcases Nat.lt_or_ge maxLevel level with tooDeep | shallow
    · rw [convertAt_of_tooDeep tooDeep, convertAt_of_tooDeep tooDeep]
    · refine convertAt_mapSlots shallow fun part _ => ih ?_ part
      omega

/-! ### Agreement node by node -/

/-- What a root holds does not depend on what is in its filled slots. -/
theorem shell_mapSlots (f : Descriptor → Descriptor) (descriptor : Descriptor) :
    (descriptor.mapSlots f).shell = descriptor.shell := by
  have both : ∀ slot : Option Descriptor, (slot.map f).map (cut 0) = slot.map (cut 0) := by
    intro slot
    cases slot <;> rfl
  have all : ∀ slots : List (Option Descriptor),
      (slots.map (Option.map f)).map (Option.map (cut 0)) = slots.map (Option.map (cut 0)) := by
    intro slots
    rw [List.map_map]
    exact List.map_congr_left fun slot _ => both slot
  cases descriptor with
  | any | bool | event | machine | int | null | foreign => rfl
  | map domain codomain => exact congrArg₂ map (both domain) (both codomain)
  | seq inner => exact congrArg seq (both inner)
  | tuple arity fields =>
    cases fields with
    | none => rfl
    | some slots => exact congrArg (fun slots => tuple arity (some slots)) (all slots)
  | namedTuple arity names fields =>
    cases fields with
    | none => rfl
    | some slots => exact congrArg (fun slots => namedTuple arity names (some slots)) (all slots)

/-- Roots that hold the same have the same slots filled. -/
theorem slots_of_shell_eq {descriptor other : Descriptor}
    (same : descriptor.shell = other.shell) :
    descriptor.slots.map (Option.map (cut 0)) = other.slots.map (Option.map (cut 0)) := by
  rw [← slots_mapSlots, ← slots_mapSlots]
  exact congrArg slots same

/-- A descriptor is given by what its root holds and what is in its slots. -/
theorem eq_of_shell_eq {descriptor other : Descriptor} (same : descriptor.shell = other.shell)
    (sameSlots : descriptor.slots = other.slots) : descriptor = other := by
  -- Descriptors of one kind differ at most in their slots, which are given. Of two kinds, the
  -- shells tell them apart.
  cases descriptor <;> cases other
  case map.map domain codomain domain' codomain' =>
    obtain ⟨sameDomain, rest⟩ := List.cons.inj sameSlots
    obtain ⟨sameCodomain, -⟩ := List.cons.inj rest
    exact congrArg₂ map sameDomain sameCodomain
  case seq.seq => exact congrArg seq (List.cons.inj sameSlots).1
  case tuple.tuple arity fields arity' fields' =>
    obtain ⟨rfl, sameShape⟩ := tuple.inj same
    cases fields <;> cases fields'
    case none.none => rfl
    case some.some => exact congrArg (fun slots => tuple arity (some slots)) sameSlots
    all_goals cases sameShape
  case namedTuple.namedTuple arity names fields arity' names' fields' =>
    obtain ⟨rfl, rfl, sameShape⟩ := namedTuple.inj same
    cases fields <;> cases fields'
    case none.none => rfl
    case some.some => exact congrArg (fun slots => namedTuple arity names (some slots)) sameSlots
    all_goals cases sameShape
  -- A leaf is its own shell, and the shells of nodes of different kinds differ.
  all_goals first | exact same | cases same

/-- Of lists with the same slots filled, the same is made if the same is made of any two nodes that
stand at one place. -/
theorem map_slots_eq {α : Type} {f : Descriptor → α} {slots slots' : List (Option Descriptor)}
    (filled : slots.map (Option.map (cut 0)) = slots'.map (Option.map (cut 0)))
    (each : ∀ (index : Nat) (part part' : Descriptor), slots[index]? = some (some part) →
      slots'[index]? = some (some part') → f part = f part') :
    slots.map (Option.map f) = slots'.map (Option.map f) := by
  -- Slot by slot: both are missing, both are empty, or both are filled.
  refine List.ext_getElem? fun index => ?_
  have here := congrArg (·[index]?) filled
  simp only [List.getElem?_map] at here ⊢
  cases slot : slots[index]? with
  | none =>
    cases slot' : slots'[index]? with
    | none => rfl
    | some => simp [slot, slot'] at here
  | some content =>
    cases slot' : slots'[index]? with
    | none => simp [slot, slot'] at here
    | some content' =>
      cases content with
      | none =>
        cases content' with
        | none => rfl
        | some => simp [slot, slot'] at here
      | some part =>
        cases content' with
        | none => simp [slot, slot'] at here
        | some part' => exact congrArg (some ∘ some) (each index part part' slot slot')

/-- Down to level 0 there is only the root, so agreement is that of the roots. -/
theorem agreeTo_zero_iff {descriptor other : Descriptor} :
    AgreeTo 0 descriptor other ↔ descriptor.shell = other.shell := by
  constructor
  · intro agree
    exact Option.some.inj (agree [] (Nat.le_refl 0))
  · intro same position atRoot
    obtain rfl := List.eq_nil_of_length_eq_zero (Nat.le_zero.mp atRoot)
    exact congrArg some same

/-- What is found below the root is found in one of its slots. -/
theorem map_at?_cons {α : Type} (f : Descriptor → α) (descriptor : Descriptor) (index : Nat)
    (rest : List Nat) :
    (descriptor.at? (index :: rest)).map f
      = (descriptor.slots.map
          (Option.map fun part => (part.at? rest).map f))[index]?.join.join := by
  rw [at?, List.getElem?_map]
  rcases descriptor.slots[index]? with _ | _ | part <;> rfl

/-- Descriptors agree down to one more level if their roots hold the same and the nodes in their
slots agree. -/
theorem agreeTo_succ_iff {level : Nat} {descriptor other : Descriptor} :
    AgreeTo (level + 1) descriptor other ↔
      descriptor.shell = other.shell ∧
        ∀ (index : Nat) (part part' : Descriptor), descriptor.slots[index]? = some (some part) →
          other.slots[index]? = some (some part') → AgreeTo level part part' := by
  constructor
  · intro agree
    refine ⟨Option.some.inj (agree [] (Nat.zero_le _)), ?_⟩
    intro index part part' slot slot' position within
    have below := agree (index :: position) (Nat.succ_le_succ within)
    rw [at?, at?, slot, slot'] at below
    exact below
  · intro both position within
    obtain ⟨same, below⟩ := both
    cases position with
    | nil => exact congrArg some same
    | cons index rest =>
      have restWithin : rest.length ≤ level := Nat.le_of_succ_le_succ within
      rw [map_at?_cons, map_at?_cons, map_slots_eq (slots_of_shell_eq same)]
      intro index part part' slot slot'
      exact below index part part' slot slot' rest restWithin

/-- Descriptors that agree down to a level are the same once everything below it is cut off. -/
theorem cut_eq_of_agreeTo {level : Nat} {descriptor other : Descriptor}
    (agree : AgreeTo level descriptor other) :
    descriptor.cut (level + 1) = other.cut (level + 1) := by
  -- Both are cut one level further down, in the nodes of their slots, which agree on a level less.
  induction level generalizing descriptor other with
  | zero => exact agreeTo_zero_iff.mp agree
  | succ level ih =>
    obtain ⟨same, below⟩ := agreeTo_succ_iff.mp agree
    refine eq_of_shell_eq ?_ ?_
    · rw [cut, shell_mapSlots, shell_mapSlots, same]
    · rw [cut, slots_mapSlots, slots_mapSlots]
      refine map_slots_eq (slots_of_shell_eq same) fun index part part' slot slot' => ?_
      exact ih (below index part part' slot slot')

/-! ### What a cut leaves -/

/-- Down to the level of the cut the nodes are those that were there, each cut by so much less. -/
theorem at?_cut (levels : Nat) (descriptor : Descriptor) (position : List Nat) :
    (descriptor.cut levels).at? position
      = if position.length ≤ levels then
          (descriptor.at? position).map (cut (levels - position.length))
        else none := by
  -- Each step of the position uses up one level of the cut, and beyond the last one nothing is left
  -- to step to.
  induction position generalizing levels descriptor with
  | nil => rfl
  | cons index rest ih =>
    cases levels with
    | zero => rfl
    | succ levels =>
      rw [at?, at?, cut, slots_mapSlots, List.getElem?_map, List.length_cons,
        Nat.add_sub_add_right]
      rcases descriptor.slots[index]? with _ | _ | part
      · simp
      · simp
      · simpa using ih levels part

/-- A cut agrees with what it is made from, down to the level before it. -/
theorem agreeTo_cut (level : Nat) (descriptor : Descriptor) :
    AgreeTo level descriptor (descriptor.cut (level + 1)) := by
  intro position within
  have left : level + 1 - position.length = (level - position.length) + 1 := by omega
  rw [at?_cut, if_pos (by omega), left, Option.map_map]
  refine (congrArg (Option.map · _) (funext fun part => ?_)).symm
  exact shell_mapSlots _ part

/-- The conversion has the same outcome when every node on level 257 is replaced by one that has
nothing below it. So descriptors that agree down to level 256, and therefore have nodes at the same
positions on level 257, have the same outcome, whatever those nodes are and whatever is below
them. -/
theorem convert_ignores_deep_levels (descriptor : Descriptor) :
    (descriptor.cut 257).convert = descriptor.convert ∧
      AgreeTo 256 descriptor (descriptor.cut 257) ∧
      (∀ position : List Nat, position.length = 257 →
        (descriptor.cut 257).at? position = (descriptor.at? position).map fun _ => any) ∧
      ∀ other, AgreeTo 256 descriptor other → other.convert = descriptor.convert := by
  have sameOutcome : ∀ descriptor : Descriptor,
      (descriptor.cut 257).convert = descriptor.convert := by
    intro descriptor
    exact convertAt_cut (by decide) descriptor
  refine ⟨sameOutcome descriptor, agreeTo_cut 256 descriptor, ?_, ?_⟩
  · intro position atLevel
    rw [at?_cut, if_pos (Nat.le_of_eq atLevel), atLevel]
    rfl
  · intro other agree
    have sameCut : descriptor.cut 257 = other.cut 257 := cut_eq_of_agreeTo agree
    calc other.convert
        = (other.cut 257).convert := (sameOutcome other).symm
      _ = (descriptor.cut 257).convert := by rw [sameCut]
      _ = descriptor.convert := sameOutcome descriptor

/-- A sequence of sequences, so many of them, around a descriptor. -/
def nested : Nat → Descriptor → Descriptor
  | 0, inner => inner
  | levels + 1, inner => seq (some (nested levels inner))

/-- Sequences around two descriptors agree on every level that is a sequence in both. -/
theorem agreeTo_nested (level : Nat) (inner inner' : Descriptor) :
    AgreeTo level (nested (level + 1) inner) (nested (level + 1) inner') := by
  induction level with
  | zero => exact agreeTo_zero_iff.mpr rfl
  | succ level ih =>
    refine agreeTo_succ_iff.mpr ⟨rfl, ?_⟩
    intro index part part' slot slot'
    cases index with
    | zero =>
      cases slot
      cases slot'
      exact ih
    | succ => cases slot

/-- Under 257 sequences, a leaf and a tuple without slots have the same outcome, and a cut makes
both the same leaf. -/
theorem convert_ignores_deep_levels_nested :
    AgreeTo 256 (nested 257 any) (nested 257 (tuple 0 none)) ∧
      (nested 257 (tuple 0 none)).convert = (nested 257 any).convert ∧
      (List.replicate 257 0).length = 257 ∧
      ((nested 257 any).cut 257).at? (List.replicate 257 0)
        = ((nested 257 any).at? (List.replicate 257 0)).map fun _ => any := by
  have agree : AgreeTo 256 (nested 257 any) (nested 257 (tuple 0 none)) :=
    agreeTo_nested 256 any (tuple 0 none)
  obtain ⟨-, -, atLevel, sameOutcome⟩ := convert_ignores_deep_levels (nested 257 any)
  have length : (List.replicate 257 0).length = 257 := List.length_replicate
  exact ⟨agree, sameOutcome _ agree, length, atLevel _ length⟩

end MachineTypes.Descriptor
