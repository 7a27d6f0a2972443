import MachineTypes.Proofs.Subtype.EventStream
import MachineTypes.Proofs.TraceLog.Transcript
import MachineTypes.TraceLog.Render

/-!
# `MachineTypes.Proofs.TraceLog.Rendering`: a check adds its rendering to the log

A check that runs with a log writes a line, lets its children write theirs, and goes back to its
own line with the verdict. `check_renders` says what that comes to: the lines that `render` writes
from top to bottom are added at the end, and nothing else of the log changes. This holds for every
log, whatever is open in it, so checks can be run one after the other and inside other
comparisons.

`Writes` is the effect of a list of calls in this form. Calls that write can be put one after the
other (`Writes.append`) and between an `enter` and an `exit` (`Writes.bracket`): the `exit` finds
the line of its `enter` by the number of lines before it, which the lines in between do not
change. `writes_events` puts these together along the tree of comparisons. The rendering goes along
the same tree (`render_eq`).

The lines of a rendering are texts that are written out in `renderComparison`: two spaces for each
comparison around it, the two types, and `yes` or `no` as `isSubtype` says. The log gets to the same
texts in two steps, a line without a verdict and a verdict that is appended to it later, by the line
formers of its palette (`comparisonLine_eq`, `verdict_eq`, `reasonLine_eq`).
-/

set_option autoImplicit false

namespace MachineTypes.TraceLog

open Ty (childPairs untilRejected eventsOfPairs events comparisonEvents)

/-! ### The rendering by pairs of children -/

namespace Config

variable (config : Config)

/-- The lines of two lists are those of the pairs that are compared, and these end with the first
pair that is rejected. -/
theorem renderAll_eq (depth : Nat) (subs sups : List Ty) :
    config.renderAll depth subs sups
      = config.renderPairs depth (untilRejected (subs.zip sups)) :=
  Ty.eq_flatMap_untilRejected_zip (fun _ => rfl) (fun subs => by cases subs <;> rfl)
    (fun _ _ _ _ => rfl) subs sups

/-- Fields are compared by their types alone, since their names have been compared at the node. -/
theorem renderFields_eq_renderAll (depth : Nat) (subs sups : List (Field Ty)) :
    config.renderFields depth subs sups
      = config.renderAll depth (subs.map (·.type)) (sups.map (·.type)) := by
  induction subs generalizing sups with
  | nil => rfl
  | cons sub subs ih =>
    cases sups with
    | nil => rfl
    | cons sup sups => rw [renderFields, ih, List.map_cons, List.map_cons, renderAll]

/-- Below nodes that do not fit nothing is written. -/
theorem renderComparison_of_mismatch {sub sup : Ty} {why : Mismatch}
    (misfit : sub.mismatch? sup = some why) (depth : Nat) (children children' : List String) :
    config.renderComparison depth sub sup children
      = config.renderComparison depth sub sup children' := by
  rw [renderComparison, renderComparison, misfit]
  cases config.verbosity <;> rfl

/-- The lines of every check: those of the child pairs up to the first that is rejected, if the
nodes fit, after the line of the comparison. -/
theorem render_eq (depth : Nat) (sub sup : Ty) :
    config.render depth sub sup
      = config.renderComparison depth sub sup
          (config.renderPairs (depth + 1) (untilRejected (childPairs sub sup))) := by
  -- Nothing below `any` is compared, so this supertype goes before the comparison of kinds.
  by_cases top : sup = .any
  · subst top
    rw [Ty.childPairs_any]
    cases sub <;> rfl
  cases sub <;> cases sup
  case map.map domain codomain domain' codomain' =>
    show _ = config.renderComparison _ _ _
      ((untilRejected [(domain, domain'), (codomain, codomain')]).flatMap _)
    rw [render, Ty.flatMap_untilRejected_cons, Ty.flatMap_untilRejected_singleton]
  case seq.seq inner inner' =>
    show _ = config.renderComparison _ _ _ ((untilRejected [(inner, inner')]).flatMap _)
    rw [render, Ty.flatMap_untilRejected_singleton]
  case tuple.tuple fields fields' =>
    rw [render, renderAll_eq]
    rfl
  case namedTuple.namedTuple fields fields' =>
    rw [render, renderFields_eq_renderAll, renderAll_eq]
    rfl
  -- All other pairs of nodes are either leaves or do not fit.
  all_goals
    first
    | contradiction
    | rfl
    | exact config.renderComparison_of_mismatch rfl depth [] _

end Config

/-! ### Calls that only add lines -/

/-- Without lines to add, the log stays as it is. -/
theorem appendLines_nil (log : TraceLog) : log.appendLines [] = log := by
  obtain ⟨config, lines, opened⟩ := log
  simp [appendLines]

/-- Lines that are added in two steps stand one after the other. -/
theorem appendLines_appendLines (log : TraceLog) (lines more : List String) :
    (log.appendLines lines).appendLines more = log.appendLines (lines ++ more) := by
  simp [appendLines, Array.append_assoc]

/-- After an operation that succeeds comes the next one. -/
theorem run_bind_of_ok {α β : Type} {log log' : TraceLog} {action : Action α} {value : α}
    (first : log.run action = (.ok value, log')) (next : α → Action β) :
    log.run (action >>= next) = log'.run (next value) := by
  unfold run at *
  rw [ExceptT.run_bind, StateT.run_bind, Id.run_bind, first]

/-- Calls are made one after the other. -/
theorem run_forM_append {log log' : TraceLog} {calls : List CheckEvent}
    (first : log.run (calls.forM tracer) = (.ok (), log')) (later : List CheckEvent) :
    log.run ((calls ++ later).forM tracer) = log'.run (later.forM tracer) := by
  have split : (calls ++ later).forM tracer
      = (calls.forM tracer >>= fun _ => later.forM tracer : Action Unit) := by
    simp [List.forM_eq_forM, List.forM_append]
  rw [split, run_bind_of_ok first]

/-- A list of one call is that call. -/
theorem run_forM_singleton {log log' : TraceLog} {event : CheckEvent}
    (called : log.call event = (.ok (), log')) :
    log.run ([event].forM tracer) = (.ok (), log') :=
  run_bind_of_ok called fun _ => pure ()

/-- In every log with these settings in which so many comparisons are open, the calls succeed and
do nothing but add the given lines. -/
def Writes (config : Config) (depth : Nat) (calls : List CheckEvent) (lines : List String) :
    Prop :=
  ∀ log : TraceLog, log.config = config → log.depth = depth →
    log.run (calls.forM tracer) = (.ok (), log.appendLines lines)

namespace Writes

variable {config : Config} {depth : Nat} {calls calls' : List CheckEvent}
  {lines lines' : List String}

/-- Without calls nothing is written. -/
theorem nil : Writes config depth [] [] := by
  intro log _ _
  rw [appendLines_nil]
  rfl

/-- What is written by some calls and then by others stands in that order. The first ones leave the
settings and the open comparisons as they were, so the second ones can be made in any such log as
well. -/
theorem append (first : Writes config depth calls lines)
    (second : Writes config depth calls' lines') :
    Writes config depth (calls ++ calls') (lines ++ lines') := by
  intro log sameConfig sameDepth
  rw [run_forM_append (first log sameConfig sameDepth),
    second (log.appendLines lines) sameConfig sameDepth, appendLines_appendLines]

/-- A mismatch adds its reason if the log is verbose. -/
theorem mismatch (config : Config) (depth : Nat) (why : Mismatch) :
    Writes config depth [.mismatch why]
      (match config.verbosity with
        | .quiet => []
        | .verbose => [config.palette.reasonLine depth why]) := by
  rintro log rfl rfl
  show (_, log.explain why) = _
  rw [explain]
  -- Only a verbose log writes the reason, at the depth of the comparison that is open.
  cases log.config.verbosity with
  | quiet => rw [appendLines_nil]
  | verbose => simp [appendLines]

/-- The line of a comparison is found again after the lines inside it. -/
theorem modify_push_append (before : Array String) (line : String) (inside : List String)
    (change : String → String) :
    ((before.push line) ++ inside.toArray).modify before.size change
      = before ++ (change line :: inside).toArray := by
  have last : (before.toList ++ [line]).modify before.size change
      = before.toList ++ [change line] :=
    List.modifyTailIdx_add _ 0 before.toList [line]
  have lower : before.size < (before.toList ++ [line]).length := by simp
  refine Array.toList_inj.mp ?_
  rw [Array.toList_modify, Array.toList_append, Array.toList_push, modify_append_of_lt lower, last]
  simp

/-- What is written between an `enter` and its `exit` comes after the line of the comparison, which
has the verdict of the `exit`. -/
theorem bracket (sub sup : Ty) (accepted : Bool)
    (inside : Writes config (depth + 1) calls lines) :
    Writes config depth (.enter sub sup :: calls ++ [.exit accepted])
      ((config.palette.comparisonLine depth sub sup ++ config.palette.verdict accepted)
        :: lines) := by
  rintro log rfl rfl
  have entered : log.run ([.enter sub sup].forM tracer) = (.ok (), log.enter sub sup) := rfl
  have written : log.run ((.enter sub sup :: calls).forM tracer)
      = (.ok (), (log.enter sub sup).appendLines lines) :=
    (run_forM_append entered calls).trans (inside (log.enter sub sup) rfl rfl)
  -- The innermost comparison is still the one that was entered, since the calls inside left the
  -- saved line numbers as they were.
  have innermost : ((log.enter sub sup).appendLines lines).opened = log.lines.size :: log.opened :=
    rfl
  have inRange : log.lines.size < ((log.enter sub sup).appendLines lines).lines.size := by
    simp [enter, appendLines]
  rw [run_forM_append written, run_forM_singleton (call_exit_of_cons innermost inRange accepted)]
  show (_, TraceLog.mk log.config ((log.lines.push _ ++ lines.toArray).modify log.lines.size _)
    log.opened) = _
  rw [modify_push_append]
  rfl

/-- A comparison writes its own line with its verdict, and inside it either its reason or what the
comparisons of its children write. -/
theorem comparison {sub sup : Ty} (children : Writes config (depth + 1) calls lines) :
    Writes config depth (comparisonEvents sub sup calls)
      (config.renderComparison depth sub sup lines) := by
  rw [Config.renderComparison, ← Palette.comparisonLine_eq, ← Palette.verdict_eq]
  refine bracket sub sup (sub.isSubtype sup) ?_
  cases sub.mismatch? sup with
  | none => exact children
  | some why =>
    have reason := Writes.mismatch config (depth + 1) why
    rw [Palette.reasonLine_eq] at reason
    cases verbosity : config.verbosity with
    | quiet => simpa only [verbosity] using reason
    | verbose => simpa only [verbosity] using reason

end Writes

/-- The events of a check write its rendering. -/
theorem writes_events (config : Config) (depth : Nat) (sub sup : Ty) :
    Writes config depth (events sub sup) (config.render depth sub sup) := by
  induction sub using Ty.ind_children generalizing sup depth with
  | node sub ih =>
    -- The hypothesis is about one child. The pairs that are compared write one after the other, so
    -- it goes over to any list of them.
    have pairs : ∀ pairs : List (Ty × Ty), (∀ pair ∈ pairs, pair.1 ∈ sub.children) →
        Writes config (depth + 1) (eventsOfPairs pairs) (config.renderPairs (depth + 1) pairs) := by
      intro pairs below
      induction pairs with
      | nil => exact .nil
      | cons pair rest ihRest =>
        obtain ⟨head, tail⟩ := List.forall_mem_cons.mp below
        exact (ih pair.1 head (depth + 1) pair.2).append (ihRest tail)
    rw [Ty.events_eq, config.render_eq]
    refine .comparison (pairs _ ?_)
    intro pair mem
    exact Ty.mem_children_of_mem_childPairs (Ty.mem_of_mem_untilRejected mem)

/-- A check returns its verdict and adds its rendering. -/
theorem run_checkSubtype (log : TraceLog) (sub sup : Ty) :
    log.run (Ty.checkSubtype tracer sub sup)
      = (.ok (sub.isSubtype sup), log.appendLines (log.config.render log.depth sub sup)) := by
  have written := writes_events log.config log.depth sub sup log rfl rfl
  rw [Ty.checkSubtype_eq, Tracer.replay, run_bind_of_ok written]
  rfl

/-- Checks made one after the other return their verdicts and add their renderings. -/
theorem run_mapM_checkSubtype (log : TraceLog) (pairs : List (Ty × Ty)) :
    log.run (pairs.mapM fun pair => Ty.checkSubtype tracer pair.1 pair.2)
      = (.ok (pairs.map fun pair => pair.1.isSubtype pair.2),
          log.appendLines (log.config.renderPairs log.depth pairs)) := by
  -- For every log: the checks after the first one go on with the log that it left.
  induction pairs generalizing log with
  | nil =>
    show _ = (_, log.appendLines [])
    rw [appendLines_nil]
    rfl
  | cons pair rest ih =>
    have first := run_checkSubtype log pair.1 pair.2
    rw [List.mapM_cons, run_bind_of_ok first, run_bind_of_ok (ih _)]
    show (_, TraceLog.appendLines (log.appendLines _) _) = _
    rw [appendLines_appendLines]
    rfl

/-- A check with a log never fails, whatever is open in the log. It returns the verdict of
`isSubtype`, leaves the open comparisons and all earlier lines as they are, and adds the rendering
of the two types at the number of comparisons open. The rendering is the line of the comparison with
its verdict, and below it either the reason or the renderings of the child pairs compared. So the
renderings of successive checks stand one after the other. -/
theorem check_renders (log : TraceLog) :
    (∀ sub sup, log.check sub sup
      = .ok (sub.isSubtype sup, log.appendLines (log.config.render log.depth sub sup))) ∧
    (∀ depth sub sup, log.config.render depth sub sup
      = log.config.renderComparison depth sub sup
          (log.config.renderPairs (depth + 1) (untilRejected (childPairs sub sup)))) ∧
    (∀ pairs : List (Ty × Ty),
      log.run (pairs.mapM fun pair => Ty.checkSubtype tracer pair.1 pair.2)
        = (.ok (pairs.map fun pair => pair.1.isSubtype pair.2),
            log.appendLines (log.config.renderPairs log.depth pairs))) := by
  refine ⟨?_, log.config.render_eq, run_mapM_checkSubtype log⟩
  intro sub sup
  rw [check, run_checkSubtype]
  rfl

/-- A check that is rejected two levels down, in a log that has a line already and in which another
comparison is open. The check goes on until the first pair that does not fit, so the last fields are
not compared; every comparison around that pair has the verdict `no`, and only the pair itself has a
reason. The lines from before stay as they are. Two more checks would be written one below the
other. -/
theorem check_renders_nested :
    let log := ((new ⟨.verbose, ⟨"<", "+", "-", ">"⟩⟩).explain (.arity 1 2)).enter .any .any
    let sub := Ty.map (.seq .null) (.tuple [.int, .bool, .int])
    let sup := Ty.map (.seq .event) (.tuple [.int, .int, .int])
    (∃ after, log.check sub sup = .ok (false, after) ∧ after.opened = [1] ∧
      after.lines.toList =
        ["-arity 1 differs from 2>",
          "<any> <: <any>",
          "  <map[seq[null], (int, bool, int)]> <: <map[seq[event], (int, int, int)]>  -no>",
          "    <seq[null]> <: <seq[event]>  +yes>",
          "      <null> <: <event>  +yes>",
          "    <(int, bool, int)> <: <(int, int, int)>  -no>",
          "      <int> <: <int>  +yes>",
          "      <bool> <: <int>  -no>",
          "        -bool is not a subtype of int>"]) ∧
      log.run ([(Ty.bool, Ty.int), (Ty.int, Ty.any)].mapM fun pair =>
          Ty.checkSubtype tracer pair.1 pair.2)
        = (.ok [false, true], log.appendLines
            ["  <bool> <: <int>  -no>",
              "    -bool is not a subtype of int>",
              "  <int> <: <any>  +yes>"]) := by
  intro log sub sup
  have earlier : log.lines.toList = ["-arity 1 differs from 2>", "<any> <: <any>"] := by
    decide +revert
  have rejected : sub.isSubtype sup = false := rfl
  have rendering : log.config.render log.depth sub sup =
      ["  <map[seq[null], (int, bool, int)]> <: <map[seq[event], (int, int, int)]>  -no>",
        "    <seq[null]> <: <seq[event]>  +yes>",
        "      <null> <: <event>  +yes>",
        "    <(int, bool, int)> <: <(int, int, int)>  -no>",
        "      <int> <: <int>  +yes>",
        "      <bool> <: <int>  -no>",
        "        -bool is not a subtype of int>"] := by
    decide +revert
  have renderings : log.config.renderPairs log.depth [(Ty.bool, Ty.int), (Ty.int, Ty.any)] =
      ["  <bool> <: <int>  -no>",
        "    -bool is not a subtype of int>",
        "  <int> <: <any>  +yes>"] := by
    decide +revert
  obtain ⟨checked, -, inOrder⟩ := check_renders log
  refine ⟨⟨_, rejected ▸ checked sub sup, rfl, ?_⟩, ?_⟩
  · show (log.lines ++ _).toList = _
    rw [Array.toList_append, earlier, rendering]
    rfl
  · rw [inOrder, renderings]
    rfl

end MachineTypes.TraceLog
