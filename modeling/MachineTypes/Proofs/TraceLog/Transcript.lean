import MachineTypes.TraceLog.Calls

/-!
# `MachineTypes.Proofs.TraceLog.Transcript`: a log matches its calls as brackets

A log extends earlier lines through saved line numbers, while other lines are written in between.
`lines_after` is the invariant that follows both: the lines after some calls are the lines before,
with what the calls append to those of open comparisons (`settle`), and then the transcript of the
calls. A new log has no lines before, so it holds just the transcript.

The transcript looks for the verdict of a comparison by counting brackets.
`closingVerdict?_eq_some_iff` says that this finds the `exit` that matches it in the grammar.

The main result is `reflects_after_new`. It has no hypothesis on the calls: they need not be
balanced, and calls that are faults can stand between the others. The invariant for the saved line
numbers is `InRange`, which every call keeps (`InRange.call`). With it a call is a fault in one case
only, an `exit` with nothing open, and then the log is unchanged.

Lines are described by the calls that wrote them, and their texts are written out in `Reflects`. The
line formers of the palette do not occur there.
-/

set_option autoImplicit false

namespace MachineTypes

/-! ### Brackets -/

namespace CheckEvent

/-- Calls are counted from the first to the last. -/
theorem depthAfter_cons (depth : Nat) (event : CheckEvent) (rest : List CheckEvent) :
    depthAfter depth (event :: rest) = depthAfter (nest depth event) rest :=
  rfl

/-- A balanced part is skipped in the search for the closing `exit`. -/
theorem Balanced.closingVerdict?_append {inside : List CheckEvent} (balanced : Balanced inside)
    (inner : Nat) (rest : List CheckEvent) :
    closingVerdict? inner (inside ++ rest) = closingVerdict? inner rest := by
  -- For every number of open comparisons: inside a pair there is one more, and after it as many as
  -- before.
  induction balanced generalizing inner rest with
  | nil => rfl
  | mismatch why _ ih => exact ih inner rest
  | pair sub sup accepted _ _ ihInside ihRest =>
    rw [List.append_assoc, List.cons_append, closingVerdict?, ihInside, List.cons_append,
      closingVerdict?]
    exact ihRest inner rest

/-- A closing `exit` that is found comes after a balanced part, and closes either the innermost
comparison or one around it. -/
theorem exists_balanced_of_closingVerdict? {later : List CheckEvent} {inner : Nat} {verdict : Bool}
    (found : closingVerdict? inner later = some verdict) :
    ∃ inside accepted rest, later = inside ++ .exit accepted :: rest ∧ Balanced inside ∧
      closingVerdict? inner (.exit accepted :: rest) = some verdict := by
  -- The part after the `exit` of an `enter` is shorter, but it is not the tail of the calls.
  induction count : later.length using Nat.strongRecOn generalizing later inner with
  | ind count ih =>
    subst count
    cases later with
    | nil => cases found
    | cons event later =>
      cases event with
      | mismatch why =>
        rw [closingVerdict?] at found
        obtain ⟨inside, accepted, rest, rfl, balanced, closed⟩ := ih _ (by simp) found rfl
        exact ⟨.mismatch why :: inside, accepted, rest, rfl, .mismatch why balanced, closed⟩
      | exit accepted => exact ⟨[], accepted, later, rfl, .nil, found⟩
      | enter sub sup =>
        rw [closingVerdict?] at found
        -- First the `exit` of this `enter`, then the one that is looked for.
        obtain ⟨inside, accepted, after, rfl, balanced, closed⟩ := ih _ (by simp) found rfl
        rw [closingVerdict?] at closed
        obtain ⟨inside', accepted', rest, rfl, balanced', closed'⟩ :=
          ih _ (by simp; omega) closed rfl
        exact ⟨.enter sub sup :: inside ++ .exit accepted :: inside', accepted', rest, by simp,
          .pair sub sup accepted balanced balanced', closed'⟩

/-- Counting brackets finds the `exit` that matches. -/
theorem closingVerdict?_eq_some_iff {later : List CheckEvent} {accepted : Bool} :
    closingVerdict? 0 later = some accepted ↔ ClosedBy later accepted := by
  constructor
  · intro found
    obtain ⟨inside, accepted', rest, rfl, balanced, closed⟩ :=
      exists_balanced_of_closingVerdict? found
    cases closed
    exact ⟨inside, rest, rfl, balanced⟩
  · rintro ⟨inside, rest, rfl, balanced⟩
    rw [balanced.closingVerdict?_append, closingVerdict?]

end CheckEvent

namespace TraceLog

open CheckEvent (depthAfter nest closingVerdict? ClosedBy)

/-! ### One call -/

variable (log : TraceLog)

/-- An `enter` never fails, and writes its line. -/
@[simp] theorem call_enter (sub sup : Ty) :
    log.call (.enter sub sup) = (.ok (), log.enter sub sup) :=
  rfl

/-- A mismatch never fails, and writes its line if the log is verbose. -/
@[simp] theorem call_mismatch (why : Mismatch) :
    log.call (.mismatch why) = (.ok (), log.explain why) :=
  rfl

variable {log}

/-- An `exit` with nothing open is a fault and leaves the log as it is. -/
theorem call_exit_of_nil (empty : log.opened = []) (accepted : Bool) :
    log.call (.exit accepted) = (.error .unmatchedExit, log) := by
  obtain ⟨config, lines, opened⟩ := log
  cases empty
  rfl

/-- A line that is there can be extended. -/
theorem run_extendLine (log : TraceLog) {line : Nat} (inRange : line < log.lines.size)
    (text : String) :
    log.run (extendLine line text)
      = (.ok (), { log with lines := log.lines.modify line (· ++ text) }) := by
  show ((if line < log.lines.size then set { log with lines := log.lines.modify line (· ++ text) }
    else throw (.lineOutOfRange line log.lines.size) : Action Unit)).run.run log = _
  rw [if_pos inRange]
  rfl

/-- An `exit` extends the line of the innermost comparison, if it has one. -/
theorem call_exit_of_cons {line : Nat} {outer : List Nat} (innermost : log.opened = line :: outer)
    (inRange : line < log.lines.size) (accepted : Bool) :
    log.call (.exit accepted)
      = (.ok (), { log with
          lines := log.lines.modify line (· ++ log.config.palette.verdict accepted)
          opened := outer }) := by
  obtain ⟨config, lines, opened⟩ := log
  cases innermost
  -- The line number is taken away first, so the line is extended in a log without it.
  exact run_extendLine ⟨config, lines, outer⟩ inRange _

/-- A new log has no line numbers that could be out of range. -/
theorem InRange.new (config : Config) : (new config).InRange :=
  List.forall_mem_nil _

/-- The innermost comparison has a line, and so have those around it. -/
theorem InRange.of_cons (inRange : log.InRange) {line : Nat} {outer : List Nat}
    (opened : log.opened = line :: outer) :
    line < log.lines.size ∧ ∀ other ∈ outer, other < log.lines.size := by
  rw [InRange, opened] at inRange
  exact List.forall_mem_cons.mp inRange

/-- The number saved for a new comparison is that of the line just written, and older lines stay
where they are. -/
theorem InRange.enter (inRange : log.InRange) (sub sup : Ty) : (log.enter sub sup).InRange := by
  have grown : (log.enter sub sup).lines.size = log.lines.size + 1 := Array.size_push _
  refine List.forall_mem_cons.mpr ⟨by omega, ?_⟩
  intro line mem
  have old := inRange line mem
  omega

/-- A reason is a line at the end, so no older line moves. -/
theorem InRange.explain (inRange : log.InRange) (why : Mismatch) : (log.explain why).InRange := by
  unfold TraceLog.explain
  split
  · exact inRange
  · intro line mem
    exact Nat.lt_trans (inRange line mem) (by simp)

/-- A reason neither opens nor closes a comparison. -/
@[simp] theorem explain_opened (why : Mismatch) : (log.explain why).opened = log.opened := by
  unfold explain
  split <;> rfl

/-- A reason leaves the settings alone. -/
@[simp] theorem explain_config (why : Mismatch) : (log.explain why).config = log.config := by
  unfold explain
  split <;> rfl

/-- A call keeps the saved line numbers in range. It leaves the settings alone and opens and closes
as its bracket says. -/
theorem InRange.call (inRange : log.InRange) (event : CheckEvent) :
    (log.call event).2.InRange ∧ (log.call event).2.config = log.config ∧
      (log.call event).2.depth = nest log.depth event := by
  cases event with
  | enter sub sup => exact ⟨inRange.enter sub sup, rfl, rfl⟩
  | mismatch why => exact ⟨inRange.explain why, explain_config why, by simp [depth, nest]⟩
  | exit accepted =>
    cases opened : log.opened with
    | nil =>
      rw [call_exit_of_nil opened]
      exact ⟨inRange, rfl, by simp [depth, nest, opened]⟩
    | cons line outer =>
      obtain ⟨lower, others⟩ := inRange.of_cons opened
      rw [call_exit_of_cons opened lower]
      refine ⟨?_, rfl, by simp [depth, nest, opened]⟩
      intro other mem
      rw [Array.size_modify]
      exact others other mem

/-- What a call keeps, any calls keep. -/
theorem InRange.after (inRange : log.InRange) (calls : List CheckEvent) :
    (log.after calls).InRange ∧ (log.after calls).config = log.config ∧
      (log.after calls).depth = depthAfter log.depth calls := by
  induction calls generalizing log with
  | nil => exact ⟨inRange, rfl, rfl⟩
  | cons event rest ih =>
    obtain ⟨inRange', config, depth⟩ := inRange.call event
    obtain ⟨inRange'', config', depth'⟩ := ih inRange'
    refine ⟨inRange'', config'.trans config, depth'.trans ?_⟩
    rw [depth, CheckEvent.depthAfter_cons]

/-- A call is a fault exactly if it is an `exit` with nothing open. -/
theorem InRange.call_eq_error_iff (inRange : log.InRange) {event : CheckEvent} {fault : Fault} :
    (log.call event).1 = .error fault ↔
      fault = .unmatchedExit ∧ (∃ accepted, event = .exit accepted) ∧ log.depth = 0 := by
  cases event with
  | enter sub sup => simp
  | mismatch why => simp
  | exit accepted =>
    cases opened : log.opened with
    | nil => simp [call_exit_of_nil opened, depth, opened, eq_comm]
    | cons line outer =>
      simp [call_exit_of_cons opened (inRange.of_cons opened).1, depth, opened]

/-- A call that is a fault leaves the log as it is. -/
theorem InRange.call_of_error (inRange : log.InRange) {event : CheckEvent} {fault : Fault}
    (failed : (log.call event).1 = .error fault) : (log.call event).2 = log := by
  obtain ⟨-, ⟨accepted, rfl⟩, closed⟩ := inRange.call_eq_error_iff.mp failed
  rw [call_exit_of_nil (List.length_eq_zero_iff.mp closed)]

/-! ### The endings of open comparisons -/

/-- The lines when each of the given ones, the innermost comparison first, has its ending. -/
def settle (ending : Nat → String) : List Nat → List String → List String
  | [], lines => lines
  | line :: outer, lines =>
    settle (fun inner => ending (inner + 1)) outer (lines.modify line (· ++ ending 0))

/-- A line is changed where it stands, and lines that are added behind do not matter. -/
theorem modify_append_of_lt {α : Type} {lines more : List α} {line : Nat}
    (lower : line < lines.length) (change : α → α) :
    (lines ++ more).modify line change = lines.modify line change ++ more := by
  induction lines generalizing line with
  | nil => cases lower
  | cons head tail ih =>
    cases line with
    | zero => rfl
    | succ line =>
      have lower' : line < tail.length := Nat.lt_of_succ_lt_succ lower
      simp [ih lower']

/-- Lines after all the saved ones keep their text. -/
theorem settle_append {opened : List Nat} {lines : List String}
    (inRange : ∀ line ∈ opened, line < lines.length) (ending : Nat → String)
    (more : List String) :
    settle ending opened (lines ++ more) = settle ending opened lines ++ more := by
  -- For every list of lines, because the endings are appended from the innermost comparison
  -- outwards and each changes a line.
  induction opened generalizing lines ending with
  | nil => rfl
  | cons line outer ih =>
    obtain ⟨lower, rest⟩ := List.forall_mem_cons.mp inRange
    rw [settle, settle, modify_append_of_lt lower]
    exact ih (by simpa using rest) _

/-- A comparison that has just begun has the last line. -/
theorem settle_push {opened : List Nat} (lines : List String)
    (inRange : ∀ line ∈ opened, line < lines.length) (ending : Nat → String) (text : String) :
    settle ending (lines.length :: opened) (lines ++ [text])
      = settle (fun inner => ending (inner + 1)) opened lines ++ [text ++ ending 0] := by
  have last : (lines ++ [text]).modify lines.length (· ++ ending 0)
      = lines ++ [text ++ ending 0] :=
    List.modifyTailIdx_add _ 0 lines [text]
  rw [settle, last, settle_append inRange]

/-- Without further calls there are no endings. -/
theorem settle_nil (palette : Palette) (opened : List Nat) (lines : List String) :
    settle (palette.ending []) opened lines = lines := by
  induction opened with
  | nil => rfl
  | cons line outer ih =>
    have same : lines.modify line (· ++ palette.ending [] 0) = lines := by
      simp only [Palette.ending, closingVerdict?, String.append_empty]
      exact List.modify_id line lines
    rw [settle, same]
    exact ih

/-- The lines after calls are those before, with what the calls append to them, and then those
that the calls write. -/
theorem lines_after (inRange : log.InRange) (calls : List CheckEvent) :
    (log.after calls).lines.toList
      = settle (log.config.palette.ending calls) log.opened log.lines.toList ++
          log.config.transcript log.depth calls := by
  -- For every log. The first call changes the log, and what it does to the lines is the first step
  -- of `settle` or the first line of the transcript.
  induction calls generalizing log with
  | nil =>
    rw [settle_nil, Config.transcript, List.append_nil]
    rfl
  | cons event rest ih =>
    obtain ⟨inRange', config, depth⟩ := inRange.call event
    refine (ih inRange').trans ?_
    rw [config, depth]
    cases event with
    | enter sub sup =>
      -- The comparisons that are open already now have one more inside them.
      have pushed := settle_push log.lines.toList inRange
        (log.config.palette.ending rest) (log.config.palette.comparisonLine log.depth sub sup)
      rw [call_enter, enter, Array.toList_push]
      show settle _ (log.lines.toList.length :: log.opened) _ ++ _ = _
      rw [pushed, List.append_assoc]
      rfl
    | mismatch why =>
      rw [call_mismatch, explain_opened, explain, Config.transcript]
      cases log.config.verbosity with
      | quiet => rfl
      | verbose =>
        simp only [Array.toList_push]
        rw [settle_append inRange, List.append_assoc]
        rfl
    | exit accepted =>
      cases opened : log.opened with
      | nil =>
        rw [call_exit_of_nil opened, opened]
        rfl
      | cons line outer =>
        -- What `settle` appends to the innermost line is this verdict.
        rw [call_exit_of_cons opened (inRange.of_cons opened).1, Array.toList_modify]
        rfl

/-! ### The transcript -/

/-- A closed comparison ends with its verdict. -/
theorem Palette.ending_of_closedBy (palette : Palette) {later : List CheckEvent} {accepted : Bool}
    (closed : ClosedBy later accepted) : palette.ending later 0 = palette.verdict accepted := by
  rw [ending, CheckEvent.closingVerdict?_eq_some_iff.mpr closed]

/-- A comparison that is never closed has no ending. -/
theorem Palette.ending_of_not_closedBy (palette : Palette) {later : List CheckEvent}
    (unclosed : ∀ accepted, ¬ ClosedBy later accepted) : palette.ending later 0 = "" := by
  have noVerdict : closingVerdict? 0 later = none := by
    rw [Option.eq_none_iff_forall_ne_some]
    intro accepted found
    exact unclosed accepted (CheckEvent.closingVerdict?_eq_some_iff.mp found)
  rw [ending, noVerdict]

namespace Config

variable (config : Config)

/-- Each call adds one line or none to the number of lines. -/
theorem lineCount_cons (event : CheckEvent) (rest : List CheckEvent) :
    config.lineCount (event :: rest)
      = config.lineCount rest + if config.writesLine event then 1 else 0 :=
  List.countP_cons

/-- The transcript has one line for each call that writes one. -/
theorem length_transcript (depth : Nat) (calls : List CheckEvent) :
    (config.transcript depth calls).length = config.lineCount calls := by
  induction calls generalizing depth with
  | nil => rfl
  | cons event rest ih =>
    rw [lineCount_cons]
    cases event with
    | enter sub sup => simp [transcript, writesLine, ih]
    | mismatch why =>
      cases verbosity : config.verbosity with
      | quiet => simp [transcript, writesLine, verbosity, ih]
      | verbose => simp [transcript, writesLine, verbosity, ih]
    | exit accepted => simp [transcript, writesLine, ih]

/-- After the lines of some calls come those of the later ones. -/
theorem drop_transcript (depth : Nat) (before later : List CheckEvent) :
    (config.transcript depth (before ++ later)).drop (config.lineCount before)
      = config.transcript (depthAfter depth before) later := by
  -- Each call before takes its own line off the front, if it has one, and changes the depth as it
  -- does in the log.
  induction before generalizing depth with
  | nil => rfl
  | cons event rest ih =>
    rw [lineCount_cons, CheckEvent.depthAfter_cons, ← ih]
    cases event with
    | enter sub sup => simp [transcript, writesLine, nest]
    | mismatch why =>
      cases verbosity : config.verbosity with
      | quiet => simp [transcript, writesLine, nest, verbosity]
      | verbose => simp [transcript, writesLine, nest, verbosity]
    | exit accepted => simp [transcript, writesLine, nest]

/-- The line of a call is the first of the calls from it on. -/
theorem transcript_getElem? (depth : Nat) (before later : List CheckEvent) :
    (config.transcript depth (before ++ later))[config.lineCount before]?
      = (config.transcript (depthAfter depth before) later).head? := by
  rw [← drop_transcript, List.head?_drop]

end Config

/-- A new log can be driven by any calls. It reflects all of them: it has their lines in order,
each comparison with the verdict of the `exit` that matches its `enter`, and its only fault is for
an `exit` with nothing open. -/
theorem reflects_after_new (config : Config) (calls : List CheckEvent) :
    Reflects config calls ((new config).after calls) := by
  obtain ⟨inRange, -, depth⟩ := (InRange.new config).after calls
  change ((new config).after calls).depth = depthAfter 0 calls at depth
  -- The line of a call is found in the transcript by the number of lines before it.
  have lines : ((new config).after calls).lines.toList = config.transcript 0 calls :=
    lines_after (InRange.new config) calls
  have line : ∀ before later, calls = before ++ later →
      ((new config).after calls).lines[config.lineCount before]?
        = (config.transcript (depthAfter 0 before) later).head? := by
    rintro before later rfl
    rw [← Array.getElem?_toList, lines, config.transcript_getElem?]
  exact {
    depth_eq := depth
    inRange
    size_eq := by rw [← Array.length_toList, lines, config.length_transcript]
    enter_line := by
      intro before sub sup later split
      refine ⟨config.palette.ending later 0, line _ _ split, ?_, ?_, ?_⟩
      · intro accepted
        exact config.palette.ending_of_closedBy accepted
      · intro rejected
        exact config.palette.ending_of_closedBy rejected
      · intro unclosed
        exact config.palette.ending_of_not_closedBy unclosed
    mismatch_line := by
      intro before why later split verbose
      rw [line _ _ split, Config.transcript, verbose, ← Palette.reasonLine_eq]
      rfl
    fault_iff := by
      intro event fault
      rw [← depth]
      exact inRange.call_eq_error_iff
    fault_self := fun _ _ => inRange.call_of_error
  }

/-- A verdict goes to the line of its own comparison, over the lines that are written in between.
The unmatched `exit` at the start is a fault and leaves no trace. Of the two comparisons that are
entered last, the inner one is closed and the outer one is still open at the end. -/
theorem reflects_after_new_unbalanced :
    let config : Config := ⟨.verbose, ⟨"<", "+", "-", ">"⟩⟩
    let calls : List CheckEvent :=
      [.exit true, .enter (.seq .int) (.seq .bool), .enter .int .bool, .mismatch (.kind .int .bool),
        .exit false, .mismatch (.arity 1 2), .exit false, .enter .any .any, .enter .null .event,
        .exit true, .mismatch (.fieldName 0 "a" "b")]
    let log := (new config).after calls
    (new config).call (.exit true) = (.error .unmatchedExit, new config) ∧ log.depth = 1 ∧
      log.lines.toList =
        ["<seq[int]> <: <seq[bool]>  -no>",
          "  <int> <: <bool>  -no>",
          "    -int is not a subtype of bool>",
          "  -arity 1 differs from 2>",
          "<any> <: <any>",
          "  <null> <: <event>  +yes>",
          "  -field 0 is named `a`, expected `b`>"] := by
  intro config calls log
  have start := reflects_after_new config []
  have fault : ((new config).call (.exit true)).1 = .error .unmatchedExit :=
    (start.fault_iff _ _).mpr ⟨rfl, ⟨true, rfl⟩, rfl⟩
  have unchanged : ((new config).call (.exit true)).2 = new config := start.fault_self _ _ fault
  have reflects : Reflects config calls log := reflects_after_new config calls
  -- The `exit` that matches an `enter` is found by counting.
  have closed : ∀ {later accepted}, closingVerdict? 0 later = some accepted →
      ClosedBy later accepted := CheckEvent.closingVerdict?_eq_some_iff.mp
  have line0 : log.lines[0]? = some "<seq[int]> <: <seq[bool]>  -no>" := by
    obtain ⟨ending, line, -, rejected, -⟩ := reflects.enter_line (calls.take 1) _ _ _ rfl
    rw [rejected (closed rfl)] at line
    exact line.trans (by decide)
  have line1 : log.lines[1]? = some "  <int> <: <bool>  -no>" := by
    obtain ⟨ending, line, -, rejected, -⟩ := reflects.enter_line (calls.take 2) _ _ _ rfl
    rw [rejected (closed rfl)] at line
    exact line.trans (by decide)
  have line2 : log.lines[2]? = some "    -int is not a subtype of bool>" :=
    (reflects.mismatch_line (calls.take 3) _ _ rfl rfl).trans (by decide)
  have line3 : log.lines[3]? = some "  -arity 1 differs from 2>" :=
    (reflects.mismatch_line (calls.take 5) _ _ rfl rfl).trans (by decide)
  have line4 : log.lines[4]? = some "<any> <: <any>" := by
    obtain ⟨ending, line, -, -, unclosed⟩ := reflects.enter_line (calls.take 7) _ _ _ rfl
    rw [unclosed fun accepted found => nomatch CheckEvent.closingVerdict?_eq_some_iff.mpr found]
      at line
    exact line.trans (by decide)
  have line5 : log.lines[5]? = some "  <null> <: <event>  +yes>" := by
    obtain ⟨ending, line, accepted, -, -⟩ := reflects.enter_line (calls.take 8) _ _ _ rfl
    rw [accepted (closed rfl)] at line
    exact line.trans (by decide)
  have line6 : log.lines[6]? = some "  -field 0 is named `a`, expected `b`>" :=
    (reflects.mismatch_line (calls.take 10) _ _ rfl rfl).trans (by decide)
  have size : log.lines.size = 7 := reflects.size_eq
  refine ⟨Prod.ext fault unchanged, reflects.depth_eq, List.ext_getElem? fun index => ?_⟩
  rw [Array.getElem?_toList]
  match index with
  | 0 => exact line0
  | 1 => exact line1
  | 2 => exact line2
  | 3 => exact line3
  | 4 => exact line4
  | 5 => exact line5
  | 6 => exact line6
  | later + 7 => exact Array.getElem?_eq_none (by omega)

end TraceLog

end MachineTypes
