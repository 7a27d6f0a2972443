import MachineTypes.Proofs.Subtype.Diagnosis
import MachineTypes.Proofs.TraceLog.Rendering
import MachineTypes.TraceLog.Steps

/-!
# `MachineTypes.Proofs.TraceLog.Steps`: logs under steps

Steps on a log are the calls in them. From this follows what a log under any steps holds, and the
comparison of a quiet log with a verbose one.
-/

set_option autoImplicit false

namespace MachineTypes.TraceLog

/-! ## Steps are calls

A check does to a log what its calls do when they are made by hand (`step_check`). So a log after
any steps is the log after all the calls in them (`steps_snd`), and what is known of logs under
calls holds for steps.

The outcome of a step depends on the number of open comparisons and on nothing else of the log
(`steps_fst_eq`).
-/

variable {log other : TraceLog}

/-! ### Calls in a row -/

/-- Calls that are made in two runs leave the log that they leave in one. -/
theorem after_append (log : TraceLog) (calls later : List CheckEvent) :
    log.after (calls ++ later) = (log.after calls).after later :=
  List.foldl_append

/-- An operation that fails is not followed by the next one. -/
theorem run_bind_of_error {α β : Type} {action : Action α} {fault : Fault}
    (failed : log.run action = (.error fault, other)) (next : α → Action β) :
    log.run (action >>= next) = (.error fault, other) := by
  unfold run at *
  rw [ExceptT.run_bind, StateT.run_bind, Id.run_bind, failed]
  rfl

/-- Calls that succeed one after the other leave the log that they leave when they are made one by
one. -/
theorem after_of_run_forM {calls : List CheckEvent}
    (succeeded : log.run (calls.forM tracer) = (.ok (), other)) : log.after calls = other := by
  -- For every log: after a call that succeeds, the others are made on the log that it left.
  induction calls generalizing log with
  | nil => exact congrArg Prod.snd succeeded
  | cons event rest ih =>
    have inOrder : (event :: rest).forM tracer
        = (tracer event >>= fun _ => rest.forM tracer : Action Unit) := rfl
    rw [inOrder] at succeeded
    rcases called : log.call event with ⟨outcome, next⟩
    cases outcome with
    | ok =>
      rw [run_bind_of_ok called] at succeeded
      have later : next.after rest = other := ih succeeded
      rw [← later, after, List.foldl_cons, called, after]
    | error fault =>
      rw [run_bind_of_error called] at succeeded
      cases succeeded

/-! ### One step -/

/-- A call by hand has the outcome of the call, and no verdict. -/
theorem step_call (log : TraceLog) (event : CheckEvent) :
    log.step (.call event) = ((log.call event).1.map fun _ => none, (log.call event).2) := by
  rcases called : log.call event with ⟨outcome, next⟩
  cases outcome with
  | ok => exact run_bind_of_ok called fun _ => pure none
  | error fault => exact run_bind_of_error called fun _ => pure none

/-- The calls of a check are its events in their order. -/
theorem calls_check (sub sup : Ty) : (Step.check sub sup).calls = sub.events sup := by
  rw [Step.calls, Ty.checkRecorded_eq]

/-- A check gives its verdict, and leaves the log as its calls leave it. -/
theorem step_check (log : TraceLog) (sub sup : Ty) :
    log.step (.check sub sup)
      = (.ok (some (sub.isSubtype sup)), log.after (Step.check sub sup).calls) := by
  have written := writes_events log.config log.depth sub sup log rfl rfl
  rw [calls_check, after_of_run_forM written]
  exact run_bind_of_ok (run_checkSubtype log sub sup) fun accepted => pure (some accepted)

/-- A step leaves the log as its calls leave it. -/
theorem step_snd (log : TraceLog) (step : Step) : (log.step step).2 = log.after step.calls := by
  cases step with
  | call event => rw [step_call, Step.calls, after, List.foldl_cons, List.foldl_nil]
  | check sub sup => rw [step_check]

/-! ### Many steps -/

/-- Steps leave the log as all the calls in them leave it. -/
theorem steps_snd (log : TraceLog) (steps : List Step) :
    (log.steps steps).2 = log.after (steps.flatMap Step.calls) := by
  induction steps generalizing log with
  | nil => rfl
  | cons step rest ih =>
    rw [List.flatMap_cons, after_append, ← step_snd, ← ih]
    rfl

/-- A call has the same outcome for logs with the same number of open comparisons. -/
theorem call_fst_eq (inRange : log.InRange) (inRange' : other.InRange)
    (depth : log.depth = other.depth) (event : CheckEvent) :
    (log.call event).1 = (other.call event).1 := by
  have sameFaults : ∀ fault, (log.call event).1 = .error fault ↔
      (other.call event).1 = .error fault := by
    intro fault
    rw [inRange.call_eq_error_iff, inRange'.call_eq_error_iff, depth]
  -- An outcome that is no fault has nothing to tell.
  cases outcome : (log.call event).1 with
  | error fault => exact ((sameFaults fault).mp outcome).symm
  | ok =>
    cases outcome' : (other.call event).1 with
    | error fault => simp [outcome, outcome'] at sameFaults
    | ok => rfl

/-- Steps have the same outcomes for logs with the same number of open comparisons. -/
theorem steps_fst_eq (inRange : log.InRange) (inRange' : other.InRange)
    (depth : log.depth = other.depth) (steps : List Step) :
    (log.steps steps).1 = (other.steps steps).1 := by
  induction steps generalizing log other with
  | nil => rfl
  | cons step rest ih =>
    obtain ⟨inRangeNext, -, depthNext⟩ := inRange.after step.calls
    obtain ⟨inRangeNext', -, depthNext'⟩ := inRange'.after step.calls
    rw [← step_snd] at inRangeNext inRangeNext' depthNext depthNext'
    -- The outcome of a call depends on the depth alone, and that of a check on nothing.
    have here : (log.step step).1 = (other.step step).1 := by
      cases step with
      | call event => rw [step_call, step_call, call_fst_eq inRange inRange' depth]
      | check sub sup => rw [step_check, step_check]
    have later := ih inRangeNext inRangeNext' (by rw [depthNext, depthNext', depth])
    exact congrArg₂ List.cons here later

/-! ## A verbose log adds only reasons

The two logs save different line numbers for one comparison, since only one of them has the reasons
that were written before. So they are not compared call by call. The lines of each are its
transcript (`lines_after_new`), and there no line number is left: the transcript of a quiet log is
that of a verbose log without the lines of mismatches (`transcript_quiet`).

Which lines these are is told by the calls that added a line. `writers_eq` gives them without a run.
-/

/-! ### Writers -/

/-- A call adds one line or none, as its kind and the settings say. -/
theorem size_call (inRange : log.InRange) (event : CheckEvent) :
    (log.call event).2.lines.size
      = log.lines.size + if log.config.writesLine event then 1 else 0 := by
  cases event with
  | enter sub sup => exact Array.size_push _
  | mismatch why =>
    rw [call_mismatch, explain, Config.writesLine]
    cases log.config.verbosity with
    | quiet => rfl
    | verbose => exact Array.size_push _
  | exit accepted =>
    cases opened : log.opened with
    | nil =>
      rw [call_exit_of_nil opened]
      rfl
    | cons line outer =>
      rw [call_exit_of_cons opened (inRange.of_cons opened).1]
      exact Array.size_modify

/-- Whether a call adds a line can be told from the call and the settings, without a run. -/
theorem writers_eq (inRange : log.InRange) (calls : List CheckEvent) :
    log.writers calls = calls.filter log.config.writesLine := by
  induction calls generalizing log with
  | nil => rfl
  | cons event rest ih =>
    obtain ⟨inRange', config, -⟩ := inRange.call event
    have size := size_call inRange event
    rw [writers, List.filter_cons, ih inRange', config]
    refine if_congr ?_ rfl rfl
    split at size <;> simp_all

/-! ### Transcripts -/

/-- The lines of a new log after calls are the transcript of the calls. -/
theorem lines_after_new (config : Config) (calls : List CheckEvent) :
    ((new config).after calls).lines.toList = config.transcript 0 calls :=
  lines_after (InRange.new config) calls

/-- A line that comes from a mismatch is left out, and any other one is kept. -/
theorem withoutReasons_cons (line : String) (lines : List String) (writer : CheckEvent)
    (writers : List CheckEvent) :
    withoutReasons (line :: lines) (writer :: writers)
      = (if isMismatch writer then [] else [line]) ++ withoutReasons lines writers := by
  cases h : isMismatch writer <;> simp [withoutReasons, h]

/-- A quiet log writes what a verbose one writes, but for the lines of mismatches. -/
theorem transcript_quiet (palette : Palette) (depth : Nat) (calls : List CheckEvent) :
    (Config.mk .quiet palette).transcript depth calls
      = withoutReasons ((Config.mk .verbose palette).transcript depth calls)
          (calls.filter (Config.mk .verbose palette).writesLine) := by
  induction calls generalizing depth with
  | nil => rfl
  | cons event rest ih =>
    cases event with
    | enter sub sup =>
      -- The line is the same in both: the verdict in it depends on the calls and the palette.
      rw [Config.transcript, Config.transcript, List.filter_cons_of_pos rfl, withoutReasons_cons,
        ih]
      rfl
    | mismatch why =>
      have writes : (Config.mk .verbose palette).writesLine (.mismatch why) = true := rfl
      rw [List.filter_cons_of_pos writes]
      show (Config.mk .quiet palette).transcript depth rest
        = withoutReasons (palette.reasonLine depth why :: _) _
      rw [withoutReasons_cons, ih]
      rfl
    | exit accepted =>
      rw [Config.transcript, Config.transcript, ih]
      rfl

/-! ### The two logs -/

/-- After any calls a quiet and a verbose log differ in the lines of mismatches and in nothing
else. -/
theorem sameButForReasons_after (palette : Palette) (calls : List CheckEvent) :
    SameButForReasons ((new ⟨.quiet, palette⟩).after calls) ((new ⟨.verbose, palette⟩).after calls)
      ((new ⟨.verbose, palette⟩).writers calls) := by
  obtain ⟨inRange, -, depth⟩ := (InRange.new ⟨.quiet, palette⟩).after calls
  obtain ⟨inRange', -, depth'⟩ := (InRange.new ⟨.verbose, palette⟩).after calls
  have sameDepth := depth.trans depth'.symm
  have writers := writers_eq (InRange.new ⟨.verbose, palette⟩) calls
  -- What is left is to compare lines. On both sides they are transcripts, so no saved line number
  -- is in the way.
  refine ⟨sameDepth, ?_, ?_, call_fst_eq inRange inRange' sameDepth⟩
  · rw [writers, ← Array.length_toList, lines_after_new, Config.length_transcript,
      Config.lineCount, List.countP_eq_length_filter]
    rfl
  · rw [writers, lines_after_new, lines_after_new]
    exact transcript_quiet palette 0 calls

/-- Do the same steps with a new quiet log and a new verbose one. The steps have the same outcomes:
the same ones are faults, and checks have the same verdicts. At every moment, also in the middle of
a check, the logs have the same number of open comparisons, and the quiet log has exactly the lines
of the verbose one that do not come from a mismatch. -/
theorem verbose_adds_only_reasons (palette : Palette) (steps : List Step) :
    let quiet := new ⟨.quiet, palette⟩
    let verbose := new ⟨.verbose, palette⟩
    let calls := steps.flatMap Step.calls
    (quiet.steps steps).1 = (verbose.steps steps).1 ∧
      (quiet.steps steps).2 = quiet.after calls ∧
      (verbose.steps steps).2 = verbose.after calls ∧
      ∀ count, SameButForReasons (quiet.after (calls.take count))
        (verbose.after (calls.take count)) (verbose.writers (calls.take count)) := by
  intro quiet verbose calls
  have outcomes : (quiet.steps steps).1 = (verbose.steps steps).1 :=
    steps_fst_eq (InRange.new ⟨.quiet, palette⟩) (InRange.new ⟨.verbose, palette⟩) rfl steps
  refine ⟨outcomes, steps_snd quiet steps, steps_snd verbose steps, ?_⟩
  intro count
  exact sameButForReasons_after palette (calls.take count)

end MachineTypes.TraceLog
