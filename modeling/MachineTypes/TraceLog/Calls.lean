import MachineTypes.TraceLog.Basic

/-!
# `MachineTypes.TraceLog.Calls`: a log under any sequence of calls

A log can be driven by hand, with calls in any order, and it can be used on after a fault. `after`
is the log after such a sequence.

The rest says, from the calls alone, what such a log is to hold. An `enter` and an `exit` are
brackets, and a mismatch stands for itself: `Balanced` is the grammar of the sequences that close
all they open and nothing else, and `ClosedBy` says which `exit` matches an `enter`.
`Config.transcript` writes all lines at once, each with its verdict from the start.
-/

set_option autoImplicit false

namespace MachineTypes

namespace CheckEvent

/-! ## Brackets -/

/-- The number of open comparisons after a call. An `exit` with nothing open leaves nothing
open. -/
def nest (depth : Nat) : CheckEvent → Nat
  | enter _ _ => depth + 1
  | mismatch _ => depth
  | exit _ => depth - 1

/-- The number of open comparisons after calls, if `depth` of them are open before. -/
def depthAfter (depth : Nat) (calls : List CheckEvent) : Nat := calls.foldl nest depth

/-- Every `enter` has its `exit` and every `exit` its `enter`. -/
inductive Balanced : List CheckEvent → Prop where
  | nil : Balanced []
  | mismatch (why : Mismatch) {rest : List CheckEvent} :
    Balanced rest → Balanced (.mismatch why :: rest)
  | pair (sub sup : Ty) (accepted : Bool) {inside rest : List CheckEvent} :
    Balanced inside → Balanced rest →
      Balanced (.enter sub sup :: inside ++ .exit accepted :: rest)

/-- Of the calls after an `enter`, an `exit` with this verdict matches it. -/
def ClosedBy (later : List CheckEvent) (accepted : Bool) : Prop :=
  ∃ inside rest, later = inside ++ .exit accepted :: rest ∧ Balanced inside

/-- The verdict of the first `exit` that closes a comparison in which `inner` others are open. -/
def closingVerdict? : Nat → List CheckEvent → Option Bool
  | _, [] => none
  | inner, enter _ _ :: rest => closingVerdict? (inner + 1) rest
  | inner, mismatch _ :: rest => closingVerdict? inner rest
  | 0, exit accepted :: _ => some accepted
  | inner + 1, exit _ :: rest => closingVerdict? inner rest

end CheckEvent

namespace TraceLog

open CheckEvent (depthAfter closingVerdict? ClosedBy)

/-! ## Calls -/

/-- The outcome of a call, and the log after it. -/
def call (log : TraceLog) (event : CheckEvent) : Except Fault Unit × TraceLog :=
  log.run (tracer event)

/-- The log after calls, of which any can be a fault. -/
def after (log : TraceLog) (calls : List CheckEvent) : TraceLog :=
  calls.foldl (fun log event => (log.call event).2) log

/-- Every saved line number is that of a line. -/
def InRange (log : TraceLog) : Prop := ∀ line ∈ log.opened, line < log.lines.size

/-! ## Lines -/

/-- What later calls append to the line of a comparison in which `inner` others are open. -/
def Palette.ending (palette : Palette) (later : List CheckEvent) (inner : Nat) : String :=
  match closingVerdict? inner later with
  | none => ""
  | some accepted => palette.verdict accepted

namespace Config

/-- Whether a call writes a line. -/
def writesLine (config : Config) : CheckEvent → Bool
  | .enter _ _ => true
  | .mismatch _ => config.verbosity = .verbose
  | .exit _ => false

/-- The number of lines that calls write. -/
def lineCount (config : Config) (calls : List CheckEvent) : Nat :=
  calls.countP config.writesLine

/-- The lines that calls write, if `depth` comparisons are open before. -/
def transcript (config : Config) : Nat → List CheckEvent → List String
  | _, [] => []
  | depth, .enter sub sup :: rest =>
    (config.palette.comparisonLine depth sub sup ++ config.palette.ending rest 0) ::
      config.transcript (depth + 1) rest
  | depth, .mismatch why :: rest =>
    match config.verbosity with
    | .quiet => config.transcript depth rest
    | .verbose => config.palette.reasonLine depth why :: config.transcript depth rest
  | depth, .exit _ :: rest => config.transcript (depth - 1) rest

end Config

/-- The log holds what the calls say, and takes the next call accordingly. The line of a call is
found by the number of lines that the calls before it write. The texts of the lines are written out,
so nothing is left in them but the palette, the notation of the types and the wording of the
reason. -/
structure Reflects (config : Config) (calls : List CheckEvent) (log : TraceLog) : Prop where
  /-- As many comparisons are open as the calls have left open. -/
  depth_eq : log.depth = depthAfter 0 calls
  inRange : log.InRange
  /-- There are no other lines than those of calls that write one. -/
  size_eq : log.lines.size = config.lineCount calls
  /-- The line of an `enter` begins with two spaces for each comparison open before it, and then
  shows the two types. It ends with the verdict of the `exit` that matches it, and with nothing more
  while there is none. -/
  enter_line : ∀ before sub sup later, calls = before ++ .enter sub sup :: later →
    ∃ ending, log.lines[config.lineCount before]?
        = some (String.ofList (List.replicate (2 * depthAfter 0 before) ' ')
            ++ config.palette.type ++ sub.display ++ config.palette.reset ++ " <: "
            ++ config.palette.type ++ sup.display ++ config.palette.reset ++ ending) ∧
      (ClosedBy later true →
        ending = "  " ++ config.palette.accept ++ "yes" ++ config.palette.reset) ∧
      (ClosedBy later false →
        ending = "  " ++ config.palette.reject ++ "no" ++ config.palette.reset) ∧
      ((∀ accepted, ¬ ClosedBy later accepted) → ending = "")
  /-- The line of a mismatch in a verbose log begins likewise, shows the reason, and is never
  extended. -/
  mismatch_line : ∀ before why later, calls = before ++ .mismatch why :: later →
    config.verbosity = .verbose →
      log.lines[config.lineCount before]?
        = some (String.ofList (List.replicate (2 * depthAfter 0 before) ' ')
            ++ config.palette.reject ++ why.reason ++ config.palette.reset)
  /-- The next call is a fault exactly if it is an `exit` with nothing open, and the fault says
  so. -/
  fault_iff : ∀ event fault, (log.call event).1 = .error fault ↔
    fault = .unmatchedExit ∧ (∃ accepted, event = .exit accepted) ∧ depthAfter 0 calls = 0
  /-- A fault leaves the log as it is. -/
  fault_self : ∀ event fault, (log.call event).1 = .error fault → (log.call event).2 = log

end TraceLog

end MachineTypes
