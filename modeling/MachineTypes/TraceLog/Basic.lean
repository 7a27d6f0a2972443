import MachineTypes.Subtype.Basic
import MachineTypes.Ty.Inspect

/-!
# `MachineTypes.TraceLog.Basic`: a readable log of subtype checks

A log is a tracer that writes lines. Each comparison of a check has a line of its own, indented
below the comparison around it, with the verdict at its end; a verbose log says why a comparison is
rejected. The first part of the module has the texts of the lines and the second part the log.
-/

set_option autoImplicit false

namespace MachineTypes.TraceLog

/-! ## The texts of the lines

A palette has a text to put before each part of a line, and one to put after it. The coloured
palette has terminal escapes; the plain one has nothing.
-/

/-- The texts around the parts of a line. -/
structure Palette where
  /-- Before a type. -/
  type : String
  /-- Before the verdict `yes`. -/
  accept : String
  /-- Before the verdict `no` and before a reason. -/
  reject : String
  /-- After each part. -/
  reset : String
  deriving DecidableEq, Repr

namespace Palette

/-- Terminal colours: types in blue, acceptance in green, rejection dimmed. -/
def coloured : Palette where
  type := "\x1b[34m"
  accept := "\x1b[32m"
  reject := "\x1b[2m"
  reset := "\x1b[0m"

/-- No colours. -/
def plain : Palette where
  type := ""
  accept := ""
  reject := ""
  reset := ""

/-- The indentation of a line written inside the given number of open comparisons. -/
def indent (depth : Nat) : String :=
  String.ofList (List.replicate (2 * depth) ' ')

/-- The line of a comparison, still without its verdict. -/
def comparisonLine (palette : Palette) (depth : Nat) (sub sup : Ty) : String :=
  indent depth ++ palette.type ++ sub.display ++ palette.reset ++ " <: " ++ palette.type
    ++ sup.display ++ palette.reset

/-- The line that says why a comparison was rejected. -/
def reasonLine (palette : Palette) (depth : Nat) (why : Mismatch) : String :=
  indent depth ++ palette.reject ++ why.reason ++ palette.reset

/-- What the verdict appends to the line of its comparison. -/
def verdict (palette : Palette) : Bool → String
  | true => "  " ++ palette.accept ++ "yes" ++ palette.reset
  | false => "  " ++ palette.reject ++ "no" ++ palette.reset

/-! ### What the line formers write

The lines as plain texts, for statements that are to say what a reader of a log sees. Nothing is
left in them but the texts of the palette, the notation of the types and the wording of the reason.
-/

/-- Each open comparison indents by two spaces. -/
theorem toList_indent (depth : Nat) : (indent depth).toList = List.replicate (2 * depth) ' ' :=
  String.toList_ofList

variable (palette : Palette)

/-- The line of a comparison shows the two types, each between the texts of the palette, with `<:`
between them. -/
theorem comparisonLine_eq (depth : Nat) (sub sup : Ty) :
    palette.comparisonLine depth sub sup
      = String.ofList (List.replicate (2 * depth) ' ') ++ palette.type ++ sub.display
        ++ palette.reset ++ " <: " ++ palette.type ++ sup.display ++ palette.reset :=
  rfl

/-- The line of a mismatch shows the wording of the reason between the texts of the palette. -/
theorem reasonLine_eq (depth : Nat) (why : Mismatch) :
    palette.reasonLine depth why
      = String.ofList (List.replicate (2 * depth) ' ') ++ palette.reject ++ why.reason
        ++ palette.reset :=
  rfl

/-- A verdict is the word `yes` or `no` after two spaces, between the palette's texts for it. -/
theorem verdict_eq (accepted : Bool) :
    palette.verdict accepted
      = if accepted then "  " ++ palette.accept ++ "yes" ++ palette.reset
        else "  " ++ palette.reject ++ "no" ++ palette.reset := by
  cases accepted <;> rfl

end Palette

end MachineTypes.TraceLog

namespace MachineTypes

/-! ## The log

The log has one line for each comparison, indented by the number of comparisons around it. The
verdict is appended to the line when the comparison ends. A verbose log also has a line for each
reason to reject. Events may come from a check or from anywhere else, so an `exit` can come while
nothing is open: it is a fault, and the log can be used on after it.
-/

/-- How much a log tells. -/
inductive TraceLog.Verbosity where
  /-- Comparisons and verdicts. -/
  | quiet
  /-- Also the reasons to reject. -/
  | verbose
  deriving DecidableEq, Repr

/-- What a log tells and how it looks. -/
structure TraceLog.Config where
  verbosity : TraceLog.Verbosity := .quiet
  palette : TraceLog.Palette := .plain
  deriving DecidableEq, Repr

/-- A log of subtype checks. -/
structure TraceLog where
  config : TraceLog.Config
  lines : Array String
  /-- The line number of each open comparison, the innermost first. -/
  opened : List Nat
  deriving DecidableEq, Repr

namespace TraceLog

/-- Why an event is not taken. -/
inductive Fault where
  /-- An `exit` came while no comparison was open. -/
  | unmatchedExit
  /-- The number of the line to extend is not the number of a line. -/
  | lineOutOfRange (line count : Nat)
  deriving DecidableEq, Repr

/-- The wording of the fault. -/
def Fault.message : Fault → String
  | unmatchedExit => "PrintTracer: trace_exit without matching trace_enter"
  | lineOutOfRange line count =>
    "index out of bounds: the len is " ++ toString count ++ " but the index is " ++ toString line

instance : ToString Fault := ⟨Fault.message⟩

/-- An operation on a log. What it did before a fault stays done. -/
abbrev Action := ExceptT Fault (StateM TraceLog)

/-- A log without lines. -/
def new (config : Config) : TraceLog := ⟨config, #[], []⟩

/-- The number of open comparisons. -/
def depth (log : TraceLog) : Nat := log.opened.length

/-- All lines as one text. -/
def dump (log : TraceLog) : String :=
  "\n".intercalate log.lines.toList

/-- Opens a comparison on a line of its own. -/
def enter (log : TraceLog) (sub sup : Ty) : TraceLog :=
  { log with
    lines := log.lines.push (log.config.palette.comparisonLine log.depth sub sup)
    opened := log.lines.size :: log.opened }

/-- Writes a reason, if the log is verbose. -/
def explain (log : TraceLog) (why : Mismatch) : TraceLog :=
  match log.config.verbosity with
  | .quiet => log
  | .verbose =>
    { log with lines := log.lines.push (log.config.palette.reasonLine log.depth why) }

/-- Appends a text to a line. -/
def extendLine (line : Nat) (text : String) : Action Unit := do
  let log ← get
  if line < log.lines.size then
    set { log with lines := log.lines.modify line (· ++ text) }
  else
    throw (.lineOutOfRange line log.lines.size)

/-- Closes the innermost comparison and appends the verdict to its line. -/
def exit (accepted : Bool) : Action Unit := do
  let log ← get
  match log.opened with
  | [] => throw .unmatchedExit
  | line :: rest =>
    set { log with opened := rest }
    extendLine line (log.config.palette.verdict accepted)

/-- Writes the events of a check into a log. -/
def tracer : Tracer Action
  | .enter sub sup => modify (·.enter sub sup)
  | .mismatch why => modify (·.explain why)
  | .exit accepted => exit accepted

/-- The outcome of an operation on the log, and the log after it. -/
def run {α : Type} (log : TraceLog) (action : Action α) : Except Fault α × TraceLog :=
  Id.run (StateT.run (ExceptT.run action) log)

/-- The log after an event, or the fault. -/
def record (log : TraceLog) (event : CheckEvent) : Except Fault TraceLog :=
  let (outcome, after) := log.run (tracer event)
  outcome.map fun _ => after

/-- Runs a subtype check and writes its events into the log. -/
def check (log : TraceLog) (sub sup : Ty) : Except Fault (Bool × TraceLog) :=
  let (outcome, after) := log.run (Ty.checkSubtype tracer sub sup)
  outcome.map fun accepted => (accepted, after)

end TraceLog

end MachineTypes
