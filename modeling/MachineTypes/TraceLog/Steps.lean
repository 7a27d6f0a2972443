import MachineTypes.TraceLog.Calls

/-!
# `MachineTypes.TraceLog.Steps`: a log under calls and whole checks

What can be done with a log, and two ways to compare the logs that result. A quiet log is compared
with a verbose one by leaving out the lines of mismatches, and a plain log with a coloured one by
leaving out the escapes in the lines.
-/

set_option autoImplicit false

namespace MachineTypes.TraceLog

/-! ## Steps, and lines that come from mismatches

Whoever has a log can call it by hand and run checks with it, in any order. A check reaches the log
only by the calls that it makes, so `Step.calls` are the calls of a check as a recorder sees them.
`steps` does the steps one after the other and keeps the outcome of each.

A call adds at most one line, at the end, and no call takes a line away. So `writers`, the calls
that add a line, stand in the order of the lines, and `withoutReasons` can tell from them which
lines to leave out.
-/

/-! ## Steps -/

/-- What can be done with a log: a call by hand, or a whole check. -/
inductive Step where
  | call (event : CheckEvent)
  | check (sub sup : Ty)

/-- The calls that the log gets in a step, in order. -/
def Step.calls : Step → List CheckEvent
  | call event => [event]
  | check sub sup => (sub.checkRecorded sup).2.toList

/-- Does a step. Only a check has a verdict. -/
def perform : Step → Action (Option Bool)
  | .call event => do
    tracer event
    return none
  | .check sub sup => do
    let accepted ← Ty.checkSubtype tracer sub sup
    return some accepted

/-- The outcome of a step, and the log after it. -/
def step (log : TraceLog) (step : Step) : Except Fault (Option Bool) × TraceLog :=
  log.run (perform step)

/-- The outcomes of steps, of which any can be a fault, and the log after them. -/
def steps (log : TraceLog) : List Step → List (Except Fault (Option Bool)) × TraceLog
  | [] => ([], log)
  | step :: rest =>
    let (outcome, next) := log.step step
    let (outcomes, last) := next.steps rest
    (outcome :: outcomes, last)

/-! ## Where lines come from -/

/-- The calls that add a line, in order. -/
def writers (log : TraceLog) : List CheckEvent → List CheckEvent
  | [] => []
  | event :: rest =>
    let next := (log.call event).2
    if log.lines.size < next.lines.size then event :: next.writers rest else next.writers rest

/-- Whether the call is a mismatch. -/
def isMismatch : CheckEvent → Bool
  | .mismatch _ => true
  | .enter _ _ | .exit _ => false

/-- The lines that do not come from a mismatch, if the lines come from these calls. -/
def withoutReasons (lines : List String) (writers : List CheckEvent) : List String :=
  ((lines.zip writers).filter fun line => !isMismatch line.2).map (·.1)

/-- The logs differ in nothing but lines that come from mismatches, and they take the next call
alike. The calls are those that the lines of the second log come from. -/
structure SameButForReasons (quiet verbose : TraceLog) (writers : List CheckEvent) : Prop where
  depth_eq : quiet.depth = verbose.depth
  /-- Every line of the second log comes from one of the calls. -/
  length_writers : writers.length = verbose.lines.size
  lines_eq : quiet.lines.toList = withoutReasons verbose.lines.toList writers
  /-- The next call is a fault for both logs or for none. -/
  outcome_eq : ∀ event, (quiet.call event).1 = (verbose.call event).1

/-! ## Lines without their escapes

The texts that a palette puts around the parts of a line are terminal escapes, which do not show.
`Palette.erase` leaves them out of a line, so it says what a reader sees. It goes through the line
once, from left to right. What comes to stand side by side because an escape between it is left out
is not looked at again.
-/

/-- The character that terminal escapes begin with. -/
def escape : Char := '\x1b'

/-- There is no escape character in the text. -/
def EscapeFree (text : String) : Prop := escape ∉ text.toList

instance (text : String) : Decidable (EscapeFree text) :=
  inferInstanceAs (Decidable (_ ∉ _))

namespace Palette

/-- The escapes of the palette. A text that is empty is none. -/
def escapes (palette : Palette) : List (List Char) :=
  ([palette.type, palette.accept, palette.reject, palette.reset].map String.toList).filter (· ≠ [])

/-- The text without escapes, if its first `covered` characters belong to an escape that begins
before it. -/
def eraseFrom (palette : Palette) : Nat → List Char → List Char
  | _, [] => []
  | covered + 1, _ :: rest => palette.eraseFrom covered rest
  | 0, c :: rest =>
    match palette.escapes.find? (·.isPrefixOf (c :: rest)) with
    | some found => palette.eraseFrom (found.length - 1) rest
    | none => c :: palette.eraseFrom 0 rest

/-- The line without the escapes of the palette. -/
def erase (palette : Palette) (line : String) : String :=
  String.ofList (palette.eraseFrom 0 line.toList)

end Palette

/-- The logs differ in nothing but the escapes in their lines, and they take the next call alike.
The first has the escapes of the palette, and the second has none. -/
structure SameButForEscapes (palette : Palette) (coloured plain : TraceLog) : Prop where
  depth_eq : coloured.depth = plain.depth
  size_eq : coloured.lines.size = plain.lines.size
  /-- Each line is the line with the same number without its escapes. -/
  lines_eq : plain.lines.toList = coloured.lines.toList.map palette.erase
  /-- No escape is left over, and none comes about by leaving out others. -/
  escapeFree : ∀ line ∈ plain.lines, EscapeFree line
  /-- The next call is a fault for both logs or for none. -/
  outcome_eq : ∀ event, (coloured.call event).1 = (plain.call event).1

end MachineTypes.TraceLog
