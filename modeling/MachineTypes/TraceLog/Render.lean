import MachineTypes.Subtype.Events
import MachineTypes.TraceLog.Basic

/-!
# `MachineTypes.TraceLog.Render`: the lines of one check

`Config.render` writes the lines of a whole check by recursion over the two types, without the
log's bookkeeping: each line has its verdict from the start. A check that runs inside other
comparisons has the same lines, further indented. `appendLines` is a log with such lines added to
it.
-/

set_option autoImplicit false

namespace MachineTypes.TraceLog

/-- The log with lines added at its end. -/
def appendLines (log : TraceLog) (lines : List String) : TraceLog :=
  { log with lines := log.lines ++ lines.toArray }

namespace Config

/-- The lines of one comparison inside `depth` open ones: its own line with the verdict of
`isSubtype`, then a reason or the lines of its children. A line begins with two spaces for each
comparison around it. -/
def renderComparison (config : Config) (depth : Nat) (sub sup : Ty) (children : List String) :
    List String :=
  (String.ofList (List.replicate (2 * depth) ' ') ++ config.palette.type ++ sub.display
      ++ config.palette.reset ++ " <: " ++ config.palette.type ++ sup.display
      ++ config.palette.reset ++
      if sub.isSubtype sup then "  " ++ config.palette.accept ++ "yes" ++ config.palette.reset
      else "  " ++ config.palette.reject ++ "no" ++ config.palette.reset) ::
    match sub.mismatch? sup, config.verbosity with
    | none, _ => children
    | some _, .quiet => []
    | some why, .verbose =>
      [String.ofList (List.replicate (2 * (depth + 1)) ' ') ++ config.palette.reject ++ why.reason
        ++ config.palette.reset]

mutual

/-- The lines of a check of `sub` against `sup` inside `depth` open comparisons. -/
def render (config : Config) (depth : Nat) : Ty → Ty → List String
  | .map domain codomain, .map domain' codomain' =>
    config.renderComparison depth (.map domain codomain) (.map domain' codomain')
      (config.render (depth + 1) domain domain'
        ++ if domain.isSubtype domain' then config.render (depth + 1) codomain codomain' else [])
  | .seq inner, .seq inner' =>
    config.renderComparison depth (.seq inner) (.seq inner')
      (config.render (depth + 1) inner inner')
  | .tuple fields, .tuple fields' =>
    config.renderComparison depth (.tuple fields) (.tuple fields')
      (config.renderAll (depth + 1) fields fields')
  | .namedTuple fields, .namedTuple fields' =>
    config.renderComparison depth (.namedTuple fields) (.namedTuple fields')
      (config.renderFields (depth + 1) fields fields')
  | sub, sup => config.renderComparison depth sub sup []

/-- The lines of the checks of two lists, up to the first pair that is rejected. -/
def renderAll (config : Config) (depth : Nat) : List Ty → List Ty → List String
  | sub :: subs, sup :: sups =>
    config.render depth sub sup
      ++ if sub.isSubtype sup then config.renderAll depth subs sups else []
  | _, _ => []

/-- The same for named fields. -/
def renderFields (config : Config) (depth : Nat) :
    List (Field Ty) → List (Field Ty) → List String
  | ⟨_, sub⟩ :: subs, ⟨_, sup⟩ :: sups =>
    config.render depth sub sup
      ++ if sub.isSubtype sup then config.renderFields depth subs sups else []
  | _, _ => []

end

/-- The lines of checks made one after the other. -/
def renderPairs (config : Config) (depth : Nat) (pairs : List (Ty × Ty)) : List String :=
  pairs.flatMap fun pair => config.render depth pair.1 pair.2

end Config

end MachineTypes.TraceLog
