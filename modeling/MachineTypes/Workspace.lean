import MachineTypes.Subtype.Basic
import MachineTypes.Ty.Construct
import MachineTypes.Ty.MapForeign

/-!
# `MachineTypes.Workspace`: named registers that own types

A register holds one type. Making a larger type moves its operands out of their registers, so no
node is ever owned twice. Operands are moved from left to right, and one that was moved stays
moved when a later step fails. The target register is written only on success. Copies and
comparisons leave their operands in place.
-/

set_option autoImplicit false

namespace MachineTypes

/-- Why an operation on registers fails. -/
inductive WorkspaceError where
  /-- The register holds nothing. -/
  | missing (register : String)
  /-- The operands do not make a type. -/
  | construction (failure : ConstructionFailure)
  deriving DecidableEq, Repr

namespace WorkspaceError

/-- The wording of the error. A missing register is named. -/
def message : WorkspaceError → String
  | missing register => register
  | construction failure => failure.message

instance : ToString WorkspaceError := ⟨message⟩

end WorkspaceError

/-- The registers that hold a type, each with its type and at most once. -/
structure Workspace where
  registers : List (String × Ty)

namespace Workspace

/-- No register holds a type. -/
def empty : Workspace := ⟨[]⟩

/-- The type in a register. -/
def get? (workspace : Workspace) (register : String) : Option Ty :=
  workspace.registers.lookup register

/-- The workspace with a register emptied. -/
def erase (workspace : Workspace) (register : String) : Workspace :=
  ⟨workspace.registers.filter (·.1 ≠ register)⟩

/-- The workspace with a type put into a register, in place of what it held. -/
def insert (workspace : Workspace) (register : String) (type : Ty) : Workspace :=
  ⟨(register, type) :: (workspace.erase register).registers⟩

/-- An operation on the registers. What it did before a failure stays done. -/
abbrev Action := ExceptT WorkspaceError (StateM Workspace)

/-- The type in a register, which keeps it. -/
def peek (register : String) : Action Ty := do
  match (← get).get? register with
  | some type => return type
  | none => throw (.missing register)

/-- The type in a register, which is emptied. -/
def take (register : String) : Action Ty := do
  let type ← peek register
  modify (·.erase register)
  return type

/-- Puts a type into a register. -/
def put (target : String) (type : Ty) : Action Unit :=
  modify (·.insert target type)

/-- Puts the outcome of a construction into a register, if there is one. -/
def putBuilt (target : String) (outcome : Except ConstructionFailure Ty) : Action Unit :=
  match outcome with
  | .ok type => put target type
  | .error failure => throw (.construction failure)

/-- Puts a copy of the type of one register into another. -/
def copy (source target : String) : Action Unit := do
  put target (← peek source).clone

/-- Makes a sequence type of an element type. -/
def makeSeq (inner target : String) : Action Unit := do
  put target (.seq (← take inner))

/-- Makes a map type of a domain and a codomain. -/
def makeMap (domain codomain target : String) : Action Unit := do
  let key ← take domain
  let value ← take codomain
  put target (.map key value)

/-- Makes a tuple of its fields. -/
def makeTuple (fields : List String) (target : String) : Action Unit := do
  let types ← fields.mapM take
  putBuilt target (Ty.ofFields types)

/-- Makes a named tuple of its fields, each given by a name and a register. -/
def makeNamedTuple (fields : List (String × String)) (target : String) : Action Unit := do
  let types ← fields.mapM fun (name, register) => do
    let type ← take register
    return (name, type)
  putBuilt target (Ty.ofNamedFields types)

/-- Releases the type in a register. -/
def free (register : String) : Action Unit := do
  let _ ← take register

/-- Whether the type in one register is a subtype of the type in another. -/
def isSubtype (sub sup : String) : Action Bool := do
  let a ← peek sub
  let b ← peek sup
  return a.isSubtype b

/-- Whether two registers hold equal types. -/
def isEqual (first second : String) : Action Bool := do
  let a ← peek first
  let b ← peek second
  return a == b

end Workspace

end MachineTypes
