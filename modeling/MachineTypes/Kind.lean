/-!
# `MachineTypes.Kind`: the eleven kinds of type

Every type node has one kind, and the kind fixes the shape of what the node holds. The first
six kinds are primitive: their nodes are leaves that hold nothing.
-/

set_option autoImplicit false

namespace MachineTypes

/-- The kinds of type node. -/
inductive Kind where
  /-- The type of every value. -/
  | any
  | bool
  /-- An event that machines send each other. -/
  | event
  /-- A handle to a running machine. -/
  | machine
  | int
  /-- The type below `event` and `machine`. -/
  | null
  /-- Values that only their provider understands. -/
  | foreign
  | map
  | seq
  /-- Fields told apart by position. -/
  | tuple
  /-- Fields with names, in a fixed order. -/
  | namedTuple
  deriving DecidableEq, Repr

namespace Kind

/-- Every kind, in the order of their codes. -/
def all : List Kind :=
  [any, bool, event, machine, int, null, foreign, map, seq, tuple, namedTuple]

/-- The number that stands for the kind. -/
def code : Kind → Nat
  | any => 0
  | bool => 1
  | event => 2
  | machine => 3
  | int => 4
  | null => 5
  | foreign => 6
  | map => 7
  | seq => 8
  | tuple => 9
  | namedTuple => 10

/-- The kind as it is named in messages. -/
def name : Kind → String
  | any => "any"
  | bool => "bool"
  | event => "event"
  | machine => "machine"
  | int => "int"
  | null => "null"
  | foreign => "foreign"
  | map => "map"
  | seq => "seq"
  | tuple => "tuple"
  | namedTuple => "named tuple"

instance : ToString Kind := ⟨name⟩

/-- The kind with the given name. -/
def ofName? (text : String) : Option Kind :=
  all.find? (·.name = text)

/-- Whether nodes of this kind are leaves that hold nothing. -/
def isPrimitive : Kind → Bool
  | any | bool | event | machine | int | null => true
  | foreign | map | seq | tuple | namedTuple => false

/-- Whether `null` may stand where a value of this kind is expected. -/
def acceptsNull : Kind → Bool
  | null | event | machine => true
  | any | bool | int | foreign | map | seq | tuple | namedTuple => false

/-- Each kind stands in the list at its code. -/
theorem all_getElem?_code (kind : Kind) : all[kind.code]? = some kind := by
  cases kind <;> rfl

/-- A kind is found again by its name. -/
theorem ofName?_name (kind : Kind) : ofName? kind.name = some kind := by
  cases kind <;> decide

end Kind

end MachineTypes
