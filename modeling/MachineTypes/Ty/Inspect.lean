import MachineTypes.Ty.Basic

/-!
# `MachineTypes.Ty.Inspect`: types as texts

A type has two texts. The notation is for messages and logs and is short. The inspection shows every
node with the names of its parts, and quotes the names of fields.
-/

set_option autoImplicit false

namespace MachineTypes.Ty

/-! ## The notation of types

The notation reads `map[K, V]`, `seq[T]`, `(T, U)` and `(x: T, y: U)`. A tuple with one field has
a comma after it. A foreign type shows its tag, and the absent type shows as `absent`. Field
names stand as they are.
-/

/-- The text of a tuple, from the texts of its fields. -/
def displayTuple : List String → String
  | [field] => "(" ++ field ++ ",)"
  | fields => "(" ++ ", ".intercalate fields ++ ")"

/-- The text of a named tuple, from the texts of its fields. -/
def displayNamedTuple (fields : List String) : String :=
  "(" ++ ", ".intercalate fields ++ ")"

mutual

/-- The type in its own notation. -/
def display : Ty → String
  | foreign type =>
    if type.isAbsent then "absent" else "foreign(" ++ type.tag.display ++ ")"
  | map domain codomain => "map[" ++ domain.display ++ ", " ++ codomain.display ++ "]"
  | seq inner => "seq[" ++ inner.display ++ "]"
  | tuple fields => displayTuple (displayAll fields)
  | namedTuple fields => displayNamedTuple (displayFields fields)
  | leaf => leaf.kind.name

/-- The texts of types. -/
def displayAll : List Ty → List String
  | [] => []
  | type :: rest => type.display :: displayAll rest

/-- The texts of named fields. -/
def displayFields : List (Field Ty) → List String
  | [] => []
  | ⟨name, type⟩ :: rest => (name.text ++ ": " ++ type.display) :: displayFields rest

end

instance : ToString Ty := ⟨display⟩

/-! ## Every node of a type, spelled out

The inspection of a type shows each node with the names of its parts. Field names are quoted, so
unlike `Ty.display` it stays readable whatever the names hold. Providers do not show.
-/

/-- How a node of the kind is labelled. -/
def nodeLabel : Kind → String
  | .any => "Any"
  | .bool => "Bool"
  | .event => "Event"
  | .machine => "Machine"
  | .int => "Int"
  | .null => "Null"
  | .foreign => "Foreign"
  | .map => "Map"
  | .seq => "Seq"
  | .tuple => "Tuple"
  | .namedTuple => "NamedTuple"

/-- A node with its parts: the label of the node, the shape of what it holds, and each part
after its own label. -/
def inspectNode (kind : Kind) (shape : String) (parts : List (String × String)) : String :=
  nodeLabel kind ++ "(" ++ shape ++ " \x7b "
    ++ ", ".intercalate (parts.map fun (label, text) => label ++ ": " ++ text) ++ " \x7d)"

/-- Texts as a bracketed list. -/
def inspectList (texts : List String) : String :=
  "[" ++ ", ".intercalate texts ++ "]"

mutual

/-- Every node of the type with the names of its parts. -/
def inspect : Ty → String
  | foreign type => nodeLabel .foreign ++ "(" ++ type.inspect ++ ")"
  | map domain codomain =>
    inspectNode .map "MapType" [("domain", domain.inspect), ("codomain", codomain.inspect)]
  | seq inner => inspectNode .seq "SeqType" [("inner", inner.inspect)]
  | tuple fields => inspectNode .tuple "TupleType" [("fields", inspectList (inspectAll fields))]
  | namedTuple fields =>
    inspectNode .namedTuple "NamedTupleType" [("fields", inspectList (inspectFields fields))]
  | leaf => nodeLabel leaf.kind

/-- The inspections of types. -/
def inspectAll : List Ty → List String
  | [] => []
  | type :: rest => type.inspect :: inspectAll rest

/-- The inspections of named fields. -/
def inspectFields : List (Field Ty) → List String
  | [] => []
  | ⟨name, type⟩ :: rest =>
    ("NamedField \x7b name: FieldName(" ++ Text.quote name.text ++ "), ty: " ++ type.inspect
      ++ " \x7d") :: inspectFields rest

end

end MachineTypes.Ty
