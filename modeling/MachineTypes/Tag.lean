import MachineTypes.Text.Notation

/-!
# `MachineTypes.Tag`: the identity of a foreign type

A tag is a 128-bit number, held as four 32-bit words with the most significant word first. The
tag with all bits clear belongs to the absent type. `ofNat` and `toNat` go between tags and
numbers below `2 ^ 128`.
-/

set_option autoImplicit false

namespace MachineTypes

/-- A 128-bit tag: four words, most significant first. -/
structure Tag where
  w0 : UInt32
  w1 : UInt32
  w2 : UInt32
  w3 : UInt32
  deriving DecidableEq, Repr

namespace Tag

/-- The tag of the absent type. -/
def absent : Tag := ⟨0, 0, 0, 0⟩

/-- Whether this is the tag of the absent type. -/
def isAbsent (tag : Tag) : Bool := tag = absent

/-- The four words, most significant first. -/
def words (tag : Tag) : List UInt32 := [tag.w0, tag.w1, tag.w2, tag.w3]

/-- The number the words spell, each word being one digit of 32 bits. -/
def toNat (tag : Tag) : Nat :=
  tag.words.foldl (fun value word => (value <<< 32) ||| word.toNat) 0

/-- The same number in 128-bit arithmetic, where a shift drops the bits that leave the top. -/
def toBitVec (tag : Tag) : BitVec 128 :=
  tag.words.foldl (fun value word => (value <<< 32) ||| word.toBitVec.setWidth 128) 0

/-- The tag of a number. Only the lowest 128 bits count. -/
def ofNat (value : Nat) : Tag where
  w0 := UInt32.ofNat (value >>> 96)
  w1 := UInt32.ofNat (value >>> 64)
  w2 := UInt32.ofNat (value >>> 32)
  w3 := UInt32.ofNat value

/-- Four groups of eight hexadecimal digits, joined by dashes. -/
def display (tag : Tag) : String :=
  "-".intercalate (tag.words.map fun word => Text.hexFixed 8 word.toNat)

instance : ToString Tag := ⟨display⟩

end Tag

end MachineTypes
