import MachineTypes.Text.Unicode

/-!
# `MachineTypes.Text.Notation`: numbers and quoted texts

How numbers and texts stand in messages and inspections: numbers in lowercase hexadecimal, and texts
between double quotes with everything escaped that would not show as itself.
-/

set_option autoImplicit false

namespace MachineTypes.Text

/-! ## Hexadecimal text

Two ways to write a number in lowercase hexadecimal: with the fewest digits, and with a fixed
number of digits. `readHex` is the other direction.
-/

/-- The number in hexadecimal with the fewest digits; zero is `0`. -/
def hex (n : Nat) : String :=
  String.ofList (Nat.toDigits 16 n)

/-- The last `width` hexadecimal digits of the number, most significant first, with leading
zeros. -/
def hexDigits : Nat → Nat → List Char
  | 0, _ => []
  | width + 1, n => hexDigits width (n / 16) ++ [Nat.digitChar (n % 16)]

/-- The number as exactly `width` hexadecimal digits. -/
def hexFixed (width n : Nat) : String :=
  String.ofList (hexDigits width n)

/-- The character is a lowercase hexadecimal digit. -/
def IsHexDigit (c : Char) : Prop := c ∈ "0123456789abcdef".toList

instance (c : Char) : Decidable (IsHexDigit c) :=
  inferInstanceAs (Decidable (_ ∈ _))

/-- The value of one lowercase hexadecimal digit. -/
def hexValue? (c : Char) : Option Nat :=
  if '0' ≤ c ∧ c ≤ '9' then some (c.toNat - '0'.toNat)
  else if 'a' ≤ c ∧ c ≤ 'f' then some (c.toNat - 'a'.toNat + 10)
  else none

/-- The number that a run of lowercase hexadecimal digits denotes, most significant first. -/
def readHex? (digits : List Char) : Option Nat :=
  digits.foldlM (fun value c => (hexValue? c).map (value * 16 + ·)) 0

/-! ## Text in quotation marks

A quoted text stands between double quotes on one line. The double quote and the backslash take
a backslash; tab, carriage return, line feed and NUL have short escapes. A character that does
not show by itself is named by its number. Single quotes stay as they are.
-/

/-- A character named by its number, in lowercase hexadecimal between braces. -/
def escapeByNumber (c : Char) : String :=
  "\\u\x7b" ++ hex c.toNat ++ "\x7d"

/-- One character as it stands inside double quotes. -/
def escapeChar (c : Char) : String :=
  if c = '\x00' then "\\0"
  else if c = '\t' then "\\t"
  else if c = '\n' then "\\n"
  else if c = '\r' then "\\r"
  else if c = '"' then "\\\""
  else if c = '\\' then "\\\\"
  -- An extending mark is printable, but inside quotes it would change the character before it.
  else if isExtendingMark c || !isPrintable c then escapeByNumber c
  else c.toString

/-- The text between double quotes, with everything escaped that would not show as itself. -/
def quote (text : String) : String :=
  "\"" ++ String.join (text.toList.map escapeChar) ++ "\""

end MachineTypes.Text
