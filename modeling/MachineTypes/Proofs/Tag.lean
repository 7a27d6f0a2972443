import Mathlib.Algebra.Group.Nat.Defs
import Mathlib.Data.List.Induction
import MachineTypes.Tag

/-!
# `MachineTypes.Proofs.Tag`: tags, numbers and notations

A tag is four words, a number below `2 ^ 128` and a text of 35 characters, and each of the three
gives the other two. The first part reads the text and the second part the number.

`tag_is_number` is the main result. Both parts come down to lists of digits. In a text the digits
are hexadecimal and stand in groups of eight; in a number they are the words, to the base `2 ^ 32`.
A group of eight hexadecimal digits is one word, so the two systems meet at every fourth part of the
text (`readHex?_flatMap_digits`).

Nothing is assumed of a tag. A number has to be below `2 ^ 128` to come back from its tag: of a
greater one the tag keeps the lowest 128 bits.
-/

set_option autoImplicit false

namespace MachineTypes

/-! ## The notation of tags

A run of hexadecimal digits that is wide enough for a number reads as the number
(`readHex?_hexDigits`). The words of a tag all stand in groups of one width. So every tag has a
notation of one length, and no two tags have the same (`display_injective`).
-/

namespace Text

/-! ### Hexadecimal digits -/

/-- There are as many digits as the width says, whatever the number is. -/
theorem length_hexDigits (width n : Nat) : (hexDigits width n).length = width := by
  induction width generalizing n with
  | zero => rfl
  | succ width ih => rw [hexDigits, List.length_append, ih, List.length_singleton]

/-- A digit is read as the value that it is written for. There are sixteen, so each is tried. -/
theorem hexValue?_digitChar {digit : Nat} (small : digit < 16) :
    hexValue? (Nat.digitChar digit) = some digit := by
  have each : ∀ digit < 16, hexValue? (Nat.digitChar digit) = some digit := by decide
  exact each digit small

/-- The last digit counts once, and all before it sixteen times. -/
theorem readHex?_append_singleton (digits : List Char) (last : Char) :
    readHex? (digits ++ [last])
      = (readHex? digits).bind fun value => (hexValue? last).map (value * 16 + ·) := by
  simp [readHex?, List.foldlM_append]

/-- Digits that are written after others move the number of those to the left. -/
theorem readHex?_append_hexDigits {before : List Char} {value width n : Nat}
    (read : readHex? before = some value) (fits : n < 16 ^ width) :
    readHex? (before ++ hexDigits width n) = some (value * 16 ^ width + n) := by
  -- By induction on the width, for every number: without its last digit, the number is the quotient
  -- by sixteen.
  induction width generalizing n with
  | zero =>
    have zero : n = 0 := by simpa using fits
    rw [zero, hexDigits, List.append_nil, read, Nat.pow_zero, Nat.mul_one, Nat.add_zero]
  | succ width ih =>
    have fits' : n / 16 < 16 ^ width := by
      rw [Nat.pow_succ] at fits
      omega
    have last : n % 16 < 16 := Nat.mod_lt n (by omega)
    have shifted : (value * 16 ^ width + n / 16) * 16 + n % 16 = value * 16 ^ (width + 1) + n := by
      rw [Nat.pow_succ, ← Nat.mul_assoc]
      omega
    rw [hexDigits, ← List.append_assoc, readHex?_append_singleton, ih fits', Option.bind_some,
      hexValue?_digitChar last, Option.map_some, shifted]

/-- Digits read as the number they are written for, if there are enough of them. -/
theorem readHex?_hexDigits {width n : Nat} (fits : n < 16 ^ width) :
    readHex? (hexDigits width n) = some n := by
  have read := readHex?_append_hexDigits (show readHex? [] = some 0 from rfl) fits
  simpa using read

/-- Numbers that the width is enough for are told apart by their digits, since each can be read off
them. -/
theorem hexDigits_inj {width n n' : Nat} (fits : n < 16 ^ width) (fits' : n' < 16 ^ width) :
    hexDigits width n = hexDigits width n' ↔ n = n' := by
  constructor
  · intro same
    have read := congrArg readHex? same
    rw [readHex?_hexDigits fits, readHex?_hexDigits fits'] at read
    exact Option.some.inj read
  · rintro rfl
    rfl

end Text

namespace Tag

/-! ### Groups of digits -/

/-- The eight digits of a word. -/
def digits (word : UInt32) : List Char := Text.hexDigits 8 word.toNat

/-- Every word has eight digits, leading zeros included. -/
theorem length_digits (word : UInt32) : (digits word).length = 8 :=
  Text.length_hexDigits 8 word.toNat

/-- A word has 32 bits and eight hexadecimal digits hold as many, so no two words share their
digits. -/
theorem digits_injective : Function.Injective digits := by
  intro word word' same
  have fits : ∀ word : UInt32, word.toNat < 16 ^ 8 := fun word => word.toNat_lt
  exact UInt32.toNat_inj.mp ((Text.hexDigits_inj (fits word) (fits word')).mp same)

/-- A group of digits can be read off the front of a text. -/
theorem digits_append_inj {word word' : UInt32} {rest rest' : List Char}
    (same : digits word ++ rest = digits word' ++ rest') : word = word' ∧ rest = rest' := by
  have length : (digits word).length = (digits word').length := by
    rw [length_digits, length_digits]
  obtain ⟨sameDigits, sameRest⟩ := List.append_inj same length
  exact ⟨digits_injective sameDigits, sameRest⟩

/-- The characters of a notation: the digits of the four words, with a dash before each word but the
first. The empty rest at the end gives the last word the same form as the others. -/
theorem toList_display (tag : Tag) :
    tag.display.toList
      = digits tag.w0 ++ '-' :: (digits tag.w1 ++ '-' :: (digits tag.w2 ++ '-' ::
          (digits tag.w3 ++ []))) := by
  simp [display, words, Text.hexFixed, digits]

/-- Four groups of eight digits and three dashes. -/
theorem length_toList_display (tag : Tag) : tag.display.toList.length = 35 := by
  simp [toList_display, length_digits]

/-- Different tags have different notations. -/
theorem display_injective : Function.Injective display := by
  intro tag tag' same
  have same := congrArg String.toList same
  rw [toList_display, toList_display] at same
  obtain ⟨w0, same⟩ := digits_append_inj same
  obtain ⟨w1, same⟩ := digits_append_inj (List.tail_eq_of_cons_eq same)
  obtain ⟨w2, same⟩ := digits_append_inj (List.tail_eq_of_cons_eq same)
  obtain ⟨w3, -⟩ := digits_append_inj (List.tail_eq_of_cons_eq same)
  cases tag
  cases tag'
  rw [Tag.mk.injEq]
  exact ⟨w0, w1, w2, w3⟩

end Tag

/-! ## Tags are 128-bit numbers

A tag and a number below `2 ^ 128` are two ways to write one thing. The words are the digits of the
number to the base `2 ^ 32`, so everything about the number is a statement about a list of digits:

* `spell_lt`: so many words spell a number of so many times 32 bits. Nothing leaves the top of 128
  bits, and 128-bit arithmetic gives the number itself (`toBitVec_eq`).
* `spell_lt_spell_iff`: lists of one length are ordered like the numbers they spell.
* `readHex?_flatMap_digits`: the hexadecimal digits of all words are those of the number.

`tag_is_number` puts these together with the two round trips.
-/

namespace Text

/-- What is written for a number below sixteen is one of the sixteen digits. -/
theorem isHexDigit_digitChar {digit : Nat} (small : digit < 16) :
    IsHexDigit (Nat.digitChar digit) := by
  have each : ∀ digit < 16, Nat.digitChar digit ∈ "0123456789abcdef".toList := by decide
  exact each digit small

/-- Nothing but digits is written for a number, also where the width is not enough for it. -/
theorem isHexDigit_of_mem_hexDigits {width n : Nat} {c : Char} (mem : c ∈ hexDigits width n) :
    IsHexDigit c := by
  induction width generalizing n with
  | zero => cases mem
  | succ width ih =>
    rw [hexDigits, List.mem_append, List.mem_singleton] at mem
    cases mem with
    | inl earlier => exact ih earlier
    | inr last =>
      rw [last]
      exact isHexDigit_digitChar (by omega)

/-- The dash is no digit, so it marks where a group ends. -/
theorem IsHexDigit.ne_dash {c : Char} (digit : IsHexDigit c) : c ≠ '-' := by
  rintro rfl
  exact absurd digit (by decide)

end Text

namespace Tag

/-! ### Words as digits -/

/-- The number that words spell after a number that has been read already. -/
def spell (value : Nat) (words : List UInt32) : Nat :=
  words.foldl (fun value word => (value <<< 32) ||| word.toNat) value

/-- The bits of a word do not meet those that were shifted to the left. -/
theorem shiftLeft_or_word (value : Nat) (word : UInt32) :
    (value <<< 32) ||| word.toNat = value * 2 ^ 32 + word.toNat := by
  rw [← Nat.shiftLeft_add_eq_or_of_lt word.toNat_lt, Nat.shiftLeft_eq]

/-- Reading a word moves what was read before by 32 bits and adds the word. -/
theorem spell_cons (value : Nat) (word : UInt32) (rest : List UInt32) :
    spell value (word :: rest) = spell (value * 2 ^ 32 + word.toNat) rest := by
  rw [← shiftLeft_or_word]
  rfl

/-- The last word counts once, and all before it as often as a word has values. -/
theorem spell_concat (words : List UInt32) (last : UInt32) :
    spell 0 (words ++ [last]) = spell 0 words * 2 ^ 32 + last.toNat := by
  rw [← shiftLeft_or_word, spell, List.foldl_append]
  rfl

/-- What was read before counts once more for each word. -/
theorem spell_eq (value : Nat) (words : List UInt32) :
    spell value words = value * 2 ^ (32 * words.length) + spell 0 words := by
  -- For every value read before. The first word joins that value, so the hypothesis is used twice:
  -- for the sum, and for the word alone.
  induction words generalizing value with
  | nil => simp [spell]
  | cons word rest ih =>
    have width : 2 ^ (32 * (rest.length + 1)) = 2 ^ 32 * 2 ^ (32 * rest.length) := by
      rw [← Nat.pow_add]
      congr 1
      omega
    rw [spell_cons, spell_cons, ih, ih (0 * 2 ^ 32 + word.toNat), List.length_cons, width]
    simp only [Nat.add_mul, Nat.mul_assoc, Nat.zero_mul, Nat.zero_add, Nat.add_assoc]

/-- The first word is the digit of the greatest weight. -/
theorem spell_zero_cons (word : UInt32) (rest : List UInt32) :
    spell 0 (word :: rest) = word.toNat * 2 ^ (32 * rest.length) + spell 0 rest := by
  rw [spell_cons, Nat.zero_mul, Nat.zero_add, spell_eq]

/-- So many words spell a number of so many times 32 bits. The words after the first make up for
less than one unit of the first. -/
theorem spell_lt (words : List UInt32) : spell 0 words < 2 ^ (32 * words.length) := by
  induction words with
  | nil => decide
  | cons word rest ih =>
    have digit : word.toNat + 1 ≤ 2 ^ 32 := word.toNat_lt
    calc spell 0 (word :: rest)
        = word.toNat * 2 ^ (32 * rest.length) + spell 0 rest := spell_zero_cons word rest
      _ < word.toNat * 2 ^ (32 * rest.length) + 2 ^ (32 * rest.length) := by omega
      _ = (word.toNat + 1) * 2 ^ (32 * rest.length) := by rw [Nat.add_mul, Nat.one_mul]
      _ ≤ 2 ^ 32 * 2 ^ (32 * rest.length) := Nat.mul_le_mul_right _ digit
      _ = 2 ^ (32 * (word :: rest).length) := by
        rw [← Nat.pow_add, List.length_cons]
        congr 1
        omega

/-- Of two numbers with one place to the right of their first digits, the first digit decides, and
the rest decides only between equal first digits. -/
theorem digit_add_lt_iff {place digit digit' rest rest' : Nat} (lower : rest < place)
    (lower' : rest' < place) :
    digit * place + rest < digit' * place + rest' ↔
      digit < digit' ∨ digit = digit' ∧ rest < rest' := by
  rcases Nat.lt_trichotomy digit digit' with less | same | greater
  · have step : (digit + 1) * place ≤ digit' * place := Nat.mul_le_mul_right place less
    rw [Nat.add_mul, Nat.one_mul] at step
    omega
  · subst same
    omega
  · have step : (digit' + 1) * place ≤ digit * place := Nat.mul_le_mul_right place greater
    rw [Nat.add_mul, Nat.one_mul] at step
    omega

/-- Lists of words of one length are ordered like the numbers that they spell. -/
theorem spell_lt_spell_iff {words words' : List UInt32} (length : words.length = words'.length) :
    spell 0 words < spell 0 words' ↔ words < words' := by
  -- Both lists lose their first word. The lengths stay equal, so the first words stand at the same
  -- place and decide, unless they are equal.
  induction words generalizing words' with
  | nil =>
    cases words' with
    | nil => simp [spell]
    | cons => simp at length
  | cons word rest ih =>
    cases words' with
    | nil => simp at length
    | cons word' rest' =>
      have restLength : rest.length = rest'.length := by simpa using length
      have lower : spell 0 rest < 2 ^ (32 * rest'.length) := restLength ▸ spell_lt rest
      rw [spell_zero_cons, spell_zero_cons, restLength, digit_add_lt_iff lower (spell_lt rest'),
        ih restLength, List.cons_lt_cons_iff, UInt32.lt_iff_toNat_lt, UInt32.toNat_inj]

/-! ### The number of a tag -/

/-- The number of a tag is what its four words spell, from left to right. -/
theorem toNat_eq_spell (tag : Tag) : tag.toNat = spell 0 tag.words := rfl

/-- No tag has more than 128 bits. -/
theorem toNat_lt (tag : Tag) : tag.toNat < 2 ^ 128 := spell_lt tag.words

/-- The number, digit by digit. -/
theorem toNat_eq (tag : Tag) :
    tag.toNat = tag.w0.toNat * 2 ^ 96 + tag.w1.toNat * 2 ^ 64 + tag.w2.toNat * 2 ^ 32
      + tag.w3.toNat := by
  simp only [toNat_eq_spell, words, spell_zero_cons, List.length_cons, List.length_nil]
  simp [spell, Nat.add_assoc]

/-- 128-bit arithmetic is arithmetic on numbers, as far as 128 bits hold them. -/
theorem foldl_bitVec (value : Nat) (words : List UInt32) :
    words.foldl (fun (bits : BitVec 128) word => (bits <<< 32) ||| word.toBitVec.setWidth 128)
        (BitVec.ofNat 128 value)
      = BitVec.ofNat 128 (spell value words) := by
  induction words generalizing value with
  | nil => rfl
  | cons word rest ih =>
    -- One step of the 128-bit loop is the step of the number, taken modulo `2 ^ 128` on both sides.
    have digit : (BitVec.ofNat 128 value <<< 32) ||| word.toBitVec.setWidth 128
        = BitVec.ofNat 128 (value * 2 ^ 32 + word.toNat) := by
      rw [← shiftLeft_or_word]
      refine BitVec.eq_of_toNat_eq ?_
      simp [Nat.shiftLeft_eq]
    rw [List.foldl_cons, digit, ih, spell_cons]

/-- In 128 bits no bit of the number is lost. -/
theorem toBitVec_eq (tag : Tag) : tag.toBitVec = BitVec.ofNat 128 tag.toNat :=
  foldl_bitVec 0 tag.words

/-- A number of at most 128 bits comes back from its tag. The four words are its digits to the base
`2 ^ 32`, and a fifth digit would be lost. -/
theorem toNat_ofNat {value : Nat} (fits : value < 2 ^ 128) : (ofNat value).toNat = value := by
  -- What is left is arithmetic: the sum of the four digits, each taken modulo `2 ^ 32`, is the
  -- number.
  simp only [toNat_eq, ofNat, UInt32.toNat_ofNat', Nat.shiftRight_eq_div_pow]
  omega

/-- A tag comes back from its number: each word is cut out of the number at its own place. -/
theorem ofNat_toNat (tag : Tag) : ofNat tag.toNat = tag := by
  -- The bounds on the words are all that is needed to cut each of them out of the sum.
  have h0 := tag.w0.toNat_lt
  have h1 := tag.w1.toNat_lt
  have h2 := tag.w2.toNat_lt
  have h3 := tag.w3.toNat_lt
  cases tag
  simp only [ofNat, toNat_eq, Tag.mk.injEq, ← UInt32.toNat_inj, UInt32.toNat_ofNat',
    Nat.shiftRight_eq_div_pow] at *
  omega

/-- Different tags have different numbers. -/
theorem toNat_injective : Function.Injective toNat := by
  intro tag tag' same
  rw [← ofNat_toNat tag, same, ofNat_toNat]

/-- The absent tag is the one with the number zero, and there is no other. -/
theorem isAbsent_iff (tag : Tag) : tag.isAbsent ↔ tag.toNat = 0 := by
  have zero : absent.toNat = 0 := rfl
  rw [isAbsent, decide_eq_true_eq, ← zero, toNat_injective.eq_iff]

/-! ### The notation -/

/-- The text is four groups of eight hexadecimal digits, joined by dashes. -/
def FourGroups (text : String) : Prop :=
  ∃ groups : List String, text = "-".intercalate groups ∧ groups.length = 4 ∧
    ∀ group ∈ groups, group.length = 8 ∧ ∀ c ∈ group.toList, Text.IsHexDigit c

/-- The notation of every tag has the form that is documented for it. -/
theorem fourGroups_display (tag : Tag) : FourGroups tag.display := by
  refine ⟨_, rfl, rfl, List.forall_mem_map.mpr fun word _ => ?_⟩
  show (Text.hexFixed 8 word.toNat).length = 8 ∧ _
  simp only [Text.hexFixed, String.toList_ofList, String.length_ofList]
  exact ⟨length_digits word, fun c mem => Text.isHexDigit_of_mem_hexDigits mem⟩

/-- Leaving out the dashes of a text leaves out nothing of a group of digits. -/
theorem filter_digits (word : UInt32) : (digits word).filter (· != '-') = digits word := by
  rw [List.filter_eq_self]
  intro c mem
  simpa using (Text.isHexDigit_of_mem_hexDigits mem).ne_dash

/-- Without its dashes, the notation is the digits of the words. -/
theorem filter_display (tag : Tag) :
    tag.display.toList.filter (· != '-') = tag.words.flatMap digits := by
  simp [toList_display, filter_digits, words]

/-- The digits of words, one after the other, are the digits of the number they spell. -/
theorem readHex?_flatMap_digits (words : List UInt32) :
    Text.readHex? (words.flatMap digits) = some (spell 0 words) := by
  -- From the right, because a reader that goes on multiplies what it has: the last word is the one
  -- that is added as it is.
  induction words using List.reverseRecOn with
  | nil => rfl
  | append_singleton before last ih =>
    have fits : last.toNat < 16 ^ 8 := last.toNat_lt
    have width : 16 ^ 8 = 2 ^ 32 := by decide
    rw [List.flatMap_append, List.flatMap_singleton, digits,
      Text.readHex?_append_hexDigits ih fits, spell_concat, width]

/-- Tags and numbers below `2 ^ 128` correspond one to one. Both round trips give back what they
began with, and the number is the same in 128-bit arithmetic. The words are ordered like the
numbers, and only the absent tag is zero. The notation is four groups of digits that read, without
the dashes, as the number, so different tags have different notations. -/
theorem tag_is_number :
    (∀ value < 2 ^ 128, (ofNat value).toNat = value) ∧
    (∀ tag, (ofNat (toNat tag)).words = tag.words) ∧
    (∀ tag, toNat tag < 2 ^ 128 ∧ tag.toBitVec = BitVec.ofNat 128 tag.toNat) ∧
    (∀ tag tag', words tag < words tag' ↔ tag.toNat < tag'.toNat) ∧
    (∀ tag, isAbsent tag ↔ tag.toNat = 0) ∧
    (∀ tag, (display tag).length = 35 ∧ FourGroups tag.display ∧
      Text.readHex? (tag.display.toList.filter (· != '-')) = some tag.toNat) ∧
    Function.Injective display := by
  refine ⟨fun value fits => toNat_ofNat fits, ?_, ?_, ?_, isAbsent_iff, ?_, display_injective⟩
  · intro tag
    rw [ofNat_toNat]
  · intro tag
    exact ⟨tag.toNat_lt, tag.toBitVec_eq⟩
  · intro tag tag'
    have length : tag.words.length = tag'.words.length := rfl
    rw [toNat_eq_spell, toNat_eq_spell, spell_lt_spell_iff length]
  · intro tag
    refine ⟨?_, tag.fourGroups_display, ?_⟩
    · rw [← String.length_toList, length_toList_display]
    · rw [filter_display, readHex?_flatMap_digits, toNat_eq_spell]

/-- A number with a zero word and with digits that are zero comes back, and its notation has all the
zeros. -/
theorem tag_is_number_zeros :
    2 ^ 96 + 2 ^ 32 * 0xf00 + 0xabc < 2 ^ 128 ∧
      (ofNat (2 ^ 96 + 2 ^ 32 * 0xf00 + 0xabc)).toNat = 2 ^ 96 + 2 ^ 32 * 0xf00 + 0xabc ∧
      (ofNat (2 ^ 96 + 2 ^ 32 * 0xf00 + 0xabc)).display
        = "00000001-00000000-00000f00-00000abc" :=
  ⟨by decide, tag_is_number.1 (2 ^ 96 + 2 ^ 32 * 0xf00 + 0xabc) (by decide), by decide⟩

end Tag

end MachineTypes
