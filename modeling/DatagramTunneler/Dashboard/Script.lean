import DatagramTunneler.Foundation.Utf8
import DatagramTunneler.Text

/-! The part of JavaScript's strings that the dashboard uses on configurations. A
string is its characters; what leaves the dashboard leaves it in UTF-8. -/

set_option autoImplicit false

namespace DatagramTunneler

open Foundation

abbrev JsString := List Char

def js (literal : String) : JsString := literal.toList

namespace Script

def isLineTerminator (character : Char) : Bool :=
  [0x0a, 0x0d, 0x2028, 0x2029].contains character.toNat

/-- What `trim` removes and `\s` matches. -/
def isWhiteSpace (character : Char) : Bool :=
  isLineTerminator character || [0x09, 0x0b, 0x0c, 0x20, 0xa0, 0x1680, 0x202f, 0x205f, 0x3000,
    0xfeff].contains character.toNat || (0x2000 ≤ character.toNat && character.toNat ≤ 0x200a)

def trim (value : JsString) : JsString :=
  ((value.dropWhile isWhiteSpace).reverse.dropWhile isWhiteSpace).reverse

/-- `\d`. -/
def isDigit (character : Char) : Bool := '0' ≤ character && character ≤ '9'

/-- `[A-Za-z0-9_-]`. -/
def isAliasCharacter (character : Char) : Bool :=
  isDigit character || ('a' ≤ character && character ≤ 'z') || ('A' ≤ character && character ≤ 'Z') ||
    character == '_' || character == '-'

/-! ## Bytes of characters -/

theorem le_of_char_le {first last : Char} (le : first ≤ last) : first.toNat ≤ last.toNat :=
  UInt32.le_iff_toNat_le.mp (Char.le_def.mp le)

private theorem codeByte_range {first last character : Char} (ascii : last.toNat < 128)
    (inside : (first ≤ character && character ≤ last) = true) :
    character.toNat < 128 ∧ (byteOf first ≤ codeByte character && codeByte character ≤ byteOf last) = true := by
  simp only [Bool.and_eq_true, decide_eq_true_eq] at inside ⊢
  have low := le_of_char_le inside.1
  have high := le_of_char_le inside.2
  have small : character.toNat < 128 := Nat.lt_of_le_of_lt high ascii
  have lowByte : (byteOf first).toNat = first.toNat := toNat_codeByte (Nat.lt_of_le_of_lt low small)
  have highByte : (byteOf last).toNat = last.toNat := toNat_codeByte ascii
  refine ⟨small, UInt8.le_iff_toNat_le.mpr ?_, UInt8.le_iff_toNat_le.mpr ?_⟩
  · rwa [toNat_codeByte small, lowByte]
  · rwa [toNat_codeByte small, highByte]

theorem isdigit_of_isDigit {character : Char} (digit : isDigit character = true) :
    character.toNat < 128 ∧ isdigit (codeByte character) = true :=
  codeByte_range (by decide) digit

theorem isDigit_of_isdigit {character : Char} (digits : ∀ byte ∈ String.utf8EncodeChar character,
    isdigit byte = true) : isDigit character = true := by
  have zero : (byteOf '0').toNat = 48 := by decide
  have nine : (byteOf '9').toNat = 57 := by decide
  by_cases small : character.toNat < 128
  · have digit := digits (codeByte character) (by rw [utf8EncodeChar_ascii small]; simp)
    simp only [isdigit, Bool.and_eq_true, decide_eq_true_eq, UInt8.le_iff_toNat_le,
      toNat_codeByte small, zero, nine] at digit
    simp only [isDigit, Bool.and_eq_true, decide_eq_true_eq, Char.le_def, UInt32.le_iff_toNat_le]
    exact digit
  · obtain ⟨byte, bytes, shape⟩ := List.exists_cons_of_ne_nil (String.utf8EncodeChar_ne_nil (c := character))
    have high := utf8EncodeChar_high (Nat.le_of_not_lt small) byte (by simp [shape])
    have digit := digits byte (by simp [shape])
    simp only [isdigit, Bool.and_eq_true, decide_eq_true_eq, UInt8.le_iff_toNat_le, nine] at digit
    omega

theorem isalnum_of_isAliasCharacter {character : Char} (accepted : isAliasCharacter character = true) :
    character.toNat < 128 ∧ (isalnum (codeByte character) || codeByte character == byteOf '-' ||
      codeByte character == byteOf '_') = true := by
  simp only [isAliasCharacter, Bool.or_eq_true, beq_iff_eq] at accepted
  rcases accepted with (((digit | lower) | upper) | rfl) | rfl
  · obtain ⟨small, digit⟩ := isdigit_of_isDigit digit
    exact ⟨small, by simp [isalnum, digit]⟩
  · obtain ⟨small, lower⟩ := codeByte_range (by decide) lower
    exact ⟨small, by rw [isalnum, lower]; simp⟩
  · obtain ⟨small, upper⟩ := codeByte_range (by decide) upper
    exact ⟨small, by rw [isalnum, upper]; simp⟩
  · decide
  · decide

theorem isdigit_utf8 {digits : JsString} (decimal : digits.all isDigit = true) :
    ∀ byte ∈ utf8 digits, isdigit byte = true := by
  have each := fun digit inside => isdigit_of_isDigit (List.all_eq_true.mp decimal digit inside)
  rw [utf8_ascii fun digit inside => (each digit inside).1]
  intro byte inside
  obtain ⟨digit, listed, rfl⟩ := List.mem_map.mp inside
  exact (each digit listed).2

end Script

end DatagramTunneler
