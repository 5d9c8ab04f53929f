import Mathlib.Data.List.Basic

/-! UTF-8 as far as programs rely on it: a character below 128 is its own byte,
all other bytes are above, and no two texts have the same bytes. So an ASCII
character is found in the bytes exactly where it is in the text. -/

set_option autoImplicit false

namespace Foundation

def utf8 (text : List Char) : List UInt8 := text.flatMap String.utf8EncodeChar

def codeByte (character : Char) : UInt8 := UInt8.ofNat character.toNat

@[simp] theorem utf8_nil : utf8 [] = [] := rfl

@[simp] theorem utf8_append (first last : List Char) : utf8 (first ++ last) = utf8 first ++ utf8 last :=
  List.flatMap_append

theorem utf8_cons (character : Char) (text : List Char) :
    utf8 (character :: text) = String.utf8EncodeChar character ++ utf8 text := List.flatMap_cons

theorem utf8_flatMap {Part : Type} (parts : List Part) (text : Part → List Char) :
    utf8 (parts.flatMap text) = parts.flatMap fun part => utf8 (text part) := List.flatMap_assoc

theorem utf8EncodeChar_ascii {character : Char} (ascii : character.toNat < 128) :
    String.utf8EncodeChar character = [codeByte character] := by
  have within : character.val.toNat ≤ 0x7f := Nat.le_of_lt_succ ascii
  simp only [String.utf8EncodeChar, if_pos within]
  rfl

theorem utf8EncodeChar_high {character : Char} (high : 128 ≤ character.toNat) :
    ∀ byte ∈ String.utf8EncodeChar character, 128 ≤ byte.toNat := by
  have beyond : ¬ character.val.toNat ≤ 0x7f := Nat.not_le_of_lt high
  unfold String.utf8EncodeChar
  simp only [if_neg beyond]
  split_ifs
  all_goals
    simp
    omega

theorem utf8_injective {first last : List Char} (same : utf8 first = utf8 last) : first = last := by
  have encoded : first.utf8Encode = last.utf8Encode := congrArg List.toByteArray same
  exact String.ofList_injective (String.toByteArray_inj.mp (by simpa using encoded))

theorem utf8_ne_nil {text : List Char} (nonempty : text ≠ []) : utf8 text ≠ [] :=
  fun empty => nonempty (utf8_injective empty)

/-- An ASCII byte among the bytes is an ASCII character of the text. -/
theorem utf8_eq_append_cons {text : List Char} {front back : List UInt8} {byte : UInt8}
    (ascii : byte.toNat < 128) (layout : utf8 text = front ++ byte :: back) :
    ∃ first character last, text = first ++ character :: last ∧ utf8 first = front ∧
      character.toNat < 128 ∧ codeByte character = byte ∧ utf8 last = back := by
  induction text generalizing front with
  | nil => simp at layout
  | cons character text ih =>
      rw [utf8_cons] at layout
      have inner : ∀ front, utf8 text = front ++ byte :: back →
          ∃ first other last, character :: text = first ++ other :: last ∧
            utf8 first = String.utf8EncodeChar character ++ front ∧ other.toNat < 128 ∧
            codeByte other = byte ∧ utf8 last = back := by
        intro front layout
        obtain ⟨first, other, last, rfl, rfl, small, same, rfl⟩ := ih layout
        exact ⟨character :: first, other, last, rfl, utf8_cons .., small, same, rfl⟩
      by_cases small : character.toNat < 128
      · rw [utf8EncodeChar_ascii small] at layout inner
        cases front with
        | nil =>
            obtain ⟨same, rest⟩ := List.cons.inj layout
            exact ⟨[], character, text, rfl, rfl, small, same, rest⟩
        | cons head front =>
            obtain ⟨rfl, rest⟩ := List.cons.inj layout
            exact inner front rest
      · have high := utf8EncodeChar_high (Nat.le_of_not_lt small)
        rcases List.append_eq_append_iff.mp layout with ⟨more, rfl, rest⟩ | ⟨more, split, rest⟩
        · exact inner more rest
        · cases more with
          | nil =>
              rw [List.append_nil] at split
              obtain ⟨first, other, last, same⟩ := inner [] rest.symm
              exact ⟨first, other, last, by rw [← split]; simpa using same⟩
          | cons head more =>
              -- The byte would be one of a character that is not ASCII.
              obtain ⟨rfl, -⟩ := List.cons.inj rest
              have inside := high byte (by rw [split]; simp)
              omega

theorem utf8_ascii {text : List Char} (ascii : ∀ character ∈ text, character.toNat < 128) :
    utf8 text = text.map codeByte := by
  induction text with
  | nil => rfl
  | cons character text ih =>
      rw [utf8_cons, utf8EncodeChar_ascii (ascii character (List.mem_cons_self ..)),
        ih fun other inside => ascii other (List.mem_cons_of_mem _ inside)]
      rfl

theorem toNat_codeByte {character : Char} (ascii : character.toNat < 128) :
    (codeByte character).toNat = character.toNat := by
  rw [codeByte, UInt8.toNat_ofNat']
  omega

private theorem codeByte_injective {first last : Char} (firstAscii : first.toNat < 128)
    (lastAscii : last.toNat < 128) (same : codeByte first = codeByte last) : first = last := by
  have codes := congrArg UInt8.toNat same
  rw [toNat_codeByte firstAscii, toNat_codeByte lastAscii] at codes
  exact Char.toNat_inj.mp codes

theorem codeByte_mem_utf8 {character : Char} (ascii : character.toNat < 128) {text : List Char} :
    codeByte character ∈ utf8 text ↔ character ∈ text := by
  constructor
  · intro inside
    obtain ⟨front, back, layout⟩ := List.append_of_mem inside
    have small : (codeByte character).toNat < 128 := by rwa [toNat_codeByte ascii]
    obtain ⟨first, other, last, rfl, -, otherAscii, same, -⟩ := utf8_eq_append_cons small layout
    rw [codeByte_injective otherAscii ascii same]
    simp
  · intro inside
    obtain ⟨first, last, rfl⟩ := List.append_of_mem inside
    rw [utf8_append, utf8_cons, utf8EncodeChar_ascii ascii]
    simp

end Foundation
