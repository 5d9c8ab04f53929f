import Mathlib.Data.List.Basic

/-! The base 64 encoding with padding, and the decoding that inverts it. -/

set_option autoImplicit false

namespace Foundation.Base64

/-- The alphabet: capitals, small letters, digits, plus and slash. -/
def character (sextet : BitVec 6) : UInt8 :=
  let value := UInt8.ofNat sextet.toNat
  if value < 26 then 'A'.toUInt8 + value
  else if value < 52 then 'a'.toUInt8 + (value - 26)
  else if value < 62 then '0'.toUInt8 + (value - 52)
  else if value = 62 then '+'.toUInt8
  else '/'.toUInt8

def padding : UInt8 := '='.toUInt8

/-- The four characters of a group of 24 bits. -/
def group (bits : BitVec 24) : List UInt8 :=
  [character (bits.extractLsb' 18 6), character (bits.extractLsb' 12 6),
    character (bits.extractLsb' 6 6), character (bits.extractLsb' 0 6)]

/-- Groups of three bytes; the last one is filled up with zero bits. -/
def encode : List UInt8 → List UInt8
  | [] => []
  | [first] => (group (first.toBitVec ++ 0#16)).take 2 ++ [padding, padding]
  | [first, second] =>
      (group (first.toBitVec ++ second.toBitVec ++ 0#8)).take 3 ++ [padding]
  | first :: second :: third :: rest =>
      group (first.toBitVec ++ second.toBitVec ++ third.toBitVec) ++ encode rest

/-- The sextet that a character stands for. -/
def value (byte : UInt8) : Option (BitVec 6) :=
  if 'A'.toUInt8 ≤ byte ∧ byte ≤ 'Z'.toUInt8 then some (.ofNat 6 (byte - 'A'.toUInt8).toNat)
  else if 'a'.toUInt8 ≤ byte ∧ byte ≤ 'z'.toUInt8 then
    some (.ofNat 6 (byte - 'a'.toUInt8 + 26).toNat)
  else if '0'.toUInt8 ≤ byte ∧ byte ≤ '9'.toUInt8 then
    some (.ofNat 6 (byte - '0'.toUInt8 + 52).toNat)
  else if byte = '+'.toUInt8 then some 62
  else if byte = '/'.toUInt8 then some 63
  else none

/-- The bytes of a group of 24 bits. -/
def bytes (bits : BitVec 24) : List UInt8 :=
  [⟨bits.extractLsb' 16 8⟩, ⟨bits.extractLsb' 8 8⟩, ⟨bits.extractLsb' 0 8⟩]

/-- A last group with padding has two characters or three in front of it. -/
def decode : List UInt8 → Option (List UInt8)
  | [] => some []
  | [first, second, third, fourth] => do
      let a ← value first
      let b ← value second
      if third = padding ∧ fourth = padding then
        return (bytes (a ++ b ++ 0#12)).take 1
      let c ← value third
      if fourth = padding then
        return (bytes (a ++ b ++ c ++ 0#6)).take 2
      let d ← value fourth
      return bytes (a ++ b ++ c ++ d)
  | first :: second :: third :: fourth :: rest => do
      let a ← value first
      let b ← value second
      let c ← value third
      let d ← value fourth
      let tail ← decode rest
      return bytes (a ++ b ++ c ++ d) ++ tail
  | _ => none

private theorem value_character (sextet : BitVec 6) : value (character sextet) = some sextet := by
  revert sextet
  decide

private theorem character_ne_padding (sextet : BitVec 6) : character sextet ≠ padding := by
  revert sextet
  decide

/-- The sextets of a group, put together again from the first one on. -/
theorem sextets_append (bits : BitVec 24) :
    bits.extractLsb' 18 6 ++ bits.extractLsb' 12 6 ++ bits.extractLsb' 6 6 ++
      bits.extractLsb' 0 6 = bits := by
  have two : bits.extractLsb' 18 6 ++ bits.extractLsb' 12 6 = bits.extractLsb' 12 12 :=
    BitVec.extractLsb'_append_extractLsb'_eq_extractLsb' rfl
  have three : bits.extractLsb' 12 12 ++ bits.extractLsb' 6 6 = bits.extractLsb' 6 18 :=
    BitVec.extractLsb'_append_extractLsb'_eq_extractLsb' rfl
  have four : bits.extractLsb' 6 18 ++ bits.extractLsb' 0 6 = bits.extractLsb' 0 24 :=
    BitVec.extractLsb'_append_extractLsb'_eq_extractLsb' rfl
  rw [two, three, four, BitVec.extractLsb'_eq_self]

private theorem bytes_append (first second third : UInt8) :
    bytes (first.toBitVec ++ second.toBitVec ++ third.toBitVec) = [first, second, third] := by
  have high : (first.toBitVec ++ second.toBitVec ++ third.toBitVec).extractLsb' 16 8 =
      first.toBitVec := by
    rw [BitVec.extractLsb'_append_eq_of_le (by decide)]
    exact BitVec.extractLsb'_append_eq_left
  have middle : (first.toBitVec ++ second.toBitVec ++ third.toBitVec).extractLsb' 8 8 =
      second.toBitVec := by
    rw [BitVec.extractLsb'_append_eq_of_le (by decide)]
    exact BitVec.extractLsb'_append_eq_right
  have low : (first.toBitVec ++ second.toBitVec ++ third.toBitVec).extractLsb' 0 8 =
      third.toBitVec := BitVec.extractLsb'_append_eq_right
  rw [bytes, high, middle, low]

private theorem decode_group (bits : BitVec 24) (tail : List UInt8) :
    decode (group bits ++ tail) = (decode tail).map (bytes bits ++ ·) := by
  have apart := character_ne_padding (bits.extractLsb' 6 6)
  have last := character_ne_padding (bits.extractLsb' 0 6)
  cases tail with
  | nil =>
      simp only [group, List.append_nil, decode, value_character, Option.bind_eq_bind,
        Option.bind_some, apart, last, false_and, if_false, sextets_append]
      rfl
  | cons head tail =>
      simp only [group, List.cons_append, List.nil_append, decode, value_character,
        Option.bind_eq_bind, Option.bind_some, sextets_append]
      cases decode (head :: tail) <;> rfl

private theorem decode_encode_one (first : UInt8) : decode (encode [first]) = some [first] := by
  have low : (first.toBitVec ++ 0#16).extractLsb' 0 12 = 0#12 := by
    rw [BitVec.extractLsb'_append_eq_of_add_le (by decide)]
    rfl
  have high : (first.toBitVec ++ 0#16).extractLsb' 18 6 ++ (first.toBitVec ++ 0#16).extractLsb' 12 6 =
      (first.toBitVec ++ 0#16).extractLsb' 12 12 :=
    BitVec.extractLsb'_append_extractLsb'_eq_extractLsb' rfl
  have whole : (first.toBitVec ++ 0#16).extractLsb' 12 12 ++ 0#12 = first.toBitVec ++ 0#16 := by
    rw [← low]
    exact BitVec.extractLsb'_append_extractLsb'
  have byte : (first.toBitVec ++ 0#16).extractLsb' 16 8 = first.toBitVec :=
    BitVec.extractLsb'_append_eq_left
  simp only [encode, group, List.take_succ_cons, List.take_zero, List.cons_append, List.nil_append,
    decode, value_character, Option.bind_eq_bind, Option.bind_some, and_self, if_true, high, whole,
    bytes, byte]
  rfl

private theorem decode_encode_two (first second : UInt8) :
    decode (encode [first, second]) = some [first, second] := by
  have apart := character_ne_padding
    ((first.toBitVec ++ second.toBitVec ++ 0#8).extractLsb' 6 6)
  have low : (first.toBitVec ++ second.toBitVec ++ 0#8).extractLsb' 0 6 = 0#6 := by
    rw [BitVec.extractLsb'_append_eq_of_add_le (by decide)]
    rfl
  have whole := sextets_append (first.toBitVec ++ second.toBitVec ++ 0#8)
  rw [low] at whole
  have split := bytes_append first second 0
  have zero : (0 : UInt8).toBitVec = 0#8 := rfl
  rw [zero] at split
  simp only [encode, group, List.take_succ_cons, List.take_zero, List.cons_append, List.nil_append,
    decode, value_character, Option.bind_eq_bind, Option.bind_some, apart, false_and, if_false,
    if_true, whole, split]
  rfl

theorem decode_encode (input : List UInt8) : decode (encode input) = some input := by
  induction input using encode.induct with
  | case1 => rfl
  | case2 first => exact decode_encode_one first
  | case3 first second => exact decode_encode_two first second
  | case4 first second third rest ih =>
      rw [encode, decode_group, ih, bytes_append]
      rfl

end Foundation.Base64
