import Mathlib.Data.List.TakeWhile

/-! The part of `std::string`, `<cctype>` and the numeric conversions that the
program uses. A string is its bytes: nothing in the program decodes UTF-8, and
the C locale classifies ASCII bytes only. -/

set_option autoImplicit false

namespace DatagramTunneler

abbrev Text := List UInt8

/-- The bytes of a literal of the source; all of them are ASCII. -/
def ascii (literal : String) : Text := literal.toList.map fun character => UInt8.ofNat character.toNat

def byteOf (character : Char) : UInt8 := UInt8.ofNat character.toNat

/-- `std::to_string` of an unsigned integer. -/
def to_string (value : Nat) : Text := ascii (String.ofList (Nat.toDigits 10 value))

def isspace (byte : UInt8) : Bool :=
  byte == 0x20 || (0x09 ≤ byte && byte ≤ 0x0d)

def isdigit (byte : UInt8) : Bool := byteOf '0' ≤ byte && byte ≤ byteOf '9'

def isalnum (byte : UInt8) : Bool :=
  isdigit byte || (byteOf 'a' ≤ byte && byte ≤ byteOf 'z') || (byteOf 'A' ≤ byte && byte ≤ byteOf 'Z')

/-- What `c_str()` shows to a C function: the bytes before the first NUL. -/
def c_str (value : Text) : Text := value.takeWhile (· ≠ 0)

/-- Split at every occurrence of `separator`; there is always at least one part. -/
def splitOnByte (separator : UInt8) : Text → List Text
  | [] => [[]]
  | byte :: rest =>
      if byte = separator then [] :: splitOnByte separator rest
      else match splitOnByte separator rest with
        | [] => [[byte]]
        | part :: parts => (byte :: part) :: parts

/-- The lines `std::getline` yields one after another. A final line without a
newline counts, an empty rest after the last newline does not. -/
def getlines (text : Text) : List Text :=
  let parts := splitOnByte (byteOf '\n') text
  if parts.getLast? = some [] then parts.dropLast else parts

/-- `value.find(byte)`. -/
def find (value : Text) (byte : UInt8) : Option Nat := value.findIdx? (· == byte)

/-- `value.rfind(byte)`. -/
def rfind (value : Text) (byte : UInt8) : Option Nat :=
  (find value.reverse byte).map fun index => value.length - 1 - index

/-- The value of a string of decimal digits, most significant first. -/
def digitsValue (digits : Text) : Nat :=
  digits.foldl (fun value digit => value * 10 + (digit.toNat - (byteOf '0').toNat)) 0

/-- An `unsigned long` has 64 bits. -/
def unsignedLongBound : Nat := 18446744073709551616

/-- `std::stoul` in base 10: leading white space and one sign are skipped, a
minus negates modulo `2 ^ 64`, and whatever follows the digits is ignored. The
error is the `what()` of the exception thrown. -/
def stoul (value : Text) : Except Text Nat :=
  let unsigned := (c_str value).dropWhile isspace
  let negative := unsigned.head? == some (byteOf '-')
  let signed := negative || unsigned.head? == some (byteOf '+')
  let digits := (if signed then unsigned.tail else unsigned).takeWhile isdigit
  if digits.isEmpty then .error (ascii "stoul")
  else if unsignedLongBound ≤ digitsValue digits then .error (ascii "stoul")
  else if negative then .ok ((unsignedLongBound - digitsValue digits) % unsignedLongBound)
  else .ok (digitsValue digits)

/-! ## Searching -/

theorem find_eq_none {value : Text} {byte : UInt8} : find value byte = none ↔ byte ∉ value := by
  simp only [find, List.findIdx?_eq_none_iff, beq_eq_false_iff_ne]
  exact ⟨fun all inside => all byte inside rfl, fun absent other inside same => absent (same ▸ inside)⟩

/-- The first occurrence has nothing of its kind in front of it. -/
theorem find_eq_some {value : Text} {byte : UInt8} {index : Nat} :
    find value byte = some index ↔
      ∃ front back, value = front ++ byte :: back ∧ byte ∉ front ∧ front.length = index := by
  induction value generalizing index with
  | nil => simp [find]
  | cons head value ih =>
      unfold find at ih ⊢
      rw [List.findIdx?_cons]
      by_cases same : head = byte
      · subst same
        rw [if_pos (beq_self_eq_true head), Option.some.injEq]
        constructor
        · intro same
          subst same
          exact ⟨[], value, rfl, by simp, rfl⟩
        · intro held
          obtain ⟨front, back, layout, absent, rfl⟩ := held
          cases front with
          | nil => rfl
          | cons first front =>
              obtain ⟨rfl, -⟩ := List.cons.inj layout
              simp at absent
      · rw [if_neg (by simpa using same), Option.map_eq_some_iff]
        constructor
        · intro held
          obtain ⟨earlier, found, rfl⟩ := held
          obtain ⟨front, back, rfl, absent, rfl⟩ := ih.mp found
          exact ⟨head :: front, back, rfl, by simp [Ne.symm same, absent], rfl⟩
        · intro held
          obtain ⟨front, back, layout, absent, rfl⟩ := held
          cases front with
          | nil => exact absurd (List.cons.inj layout).1 same
          | cons first front =>
              obtain ⟨rfl, rfl⟩ := List.cons.inj layout
              rw [List.mem_cons, not_or] at absent
              exact ⟨front.length, ih.mpr ⟨front, back, rfl, absent.2, rfl⟩, rfl⟩

/-- Where the first occurrence is, is up to the text. -/
theorem front_eq_of_first {front front_ back back_ : Text} {byte : UInt8}
    (same : front ++ byte :: back = front_ ++ byte :: back_) (absent : byte ∉ front)
    (absent_ : byte ∉ front_) : front = front_ := by
  have found := find_eq_some.mpr ⟨front, back, rfl, absent, rfl⟩
  rw [same, find_eq_some.mpr ⟨front_, back_, rfl, absent_, rfl⟩] at found
  exact (List.append_inj same (Option.some.inj found).symm).1

theorem rfind_eq_none {value : Text} {byte : UInt8} : rfind value byte = none ↔ byte ∉ value := by
  rw [rfind, Option.map_eq_none_iff, find_eq_none, List.mem_reverse]

/-- The last occurrence has nothing of its kind behind it. -/
theorem rfind_eq_some {value : Text} {byte : UInt8} {index : Nat} :
    rfind value byte = some index ↔
      ∃ front back, value = front ++ byte :: back ∧ byte ∉ back ∧ front.length = index := by
  rw [rfind, Option.map_eq_some_iff]
  constructor
  · intro held
    obtain ⟨reversed, found, rfl⟩ := held
    obtain ⟨back, front, layout, absent, rfl⟩ := find_eq_some.mp found
    have value : value = front.reverse ++ byte :: back.reverse := by
      rw [← List.reverse_reverse value, layout]
      simp
    refine ⟨front.reverse, back.reverse, value, by simpa using absent, ?_⟩
    rw [value]
    simp
  · intro held
    obtain ⟨front, back, rfl, absent, rfl⟩ := held
    refine ⟨back.length, find_eq_some.mpr ⟨back.reverse, front.reverse, by simp, by simpa using absent,
      by simp⟩, ?_⟩
    simp

/-- Every byte is a separator or in a part. -/
theorem mem_splitOnByte {separator byte : UInt8} {text : Text} (inside : byte ∈ text) :
    byte = separator ∨ ∃ part ∈ splitOnByte separator text, byte ∈ part := by
  induction text with
  | nil => cases inside
  | cons head text ih =>
      by_cases same : head = separator
      · rw [splitOnByte, if_pos same]
        rcases List.mem_cons.mp inside with rfl | inside
        · exact .inl same
        · exact (ih inside).imp_right fun ⟨part, listed, here⟩ =>
            ⟨part, List.mem_cons_of_mem _ listed, here⟩
      · rw [splitOnByte, if_neg same]
        cases parts : splitOnByte separator text with
        | nil =>
            rcases List.mem_cons.mp inside with rfl | inside
            · exact .inr ⟨[byte], by simp, by simp⟩
            · rw [parts] at ih
              exact .inl (by simpa using ih inside)
        | cons part others =>
            rw [parts] at ih
            rcases List.mem_cons.mp inside with rfl | inside
            · exact .inr ⟨byte :: part, by simp, by simp⟩
            · apply (ih inside).imp_right
              intro ⟨other, listed, here⟩
              rcases List.mem_cons.mp listed with rfl | listed
              · exact ⟨head :: other, by simp, List.mem_cons_of_mem _ here⟩
              · exact ⟨other, List.mem_cons_of_mem _ listed, here⟩

/-- A separator ends the first part. -/
theorem splitOnByte_append {separator : UInt8} {part rest : Text} (clean : separator ∉ part) :
    splitOnByte separator (part ++ separator :: rest) = part :: splitOnByte separator rest := by
  induction part with
  | nil => simp [splitOnByte]
  | cons byte part ih =>
      rw [List.mem_cons, not_or] at clean
      rw [List.cons_append, splitOnByte, if_neg (Ne.symm clean.1), ih clean.2]

/-- What holds no separator only lengthens the first part. -/
theorem splitOnByte_prepend {separator : UInt8} {front rest part : Text} {parts : List Text}
    (clean : separator ∉ front) (split : splitOnByte separator rest = part :: parts) :
    splitOnByte separator (front ++ rest) = (front ++ part) :: parts := by
  induction front with
  | nil => exact split
  | cons byte front ih =>
      rw [List.mem_cons, not_or] at clean
      rw [List.cons_append, splitOnByte, if_neg (Ne.symm clean.1), ih clean.2]
      rfl

/-- Lines that are written one after another are read so. -/
theorem getlines_flatMap {lines : List Text} (clean : ∀ line ∈ lines, byteOf '\n' ∉ line) :
    getlines (lines.flatMap (· ++ [byteOf '\n'])) = lines := by
  have split : splitOnByte (byteOf '\n') (lines.flatMap (· ++ [byteOf '\n'])) = lines ++ [[]] := by
    induction lines with
    | nil => rfl
    | cons line lines ih =>
        have here := clean line (List.mem_cons_self ..)
        have later := ih fun line inside => clean line (List.mem_cons_of_mem _ inside)
        rw [List.flatMap_cons, List.append_assoc, List.singleton_append, splitOnByte_append here,
          later, List.cons_append]
  have last : (lines ++ [[]]).getLast? = some [] := by simp
  unfold getlines
  simp only [split]
  rw [if_pos last, List.dropLast_concat]

theorem c_str_of_visible {value : Text} (visible : 0 ∉ value) : c_str value = value := by
  apply List.takeWhile_eq_self_iff.mpr
  intro byte inside
  have present : byte ≠ 0 := fun same => visible (same ▸ inside)
  simpa using present

/-! ## Decimal numbers -/

theorem to_string_eq (value : Nat) :
    to_string value = (Nat.toDigits 10 value).map fun digit => UInt8.ofNat digit.toNat := by
  rw [to_string, ascii, String.toList_ofList]

private theorem byte_of_isDigit {digit : Char} (decimal : digit.isDigit = true) :
    (UInt8.ofNat digit.toNat).toNat = digit.toNat ∧ isdigit (UInt8.ofNat digit.toNat) = true := by
  have range : 48 ≤ digit.toNat ∧ digit.toNat ≤ 57 := by
    simpa [Char.isDigit, UInt32.le_iff_toNat_le] using decimal
  have value : (UInt8.ofNat digit.toNat).toNat = digit.toNat := by
    rw [UInt8.toNat_ofNat']
    omega
  refine ⟨value, ?_⟩
  simp only [isdigit, Bool.and_eq_true, decide_eq_true_eq, UInt8.le_iff_toNat_le, value]
  exact range

/-- What holds of the digits one by one. -/
theorem of_isdigit {property : UInt8 → Bool} (each : (ascii "0123456789").all property = true) {byte : UInt8}
    (digit : isdigit byte = true) : property byte = true := by
  simp only [isdigit, Bool.and_eq_true, decide_eq_true_eq, UInt8.le_iff_toNat_le] at digit
  have range : 48 ≤ byte.toNat ∧ byte.toNat < 58 := ⟨digit.1, Nat.lt_succ_of_le digit.2⟩
  have listed : byte ∈ (List.range' 48 10).map UInt8.ofNat := by
    rw [← UInt8.ofNat_toNat (x := byte)]
    exact List.mem_map_of_mem (List.mem_range'_1.mpr range)
  have digits : (List.range' 48 10).map UInt8.ofNat = ascii "0123456789" := by decide
  exact List.all_eq_true.mp each byte (digits ▸ listed)

theorem isdigit_to_string {value : Nat} {byte : UInt8} (inside : byte ∈ to_string value) :
    isdigit byte = true := by
  rw [to_string_eq] at inside
  obtain ⟨digit, listed, rfl⟩ := List.mem_map.mp inside
  exact (byte_of_isDigit (Nat.isDigit_of_mem_toDigits (by decide) (by decide) listed)).2

theorem to_string_ne_nil (value : Nat) : to_string value ≠ [] := by
  rw [to_string_eq]
  simp [Nat.toDigits_ne_nil]

/-- Reading back what was written. -/
theorem digitsValue_to_string (value : Nat) : digitsValue (to_string value) = value := by
  have folded : ∀ (digits : List Char) (start : Nat), (∀ digit ∈ digits, digit.isDigit = true) →
      (digits.map fun digit => UInt8.ofNat digit.toNat).foldl
        (fun value digit => value * 10 + (digit.toNat - (byteOf '0').toNat)) start =
        Nat.ofDigitChars 10 digits start := by
    intro digits
    induction digits with
    | nil => intro start decimal; simp
    | cons digit digits ih =>
        intro start decimal
        have here := (byte_of_isDigit (decimal digit (List.mem_cons_self ..))).1
        rw [List.map_cons, List.foldl_cons, ih _ fun digit inside =>
          decimal digit (List.mem_cons_of_mem _ inside), Nat.ofDigitChars_cons, here, Nat.mul_comm]
        rfl
  rw [digitsValue, to_string_eq, folded]
  · exact Nat.ofDigitChars_ten_toDigits
  · exact fun digit inside => Nat.isDigit_of_mem_toDigits (by decide) (by decide) inside

theorem isdigit_apart {byte : UInt8} (digit : isdigit byte = true) :
    isspace byte = false ∧ byte ≠ byteOf '-' ∧ byte ≠ byteOf '+' ∧ byte ≠ byteOf ':' ∧ byte ≠ 0 := by
  have apart := @of_isdigit (fun byte => decide (isspace byte = false ∧ byte ≠ byteOf '-' ∧
    byte ≠ byteOf '+' ∧ byte ≠ byteOf ':' ∧ byte ≠ 0)) (by decide) byte digit
  exact of_decide_eq_true apart

theorem c_str_of_isdigit {digits : Text} (decimal : ∀ byte ∈ digits, isdigit byte = true) :
    c_str digits = digits :=
  c_str_of_visible fun inside => (isdigit_apart (decimal 0 inside)).2.2.2.2 rfl

/-- Nothing in front of digits is skipped, and all of them are read. -/
theorem digits_undisturbed {digits : Text} (nonempty : digits ≠ [])
    (decimal : ∀ byte ∈ digits, isdigit byte = true) :
    (c_str digits).dropWhile isspace = digits ∧ (digits.head? == some (byteOf '-')) = false ∧
      (digits.head? == some (byteOf '+')) = false ∧ digits.takeWhile isdigit = digits := by
  obtain ⟨first, rest, rfl⟩ := List.exists_cons_of_ne_nil nonempty
  obtain ⟨visible, minus, plus, -⟩ := isdigit_apart (decimal first (List.mem_cons_self ..))
  refine ⟨?_, by simpa using minus, by simpa using plus, List.takeWhile_eq_self_iff.mpr decimal⟩
  rw [c_str_of_isdigit decimal, List.dropWhile_cons_of_neg (by simp [visible])]

theorem stoul_of_isdigit {digits : Text} (nonempty : digits ≠ [])
    (decimal : ∀ byte ∈ digits, isdigit byte = true) (small : digitsValue digits < unsignedLongBound) :
    stoul digits = .ok (digitsValue digits) := by
  obtain ⟨visible, minus, plus, taken⟩ := digits_undisturbed nonempty decimal
  unfold stoul
  simp only [visible, minus, plus, taken, Bool.or_false, Bool.false_eq_true, if_false,
    if_neg (Nat.not_le_of_lt small), List.isEmpty_eq_false_iff.mpr nonempty]

theorem digitsValue_of_stoul {digits : Text} {number : Nat} (nonempty : digits ≠ [])
    (decimal : ∀ byte ∈ digits, isdigit byte = true) (read : stoul digits = .ok number) :
    digitsValue digits = number := by
  by_cases small : digitsValue digits < unsignedLongBound
  · rw [stoul_of_isdigit nonempty decimal small] at read
    exact Except.ok.inj read
  · obtain ⟨visible, minus, plus, taken⟩ := digits_undisturbed nonempty decimal
    unfold stoul at read
    simp only [visible, minus, plus, taken, Bool.or_false, Bool.false_eq_true, if_false,
      if_pos (Nat.le_of_not_lt small), List.isEmpty_eq_false_iff.mpr nonempty] at read
    cases read

example : stoul (ascii " +14052x") = .ok 14052 := by decide

example : getlines (ascii "a\n\nb") = [ascii "a", [], ascii "b"] := by decide

end DatagramTunneler
