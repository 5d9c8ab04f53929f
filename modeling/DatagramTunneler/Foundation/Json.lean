import DatagramTunneler.Foundation.Utf8
import Mathlib.Algebra.Field.Rat

/-! JSON texts, written out with all their freedom: the white space, the spelling of
every string and number, the order of the members. Every value here has one text,
and the JSON texts are the texts of these values. A string may hold any bytes; that
they are the encoding of characters is left to those who need it. -/

set_option autoImplicit false

namespace Foundation

instance neZero_ten : NeZero 10 := ⟨by decide⟩

instance neZero_six : NeZero 6 := ⟨by decide⟩

inductive JsonBlank where
  | space
  | tab
  | newline
  | carriage_return
  deriving DecidableEq

def JsonBlank.byte : JsonBlank → UInt8
  | .space => 0x20
  | .tab => 0x09
  | .newline => 0x0a
  | .carriage_return => 0x0d

abbrev JsonBlanks := List JsonBlank

def JsonBlanks.text (blanks : JsonBlanks) : List UInt8 := blanks.map JsonBlank.byte

/-- The characters that are escaped with one letter. -/
inductive JsonEscape where
  | quote
  | backslash
  | slash
  | backspace
  | form_feed
  | newline
  | carriage_return
  | tab
  deriving DecidableEq

def JsonEscape.letter : JsonEscape → Char
  | .quote => '"'
  | .backslash => '\\'
  | .slash => '/'
  | .backspace => 'b'
  | .form_feed => 'f'
  | .newline => 'n'
  | .carriage_return => 'r'
  | .tab => 't'

def JsonEscape.byte : JsonEscape → UInt8
  | .quote => codeByte '"'
  | .backslash => codeByte '\\'
  | .slash => codeByte '/'
  | .backspace => 0x08
  | .form_feed => 0x0c
  | .newline => 0x0a
  | .carriage_return => 0x0d
  | .tab => 0x09

inductive HexDigit where
  | decimal (digit : Fin 10)
  | lower (digit : Fin 6)
  | upper (digit : Fin 6)
  deriving DecidableEq

namespace HexDigit

def value : HexDigit → Nat
  | .decimal digit => digit.val
  | .lower digit | .upper digit => 10 + digit.val

def byte : HexDigit → UInt8
  | .decimal digit => UInt8.ofNat (48 + digit.val)
  | .lower digit => UInt8.ofNat (97 + digit.val)
  | .upper digit => UInt8.ofNat (65 + digit.val)

end HexDigit

/-- Four hexadecimal digits, a code unit of UTF-16. -/
structure CodeUnit where
  first : HexDigit
  second : HexDigit
  third : HexDigit
  fourth : HexDigit
  deriving DecidableEq

namespace CodeUnit

def value (unit : CodeUnit) : Nat :=
  ((unit.first.value * 16 + unit.second.value) * 16 + unit.third.value) * 16 + unit.fourth.value

def text (unit : CodeUnit) : List UInt8 :=
  [unit.first.byte, unit.second.byte, unit.third.byte, unit.fourth.byte]

def leads (unit : CodeUnit) : Bool := 0xd800 ≤ unit.value && unit.value < 0xdc00

def trails (unit : CodeUnit) : Bool := 0xdc00 ≤ unit.value && unit.value < 0xe000

end CodeUnit

/-- What may stand in a string as it is. -/
def JsonPlain (byte : UInt8) : Prop :=
  0x20 ≤ byte ∧ byte ≠ codeByte '"' ∧ byte ≠ codeByte '\\'

instance (byte : UInt8) : Decidable (JsonPlain byte) := inferInstanceAs (Decidable (_ ∧ _))

/-- One part of a string as it is written. -/
inductive JsonCharacter where
  | plain (byte : UInt8) (allowed : JsonPlain byte)
  | escape (mark : JsonEscape)
  | unicode (unit : CodeUnit)
  deriving DecidableEq

def JsonCharacter.text : JsonCharacter → List UInt8
  | .plain byte _ => [byte]
  | .escape mark => [codeByte '\\', codeByte mark.letter]
  | .unicode unit => [codeByte '\\', codeByte 'u'] ++ unit.text

abbrev JsonString := List JsonCharacter

namespace JsonString

def text (string : JsonString) : List UInt8 :=
  codeByte '"' :: string.flatMap JsonCharacter.text ++ [codeByte '"']

/-- The bytes the string stands for, unless half of a surrogate pair is missing. -/
def decode : JsonString → Option (List UInt8)
  | [] => some []
  | .plain byte _ :: rest => (decode rest).map (byte :: ·)
  | .escape mark :: rest => (decode rest).map (mark.byte :: ·)
  | .unicode lead :: .unicode trail :: rest =>
      if lead.leads && trail.trails then
        (decode rest).map (String.utf8EncodeChar (Char.ofNat
          (0x10000 + (lead.value - 0xd800) * 0x400 + (trail.value - 0xdc00))) ++ ·)
      else if lead.leads || lead.trails then none
      else (decode (.unicode trail :: rest)).map (String.utf8EncodeChar (Char.ofNat lead.value) ++ ·)
  | .unicode unit :: rest =>
      if unit.leads || unit.trails then none
      else (decode rest).map (String.utf8EncodeChar (Char.ofNat unit.value) ++ ·)

/-- A code unit that is no half of a pair stands for its character. -/
theorem decode_unicode {unit : CodeUnit} (whole : (unit.leads || unit.trails) = false)
    (rest : JsonString) : decode (.unicode unit :: rest) =
      (decode rest).map (String.utf8EncodeChar (Char.ofNat unit.value) ++ ·) := by
  obtain ⟨noLead, noTrail⟩ := Bool.or_eq_false_iff.mp whole
  cases rest with
  | nil => simp [decode, noLead, noTrail]
  | cons next rest => cases next <;> simp [decode, noLead, noTrail]

/-- Without a backslash a string stands for what is written. -/
theorem decode_of_clean {string : JsonString} (clean : codeByte '\\' ∉ string.flatMap JsonCharacter.text) :
    string.decode = some (string.flatMap JsonCharacter.text) := by
  induction string with
  | nil => rfl
  | cons character string ih =>
      rw [List.flatMap_cons, List.mem_append, not_or] at clean
      cases character with
      | plain byte allowed =>
          rw [decode, ih clean.2]
          rfl
      | escape mark => exact absurd (List.mem_cons_self ..) clean.1
      | unicode unit => exact absurd (List.mem_cons_self ..) clean.1

end JsonString

def digitByte (digit : Fin 10) : UInt8 := UInt8.ofNat (48 + digit.val)

def digitsNumber (digits : List (Fin 10)) : Nat :=
  digits.foldl (fun (value : Nat) (digit : Fin 10) => value * 10 + digit.val) 0

structure JsonExponent where
  upper : Bool
  /-- A sign that is written, and whether it is a minus. -/
  sign : Option Bool
  digits : List (Fin 10)
  nonempty : digits ≠ []
  deriving DecidableEq

structure JsonNumber where
  negative : Bool
  whole : List (Fin 10)
  wellFormed : whole ≠ [] ∧ (whole.head? = some 0 → whole = [0])
  /-- The digits behind the point; without any there is no point. -/
  fraction : List (Fin 10)
  exponent : Option JsonExponent
  deriving DecidableEq

namespace JsonNumber

def fractionText (number : JsonNumber) : List UInt8 :=
  if number.fraction.isEmpty then [] else codeByte '.' :: number.fraction.map digitByte

def exponentText (number : JsonNumber) : List UInt8 :=
  match number.exponent with
  | none => []
  | some exponent =>
      (if exponent.upper then codeByte 'E' else codeByte 'e') ::
        (match exponent.sign with
          | none => []
          | some negative => [if negative then codeByte '-' else codeByte '+']) ++
        exponent.digits.map digitByte

def text (number : JsonNumber) : List UInt8 :=
  (if number.negative then [codeByte '-'] else []) ++ number.whole.map digitByte ++
    number.fractionText ++ number.exponentText

def power (number : JsonNumber) : Int :=
  match number.exponent with
  | none => 0
  | some exponent =>
      if exponent.sign = some true then -(digitsNumber exponent.digits : Int)
      else digitsNumber exponent.digits

def value (number : JsonNumber) : ℚ :=
  (if number.negative then -1 else 1) * digitsNumber (number.whole ++ number.fraction) *
    10 ^ (number.power - number.fraction.length)

end JsonNumber

structure JsonItem (Value : Type) where
  before : JsonBlanks
  value : Value
  after : JsonBlanks

structure JsonMember (Value : Type) where
  before : JsonBlanks
  name : JsonString
  afterName : JsonBlanks
  beforeValue : JsonBlanks
  value : Value
  after : JsonBlanks

inductive Json where
  | null
  | boolean (value : Bool)
  | number (written : JsonNumber)
  | string (written : JsonString)
  | array (blanks : JsonBlanks) (items : List (JsonItem Json))
  | object (blanks : JsonBlanks) (members : List (JsonMember Json))

namespace Json

mutual

def text : Json → List UInt8
  | .null => "null".toList.map codeByte
  | .boolean value => (if value then "true" else "false").toList.map codeByte
  | .number written => written.text
  | .string written => written.text
  | .array blanks items => codeByte '[' :: blanks.text ++ itemsText items ++ [codeByte ']']
  | .object blanks members => codeByte '\x7b' :: blanks.text ++ membersText members ++ [codeByte '\x7d']

def itemsText : List (JsonItem Json) → List UInt8
  | [] => []
  | [item] => itemText item
  | item :: items => itemText item ++ codeByte ',' :: itemsText items

def itemText : JsonItem Json → List UInt8
  | ⟨before, value, after⟩ => before.text ++ value.text ++ after.text

def membersText : List (JsonMember Json) → List UInt8
  | [] => []
  | [member] => memberText member
  | member :: members => memberText member ++ codeByte ',' :: membersText members

def memberText : JsonMember Json → List UInt8
  | ⟨before, name, afterName, beforeValue, value, after⟩ =>
      before.text ++ name.text ++ afterName.text ++ codeByte ':' :: beforeValue.text ++ value.text ++
        after.text

end

theorem membersText_cons (member : JsonMember Json) (members : List (JsonMember Json)) :
    membersText (member :: members) = memberText member ++
      if members.isEmpty then [] else codeByte ',' :: membersText members := by
  cases members with
  | nil => exact (List.append_nil _).symm
  | cons => rfl

/-- The text of one member inside the text of all. -/
theorem membersText_append (earlier : List (JsonMember Json)) (member : JsonMember Json)
    (later : List (JsonMember Json)) : membersText (earlier ++ member :: later) =
      earlier.flatMap (fun member => memberText member ++ [codeByte ',']) ++ memberText member ++
        if later.isEmpty then [] else codeByte ',' :: membersText later := by
  induction earlier with
  | nil => exact membersText_cons member later
  | cons first earlier ih =>
      have more : (earlier ++ member :: later).isEmpty = false := by simp
      rw [List.cons_append, membersText_cons, more, ih]
      simp

end Json

end Foundation
