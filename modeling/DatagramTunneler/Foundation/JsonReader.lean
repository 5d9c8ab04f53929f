import DatagramTunneler.Foundation.Json

/-! A reader of JSON texts. It finds the value of every text of the grammar, so a text
has at most one. -/

set_option autoImplicit false

namespace Foundation

inductive JsonValue where
  | null
  | boolean (value : Bool)
  | number (value : ℚ)
  | string (bytes : List UInt8)
  | array (items : List JsonValue)
  | object (members : List (List UInt8 × JsonValue))

namespace Json

mutual

/-- What a text stands for, unless one of its strings stands for nothing. -/
def value? : Json → Option JsonValue
  | .null => some .null
  | .boolean value => some (.boolean value)
  | .number written => some (.number written.value)
  | .string written => written.decode.map .string
  | .array _ items => (itemsValue? items).map .array
  | .object _ members => (membersValue? members).map .object

def itemsValue? : List (JsonItem Json) → Option (List JsonValue)
  | [] => some []
  | item :: items =>
      (itemValue? item).bind fun value => (itemsValue? items).map fun values => value :: values

def itemValue? : JsonItem Json → Option JsonValue
  | ⟨_, value, _⟩ => value.value?

def membersValue? : List (JsonMember Json) → Option (List (List UInt8 × JsonValue))
  | [] => some []
  | member :: members =>
      (memberValue? member).bind fun value => (membersValue? members).map fun values => value :: values

def memberValue? : JsonMember Json → Option (List UInt8 × JsonValue)
  | ⟨_, name, _, _, value, _⟩ => name.decode.bind fun name => value.value?.map fun value => (name, value)

end

end Json

namespace JsonReader

/-! ## Parts of a text -/

def isBlank (byte : UInt8) : Bool := byte = 0x20 || byte = 0x09 || byte = 0x0a || byte = 0x0d

def skipBlanks (text : List UInt8) : List UInt8 := text.dropWhile isBlank

def expect (character : Char) : List UInt8 → Option (List UInt8)
  | [] => none
  | byte :: rest => if byte = codeByte character then some rest else none

def expectAll : List Char → List UInt8 → Option (List UInt8)
  | [], text => some text
  | character :: characters, text => (expect character text).bind (expectAll characters)

def readHex (byte : UInt8) : Option HexDigit :=
  if 48 ≤ byte ∧ byte ≤ 57 then some (.decimal (Fin.ofNat 10 (byte.toNat - 48)))
  else if 97 ≤ byte ∧ byte ≤ 102 then some (.lower (Fin.ofNat 6 (byte.toNat - 97)))
  else if 65 ≤ byte ∧ byte ≤ 70 then some (.upper (Fin.ofNat 6 (byte.toNat - 65)))
  else none

def readUnit : List UInt8 → Option (CodeUnit × List UInt8)
  | first :: second :: third :: fourth :: rest => do
      let first ← readHex first
      let second ← readHex second
      let third ← readHex third
      let fourth ← readHex fourth
      return (⟨first, second, third, fourth⟩, rest)
  | _ => none

def readEscape (letter : UInt8) : Option JsonEscape :=
  [JsonEscape.quote, .backslash, .slash, .backspace, .form_feed, .newline, .carriage_return, .tab].find?
    fun mark => codeByte mark.letter = letter

def readCharacter : List UInt8 → Option (JsonCharacter × List UInt8)
  | [] => none
  | byte :: rest =>
      if byte = codeByte '\\' then
        match expect 'u' rest, rest with
        | some rest, _ => (readUnit rest).map fun read => (.unicode read.1, read.2)
        | none, [] => none
        | none, letter :: rest => (readEscape letter).map fun mark => (.escape mark, rest)
      else if plain : JsonPlain byte then some (.plain byte plain, rest)
      else none

/-- A string behind its opening quote. -/
def readCharacters : Nat → List UInt8 → Option (JsonString × List UInt8)
  | 0, _ => none
  | fuel + 1, text =>
      match expect '"' text with
      | some rest => some ([], rest)
      | none => do
          let (character, rest) ← readCharacter text
          let (string, rest) ← readCharacters fuel rest
          return (character :: string, rest)

def readDigits : List UInt8 → List (Fin 10) × List UInt8
  | [] => ([], [])
  | byte :: rest =>
      if 48 ≤ byte ∧ byte ≤ 57 then
        (Fin.ofNat 10 (byte.toNat - 48) :: (readDigits rest).1, (readDigits rest).2)
      else ([], byte :: rest)

def readFraction (text : List UInt8) : Option (List (Fin 10) × List UInt8) :=
  match expect '.' text with
  | none => some ([], text)
  | some rest => if (readDigits rest).1 = [] then none else some (readDigits rest)

def readSign (text : List UInt8) : Option Bool × List UInt8 :=
  match expect '-' text, expect '+' text with
  | some rest, _ => (some true, rest)
  | none, some rest => (some false, rest)
  | none, none => (none, text)

def readPower (upper : Bool) (text : List UInt8) : Option (JsonExponent × List UInt8) :=
  if nonempty : (readDigits (readSign text).2).1 ≠ [] then
    some (⟨upper, (readSign text).1, (readDigits (readSign text).2).1, nonempty⟩,
      (readDigits (readSign text).2).2)
  else none

def readExponent (text : List UInt8) : Option (Option JsonExponent × List UInt8) :=
  match expect 'e' text, expect 'E' text with
  | some rest, _ => (readPower false rest).map fun read => (some read.1, read.2)
  | none, some rest => (readPower true rest).map fun read => (some read.1, read.2)
  | none, none => some (none, text)

def readNumber (text : List UInt8) : Option (JsonNumber × List UInt8) := do
  let unsigned := (expect '-' text).getD text
  let whole := readDigits unsigned
  let (fraction, rest) ← readFraction whole.2
  let (exponent, rest) ← readExponent rest
  if wellFormed : whole.1 ≠ [] ∧ (whole.1.head? = some 0 → whole.1 = [0]) then
    return (⟨(expect '-' text).isSome, whole.1, wellFormed, fraction, exponent⟩, rest)
  else none

/-! ## Values -/

mutual

def readValue : Nat → List UInt8 → Option (JsonValue × List UInt8)
  | 0, _ => none
  | fuel + 1, text =>
      match text with
      | [] => none
      | byte :: rest =>
          if byte = codeByte '"' then do
            let (string, rest) ← readCharacters fuel rest
            let bytes ← string.decode
            return (.string bytes, rest)
          else if byte = codeByte '[' then
            match expect ']' (skipBlanks rest) with
            | some rest => some (.array [], rest)
            | none => do
                let (items, rest) ← readItems fuel rest
                return (.array items, rest)
          else if byte = codeByte '\x7b' then
            match expect '\x7d' (skipBlanks rest) with
            | some rest => some (.object [], rest)
            | none => do
                let (members, rest) ← readMembers fuel rest
                return (.object members, rest)
          else if byte = codeByte 'n' then
            (expectAll "ull".toList rest).map fun rest => (.null, rest)
          else if byte = codeByte 't' then
            (expectAll "rue".toList rest).map fun rest => (.boolean true, rest)
          else if byte = codeByte 'f' then
            (expectAll "alse".toList rest).map fun rest => (.boolean false, rest)
          else do
            let (number, rest) ← readNumber (byte :: rest)
            return (.number number.value, rest)

/-- The items of an array up to its end. -/
def readItems : Nat → List UInt8 → Option (List JsonValue × List UInt8)
  | 0, _ => none
  | fuel + 1, text => do
      let (value, rest) ← readValue fuel (skipBlanks text)
      match expect ',' (skipBlanks rest) with
      | some rest => do
          let (values, rest) ← readItems fuel rest
          return (value :: values, rest)
      | none => do
          let rest ← expect ']' (skipBlanks rest)
          return ([value], rest)

/-- The members of an object up to its end. -/
def readMembers : Nat → List UInt8 → Option (List (List UInt8 × JsonValue) × List UInt8)
  | 0, _ => none
  | fuel + 1, text => do
      let rest ← expect '"' (skipBlanks text)
      let (string, rest) ← readCharacters fuel rest
      let name ← string.decode
      let rest ← expect ':' (skipBlanks rest)
      let (value, rest) ← readValue fuel (skipBlanks rest)
      match expect ',' (skipBlanks rest) with
      | some rest => do
          let (members, rest) ← readMembers fuel rest
          return ((name, value) :: members, rest)
      | none => do
          let rest ← expect '\x7d' (skipBlanks rest)
          return ([(name, value)], rest)

end

/-- A whole text: one value, with blanks around it. -/
def read (text : List UInt8) : Option JsonValue := do
  let (value, rest) ← readValue (text.length + 1) (skipBlanks text)
  if skipBlanks rest = [] then return value else none

/-! ## Reading what is written -/

@[simp] theorem expect_cons (character : Char) (rest : List UInt8) :
    expect character (codeByte character :: rest) = some rest := if_pos rfl

private theorem expect_of_ne {character : Char} {byte : UInt8} (ne : byte ≠ codeByte character)
    (rest : List UInt8) : expect character (byte :: rest) = none := if_neg ne

private theorem expectAll_append (characters : List Char) (rest : List UInt8) :
    expectAll characters (characters.map codeByte ++ rest) = some rest := by
  induction characters with
  | nil => rfl
  | cons character characters ih =>
      rw [List.map_cons, List.cons_append, expectAll, expect_cons]
      exact ih

private theorem isBlank_byte (blank : JsonBlank) : isBlank blank.byte = true := by
  cases blank <;> rfl

private theorem skipBlanks_append (blanks : JsonBlanks) (rest : List UInt8) :
    skipBlanks (blanks.text ++ rest) = skipBlanks rest := by
  induction blanks with
  | nil => rfl
  | cons blank blanks ih =>
      rw [JsonBlanks.text, List.map_cons, List.cons_append, skipBlanks,
        List.dropWhile_cons_of_pos (isBlank_byte blank)]
      exact ih

private theorem skipBlanks_cons {byte : UInt8} (visible : isBlank byte = false) (rest : List UInt8) :
    skipBlanks (byte :: rest) = byte :: rest := by
  rw [skipBlanks, List.dropWhile_cons_of_neg (by simp [visible])]

/-! ### Strings -/

private theorem readHex_byte (digit : HexDigit) : readHex digit.byte = some digit := by
  cases digit with
  | decimal digit => revert digit; decide
  | lower digit => revert digit; decide
  | upper digit => revert digit; decide

private theorem readUnit_text (unit : CodeUnit) (rest : List UInt8) :
    readUnit (unit.text ++ rest) = some (unit, rest) := by
  simp only [CodeUnit.text, List.cons_append, List.nil_append, readUnit, readHex_byte,
    Option.bind_eq_bind, Option.bind_some]
  rfl

private theorem readEscape_letter (mark : JsonEscape) : readEscape (codeByte mark.letter) = some mark := by
  cases mark <;> decide

private theorem escape_apart (mark : JsonEscape) : codeByte mark.letter ≠ codeByte 'u' := by
  cases mark <;> decide

private theorem readCharacter_text (character : JsonCharacter) (rest : List UInt8) :
    readCharacter (character.text ++ rest) = some (character, rest) := by
  cases character with
  | plain byte allowed =>
      simp only [JsonCharacter.text, List.singleton_append, readCharacter, if_neg allowed.2.2,
        dif_pos allowed]
  | escape mark =>
      simp only [JsonCharacter.text, List.cons_append, List.nil_append, readCharacter, if_true,
        expect_of_ne (escape_apart mark), readEscape_letter, Option.map_some]
  | unicode unit =>
      simp only [JsonCharacter.text, List.cons_append, List.nil_append, readCharacter, if_true,
        expect_cons, readUnit_text, Option.map_some]

/-- No part of a string begins with its closing quote. -/
theorem character_opens (character : JsonCharacter) (rest : List UInt8) :
    expect '"' (character.text ++ rest) = none := by
  cases character with
  | plain byte allowed => exact expect_of_ne allowed.2.1 rest
  | escape mark => exact expect_of_ne (by decide) _
  | unicode unit => exact expect_of_ne (by decide) _

private theorem readCharacters_text (string : JsonString) {fuel : Nat} (enough : string.length < fuel)
    (rest : List UInt8) :
    readCharacters fuel (string.flatMap JsonCharacter.text ++ codeByte '"' :: rest) =
      some (string, rest) := by
  induction string generalizing fuel with
  | nil =>
      obtain ⟨fuel, rfl⟩ := Nat.exists_eq_succ_of_ne_zero (Nat.ne_of_gt enough)
      rw [List.flatMap_nil, List.nil_append, readCharacters, expect_cons]
  | cons character string ih =>
      obtain ⟨fuel, rfl⟩ := Nat.exists_eq_succ_of_ne_zero (Nat.ne_of_gt (Nat.zero_lt_of_lt enough))
      rw [List.flatMap_cons, List.append_assoc, readCharacters, character_opens]
      simp only [readCharacter_text, Option.bind_eq_bind, Option.bind_some,
        ih (Nat.lt_of_succ_lt_succ enough)]
      rfl

private theorem length_le_text (string : JsonString) :
    string.length ≤ (string.flatMap JsonCharacter.text).length := by
  induction string with
  | nil => exact Nat.le_refl 0
  | cons character string ih =>
      have some_ : 1 ≤ character.text.length := by cases character <;> simp [JsonCharacter.text]
      rw [List.flatMap_cons, List.length_append, List.length_cons]
      omega

/-! ### Numbers -/

/-- What may follow a number: nothing that could continue it. -/
def Ended (rest : List UInt8) : Prop :=
  ∀ byte ∈ rest.head?, ¬(48 ≤ byte ∧ byte ≤ 57) ∧ byte ≠ codeByte '.' ∧ byte ≠ codeByte 'e' ∧
    byte ≠ codeByte 'E'

private theorem digitByte_spec (digit : Fin 10) :
    (48 ≤ digitByte digit ∧ digitByte digit ≤ 57) ∧
      Fin.ofNat 10 ((digitByte digit).toNat - 48) = digit := by
  revert digit
  decide

private theorem readDigits_text (digits : List (Fin 10)) {rest : List UInt8}
    (ended : ∀ byte ∈ rest.head?, ¬(48 ≤ byte ∧ byte ≤ 57)) :
    readDigits (digits.map digitByte ++ rest) = (digits, rest) := by
  induction digits with
  | nil =>
      cases rest with
      | nil => rfl
      | cons byte rest => exact if_neg (ended byte rfl)
  | cons digit digits ih =>
      obtain ⟨isDigit, value⟩ := digitByte_spec digit
      rw [List.map_cons, List.cons_append, readDigits, if_pos isDigit, ih, value]

/-- The parts behind the digits end them. -/
theorem not_digit_of_mark {mark : UInt8} (small : mark < 48 ∨ 57 < mark) {rest : List UInt8} :
    ∀ byte ∈ (mark :: rest).head?, ¬(48 ≤ byte ∧ byte ≤ 57) := by
  intro byte first
  obtain rfl : mark = byte := by simpa using first
  intro held
  obtain ⟨lower, upper⟩ := held
  cases small with
  | inl small => exact absurd (UInt8.lt_of_lt_of_le small lower) (UInt8.lt_irrefl _)
  | inr large => exact absurd (UInt8.lt_of_lt_of_le large upper) (UInt8.lt_irrefl _)

private theorem expect_none {character : Char} {rest : List UInt8}
    (other : ∀ byte ∈ rest.head?, byte ≠ codeByte character) : expect character rest = none := by
  cases rest with
  | nil => rfl
  | cons byte rest => exact expect_of_ne (other byte rfl) rest

/-- The sign of an exponent as it is written. -/
def signText : Option Bool → List UInt8
  | none => []
  | some negative => [if negative then codeByte '-' else codeByte '+']

private theorem exponentText_none {number : JsonNumber} (written : number.exponent = none) :
    number.exponentText = [] := by
  rw [JsonNumber.exponentText, written]

private theorem exponentText_some {number : JsonNumber} {exponent : JsonExponent}
    (written : number.exponent = some exponent) :
    number.exponentText = (if exponent.upper then codeByte 'E' else codeByte 'e') ::
      (signText exponent.sign ++ exponent.digits.map digitByte) := by
  obtain ⟨upper, sign, digits, nonempty⟩ := exponent
  rw [JsonNumber.exponentText, written]
  cases sign <;> rfl

/-- What follows the fraction is no digit and no point. -/
theorem head_exponentText (number : JsonNumber) {rest : List UInt8} (ended : Ended rest) :
    ∀ byte ∈ (number.exponentText ++ rest).head?, ¬(48 ≤ byte ∧ byte ≤ 57) ∧ byte ≠ codeByte '.' := by
  intro byte first
  cases written : number.exponent with
  | none =>
      rw [exponentText_none written] at first
      exact ⟨(ended byte first).1, (ended byte first).2.1⟩
  | some exponent =>
      rw [exponentText_some written] at first
      obtain rfl : (if exponent.upper then codeByte 'E' else codeByte 'e') = byte :=
        Option.some.inj first
      cases exponent.upper <;> decide

/-- The first of the digits is no sign. -/
theorem digits_unsigned {digits : List (Fin 10)} (nonempty : digits ≠ []) (rest : List UInt8) :
    expect '-' (digits.map digitByte ++ rest) = none ∧
      expect '+' (digits.map digitByte ++ rest) = none := by
  cases digits with
  | nil => exact absurd rfl nonempty
  | cons digit digits =>
      have apart : ∀ digit : Fin 10,
          digitByte digit ≠ codeByte '-' ∧ digitByte digit ≠ codeByte '+' := by decide
      exact ⟨expect_of_ne (apart digit).1 _, expect_of_ne (apart digit).2 _⟩

private theorem readSign_text (sign : Option Bool) {digits : List (Fin 10)} (nonempty : digits ≠ [])
    (rest : List UInt8) :
    readSign (signText sign ++ (digits.map digitByte ++ rest)) =
      (sign, digits.map digitByte ++ rest) := by
  unfold readSign
  cases sign with
  | none =>
      obtain ⟨minus, plus⟩ := digits_unsigned nonempty rest
      simp only [signText, List.nil_append, minus, plus]
  | some negative =>
      cases negative with
      | true => simp only [signText, if_true, List.cons_append, List.nil_append, expect_cons]
      | false =>
          have minus := @expect_of_ne '-' (codeByte '+') (by decide) (digits.map digitByte ++ rest)
          simp only [signText, Bool.false_eq_true, if_false, List.cons_append, List.nil_append,
            expect_cons, minus]

private theorem readPower_text (exponent : JsonExponent) {rest : List UInt8} (ended : Ended rest) :
    readPower exponent.upper
        (signText exponent.sign ++ (exponent.digits.map digitByte ++ rest)) =
      some (exponent, rest) := by
  have read := @readDigits_text exponent.digits rest fun byte first => (ended byte first).1
  have signed := readSign_text exponent.sign exponent.nonempty rest
  have nonempty := exponent.nonempty
  unfold readPower
  simp only [signed, read]
  rw [dif_pos nonempty]

private theorem readExponent_text (number : JsonNumber) {rest : List UInt8} (ended : Ended rest) :
    readExponent (number.exponentText ++ rest) = some (number.exponent, rest) := by
  unfold readExponent
  cases written : number.exponent with
  | none =>
      have lower := @expect_none 'e' rest fun byte first => (ended byte first).2.2.1
      have upper := @expect_none 'E' rest fun byte first => (ended byte first).2.2.2
      simp only [exponentText_none written, List.nil_append, lower, upper]
  | some exponent =>
      have power := readPower_text exponent ended
      rw [exponentText_some written, List.cons_append, List.append_assoc]
      cases upper : exponent.upper with
      | false =>
          rw [upper] at power
          simp only [Bool.false_eq_true, if_false, expect_cons, power, Option.map_some]
      | true =>
          rw [upper] at power
          have lower := @expect_of_ne 'e' (codeByte 'E') (by decide)
          simp only [if_true, expect_cons, lower, power, Option.map_some]

private theorem readFraction_text (number : JsonNumber) {rest : List UInt8}
    (ended : ∀ byte ∈ rest.head?, ¬(48 ≤ byte ∧ byte ≤ 57) ∧ byte ≠ codeByte '.') :
    readFraction (number.fractionText ++ rest) = some (number.fraction, rest) := by
  unfold JsonNumber.fractionText readFraction
  cases written : number.fraction with
  | nil =>
      have point := @expect_none '.' rest fun byte first => (ended byte first).2
      simp only [List.isEmpty_nil, if_true, List.nil_append, point]
  | cons digit digits =>
      have read := @readDigits_text (digit :: digits) rest fun byte first => (ended byte first).1
      simp only [List.isEmpty_cons, Bool.false_eq_true, if_false, List.cons_append, expect_cons, read]
      rw [if_neg (List.cons_ne_nil _ _)]

private theorem head_fractionText (number : JsonNumber) {rest : List UInt8}
    (ended : ∀ byte ∈ rest.head?, ¬(48 ≤ byte ∧ byte ≤ 57) ∧ byte ≠ codeByte '.') :
    ∀ byte ∈ (number.fractionText ++ rest).head?, ¬(48 ≤ byte ∧ byte ≤ 57) := by
  unfold JsonNumber.fractionText
  cases number.fraction with
  | nil => exact fun byte first => (ended byte first).1
  | cons digit digits => exact not_digit_of_mark (.inl (by decide))

private theorem readNumber_text (number : JsonNumber) {rest : List UInt8} (ended : Ended rest) :
    readNumber (number.text ++ rest) = some (number, rest) := by
  have exponent := readExponent_text number ended
  have fraction := readFraction_text number (head_exponentText number ended)
  have whole := readDigits_text number.whole
    (head_fractionText number (head_exponentText number ended))
  have unsigned := (digits_unsigned number.wellFormed.1
    (number.fractionText ++ (number.exponentText ++ rest))).1
  have text : number.text ++ rest = (if number.negative then [codeByte '-'] else []) ++
      (number.whole.map digitByte ++ (number.fractionText ++ (number.exponentText ++ rest))) := by
    simp only [JsonNumber.text, List.append_assoc]
  have wellFormed := number.wellFormed
  rw [text]
  obtain ⟨negative, digits, formed, decimals, power⟩ := number
  unfold readNumber
  cases negative with
  | true =>
      simp only [if_true, List.cons_append, List.nil_append, expect_cons, Option.getD_some, whole,
        fraction, exponent, Option.bind_eq_bind, Option.bind_some, Option.isSome_some]
      rw [dif_pos wellFormed]
      rfl
  | false =>
      simp only [Bool.false_eq_true, if_false, List.nil_append, unsigned, Option.getD_none, whole,
        fraction, exponent, Option.bind_eq_bind, Option.bind_some, Option.isSome_none]
      rw [dif_pos wellFormed]
      rfl

/-! ### Values -/

/-- A number begins with a minus sign or a digit, so it is told apart from every other value. -/
theorem number_head (number : JsonNumber) : ∃ byte tail, number.text = byte :: tail ∧
    isBlank byte = false ∧ byte ∉ "]\x7d\"[\x7bntf".toList.map codeByte := by
  have digit : ∀ digit : Fin 10, isBlank (digitByte digit) = false ∧
      digitByte digit ∉ "]\x7d\"[\x7bntf".toList.map codeByte := by decide
  have nonempty := number.wellFormed.1
  unfold JsonNumber.text
  cases number.negative with
  | true => exact ⟨_, _, rfl, by decide, by decide⟩
  | false =>
      cases whole : number.whole with
      | nil => exact absurd whole nonempty
      | cons first digits => exact ⟨_, _, rfl, digit first⟩

/-- Every value begins with a byte that is no blank and closes nothing. -/
theorem text_head (tree : Json) : ∃ byte tail, tree.text = byte :: tail ∧ isBlank byte = false ∧
    byte ≠ codeByte ']' ∧ byte ≠ codeByte '\x7d' := by
  cases tree with
  | null => exact ⟨_, _, rfl, by decide, by decide, by decide⟩
  | boolean value => cases value <;> exact ⟨_, _, rfl, by decide, by decide, by decide⟩
  | number written =>
      obtain ⟨byte, tail, text, visible, apart⟩ := number_head written
      refine ⟨byte, tail, text, visible, ?_, ?_⟩ <;>
      · intro same
        exact apart (same ▸ by decide)
  | string written => exact ⟨_, _, rfl, by decide, by decide, by decide⟩
  | array blanks items => exact ⟨_, _, rfl, by decide, by decide, by decide⟩
  | object blanks members => exact ⟨_, _, rfl, by decide, by decide, by decide⟩

private theorem skipBlanks_text (blanks : JsonBlanks) (tree : Json) (rest : List UInt8) :
    skipBlanks (blanks.text ++ (tree.text ++ rest)) = tree.text ++ rest := by
  obtain ⟨byte, tail, text, visible, -⟩ := text_head tree
  rw [skipBlanks_append, text, List.cons_append, skipBlanks_cons visible]

private theorem ended_of_mark {mark : UInt8} (other : ¬(48 ≤ mark ∧ mark ≤ 57) ∧ mark ≠ codeByte '.' ∧
    mark ≠ codeByte 'e' ∧ mark ≠ codeByte 'E') (rest : List UInt8) : Ended (mark :: rest) := by
  intro byte first
  cases first
  exact other

private theorem ended_blanks (blanks : JsonBlanks) {rest : List UInt8} (ended : Ended rest) :
    Ended (blanks.text ++ rest) := by
  cases blanks with
  | nil => exact ended
  | cons blank blanks => cases blank <;> exact ended_of_mark (by decide) _

private theorem readItems_blanks (fuel : Nat) (blanks : JsonBlanks) (rest : List UInt8) :
    readItems fuel (blanks.text ++ rest) = readItems fuel rest := by
  cases fuel with
  | zero => rfl
  | succ fuel => simp only [readItems, skipBlanks_append]

private theorem readMembers_blanks (fuel : Nat) (blanks : JsonBlanks) (rest : List UInt8) :
    readMembers fuel (blanks.text ++ rest) = readMembers fuel rest := by
  cases fuel with
  | zero => rfl
  | succ fuel => simp only [readMembers, skipBlanks_append]

/-- With this fuel the reader reads every value whose text is shorter. -/
def ReadsValues (fuel : Nat) : Prop :=
  ∀ tree : Json, ∀ rest, tree.text.length < fuel → Ended rest →
    readValue fuel (tree.text ++ rest) = tree.value?.map fun value => (value, rest)

def ReadsItems (fuel : Nat) : Prop :=
  ∀ item : JsonItem Json, ∀ items rest, (Json.itemsText (item :: items)).length + 1 < fuel →
    readItems fuel (Json.itemsText (item :: items) ++ codeByte ']' :: rest) =
      (Json.itemsValue? (item :: items)).map fun values => (values, rest)

def ReadsMembers (fuel : Nat) : Prop :=
  ∀ member : JsonMember Json, ∀ members rest,
    (Json.membersText (member :: members)).length + 1 < fuel →
    readMembers fuel (Json.membersText (member :: members) ++ codeByte '\x7d' :: rest) =
      (Json.membersValue? (member :: members)).map fun values => (values, rest)

private theorem readsItems_succ {fuel : Nat} (values : ReadsValues fuel) (items : ReadsItems fuel) :
    ReadsItems (fuel + 1) := by
  intro item later rest enough
  obtain ⟨before, tree, after⟩ := item
  cases later with
  | nil =>
      have text : Json.itemsText [⟨before, tree, after⟩] ++ codeByte ']' :: rest =
          before.text ++ (tree.text ++ (after.text ++ codeByte ']' :: rest)) := by
        simp only [Json.itemsText, Json.itemText, List.append_assoc]
      have short : tree.text.length < fuel := by
        simp only [Json.itemsText, Json.itemText, List.length_append] at enough
        omega
      have read := values tree (after.text ++ codeByte ']' :: rest) short
        (ended_blanks after (ended_of_mark (by decide) rest))
      have closed : skipBlanks (after.text ++ codeByte ']' :: rest) = codeByte ']' :: rest := by
        rw [skipBlanks_append, skipBlanks_cons (by decide)]
      have comma := @expect_of_ne ',' (codeByte ']') (by decide) rest
      rw [text, readItems]
      simp only [skipBlanks_text, read, Json.itemsValue?, Json.itemValue?]
      cases tree.value? with
      | none => rfl
      | some value =>
          simp only [Option.map_some, Option.bind_eq_bind, Option.bind_some, closed, comma,
            expect_cons]
          rfl
  | cons next later =>
      have text : Json.itemsText (⟨before, tree, after⟩ :: next :: later) ++ codeByte ']' :: rest =
          before.text ++ (tree.text ++ (after.text ++ codeByte ',' ::
            (Json.itemsText (next :: later) ++ codeByte ']' :: rest))) := by
        simp only [Json.itemsText, Json.itemText, List.append_assoc, List.cons_append]
      obtain ⟨byte, tail, opened, -⟩ := text_head tree
      simp only [Json.itemsText, Json.itemText, List.length_append, List.length_cons] at enough
      have short : tree.text.length < fuel := by omega
      have shorter : (Json.itemsText (next :: later)).length + 1 < fuel := by
        rw [opened, List.length_cons] at enough
        omega
      have read := values tree (after.text ++ codeByte ',' ::
        (Json.itemsText (next :: later) ++ codeByte ']' :: rest)) short
        (ended_blanks after (ended_of_mark (by decide) _))
      have more : skipBlanks (after.text ++ codeByte ',' ::
          (Json.itemsText (next :: later) ++ codeByte ']' :: rest)) = codeByte ',' ::
          (Json.itemsText (next :: later) ++ codeByte ']' :: rest) := by
        rw [skipBlanks_append, skipBlanks_cons (by decide)]
      rw [text, readItems, Json.itemsValue?]
      simp only [skipBlanks_text, read, Json.itemValue?]
      cases tree.value? with
      | none => rfl
      | some value =>
          simp only [Option.map_some, Option.bind_eq_bind, Option.bind_some, more, expect_cons,
            items next later rest shorter]
          cases Json.itemsValue? (next :: later) <;> rfl

/-- The name and the value of a member, up to what decides whether more follow. -/
theorem readMembers_member {fuel : Nat} (values : ReadsValues fuel) (before : JsonBlanks)
    {name : JsonString} (afterName beforeValue : JsonBlanks) {tree : Json} {tail : List UInt8}
    (named : name.length < fuel) (short : tree.text.length < fuel) (ended : Ended tail) :
    readMembers (fuel + 1) (before.text ++ (name.text ++ (afterName.text ++ codeByte ':' ::
        (beforeValue.text ++ (tree.text ++ tail))))) =
      name.decode.bind fun name => tree.value?.bind fun value =>
        match expect ',' (skipBlanks tail) with
        | some rest => (readMembers fuel rest).map fun read => ((name, value) :: read.1, read.2)
        | none => (expect '\x7d' (skipBlanks tail)).map fun rest => ([(name, value)], rest) := by
  have colon := @skipBlanks_cons (codeByte ':') (by decide)
    (beforeValue.text ++ (tree.text ++ tail))
  have read := readCharacters_text name named (afterName.text ++ codeByte ':' ::
    (beforeValue.text ++ (tree.text ++ tail)))
  have value := values tree tail short ended
  have open_ : skipBlanks (codeByte '"' :: (name.flatMap JsonCharacter.text ++ codeByte '"' ::
      (afterName.text ++ codeByte ':' :: (beforeValue.text ++ (tree.text ++ tail))))) =
      codeByte '"' :: (name.flatMap JsonCharacter.text ++ codeByte '"' ::
        (afterName.text ++ codeByte ':' :: (beforeValue.text ++ (tree.text ++ tail)))) :=
    skipBlanks_cons (by decide) _
  simp only [JsonString.text, List.cons_append, List.append_assoc, List.nil_append, readMembers,
    skipBlanks_append, open_, expect_cons, read, Option.bind_eq_bind, Option.bind_some]
  cases name.decode with
  | none => rfl
  | some bytes =>
      simp only [Option.bind_some, colon, expect_cons, skipBlanks_text, value]
      cases tree.value? with
      | none => rfl
      | some value =>
          simp only [Option.map_some, Option.bind_some]
          cases expect ',' (skipBlanks tail) with
          | none => cases expect '\x7d' (skipBlanks tail) <;> rfl
          | some rest =>
              simp only []
              cases readMembers fuel rest <;> rfl

private theorem readsMembers_succ {fuel : Nat} (values : ReadsValues fuel) (members : ReadsMembers fuel) :
    ReadsMembers (fuel + 1) := by
  intro member later rest enough
  obtain ⟨before, name, afterName, beforeValue, tree, after⟩ := member
  have nameLength := length_le_text name
  cases later with
  | nil =>
      have text : Json.membersText [⟨before, name, afterName, beforeValue, tree, after⟩] ++
          codeByte '\x7d' :: rest = before.text ++ (name.text ++ (afterName.text ++ codeByte ':' ::
            (beforeValue.text ++ (tree.text ++ (after.text ++ codeByte '\x7d' :: rest))))) := by
        simp only [Json.membersText, Json.memberText, List.append_assoc, List.cons_append]
      simp only [Json.membersText, Json.memberText, JsonString.text, List.length_append,
        List.length_cons] at enough
      have closed : skipBlanks (after.text ++ codeByte '\x7d' :: rest) = codeByte '\x7d' :: rest := by
        rw [skipBlanks_append, skipBlanks_cons (by decide)]
      have comma := @expect_of_ne ',' (codeByte '\x7d') (by decide) rest
      rw [text, readMembers_member values before afterName beforeValue (by omega) (by omega)
        (ended_blanks after (ended_of_mark (by decide) rest)), Json.membersValue?, Json.memberValue?]
      simp only [closed, comma, expect_cons, Option.map_some]
      cases name.decode with
      | none => rfl
      | some bytes => cases tree.value? <;> rfl
  | cons next later =>
      have text : Json.membersText (⟨before, name, afterName, beforeValue, tree, after⟩ :: next ::
          later) ++ codeByte '\x7d' :: rest = before.text ++ (name.text ++ (afterName.text ++
            codeByte ':' :: (beforeValue.text ++ (tree.text ++ (after.text ++ codeByte ',' ::
              (Json.membersText (next :: later) ++ codeByte '\x7d' :: rest)))))) := by
        simp only [Json.membersText, Json.memberText, List.append_assoc, List.cons_append]
      simp only [Json.membersText, Json.memberText, JsonString.text, List.length_append,
        List.length_cons] at enough
      have more : skipBlanks (after.text ++ codeByte ',' ::
          (Json.membersText (next :: later) ++ codeByte '\x7d' :: rest)) = codeByte ',' ::
          (Json.membersText (next :: later) ++ codeByte '\x7d' :: rest) := by
        rw [skipBlanks_append, skipBlanks_cons (by decide)]
      rw [text, readMembers_member values before afterName beforeValue (by omega) (by omega)
        (ended_blanks after (ended_of_mark (by decide) _)), Json.membersValue?, Json.memberValue?]
      simp only [more, expect_cons, members next later rest (by omega)]
      cases name.decode with
      | none => rfl
      | some bytes =>
          cases tree.value? with
          | none => rfl
          | some value => cases Json.membersValue? (next :: later) <;> rfl

private theorem itemsText_opens (blanks : JsonBlanks) (item : JsonItem Json) (items : List (JsonItem Json))
    (rest : List UInt8) :
    expect ']' (skipBlanks (blanks.text ++ (Json.itemsText (item :: items) ++ rest))) = none := by
  obtain ⟨before, tree, after⟩ := item
  have text : ∃ tail, Json.itemsText (⟨before, tree, after⟩ :: items) ++ rest =
      before.text ++ (tree.text ++ tail) := by
    cases items with
    | nil =>
        simp only [Json.itemsText, Json.itemText, List.append_assoc]
        exact ⟨_, rfl⟩
    | cons next items =>
        simp only [Json.itemsText, Json.itemText, List.append_assoc]
        exact ⟨_, rfl⟩
  obtain ⟨tail, text⟩ := text
  obtain ⟨byte, shown, opened, -, apart, -⟩ := text_head tree
  rw [skipBlanks_append, text, skipBlanks_text, opened]
  exact expect_of_ne apart _

private theorem membersText_opens (blanks : JsonBlanks) (member : JsonMember Json)
    (members : List (JsonMember Json)) (rest : List UInt8) :
    expect '\x7d' (skipBlanks (blanks.text ++ (Json.membersText (member :: members) ++ rest))) =
      none := by
  obtain ⟨before, name, afterName, beforeValue, tree, after⟩ := member
  have text : ∃ tail, Json.membersText (⟨before, name, afterName, beforeValue, tree, after⟩ ::
      members) ++ rest = before.text ++ codeByte '"' :: tail := by
    simp only [Json.membersText_cons, Json.memberText, JsonString.text, List.append_assoc,
      List.cons_append]
    exact ⟨_, rfl⟩
  obtain ⟨tail, text⟩ := text
  rw [skipBlanks_append, text, skipBlanks_append, skipBlanks_cons (by decide)]
  exact expect_of_ne (by decide) _

private theorem readsValues_succ {fuel : Nat} (items : ReadsItems fuel) (members : ReadsMembers fuel) :
    ReadsValues (fuel + 1) := by
  intro tree rest enough ended
  cases tree with
  | null =>
      have literal := expectAll_append "ull".toList rest
      change readValue (fuel + 1) (codeByte 'n' :: ("ull".toList.map codeByte ++ rest)) = _
      rw [readValue, if_neg (by decide), if_neg (by decide), if_neg (by decide), if_pos rfl, literal]
      rfl
  | boolean value =>
      cases value with
      | true =>
          have literal := expectAll_append "rue".toList rest
          change readValue (fuel + 1) (codeByte 't' :: ("rue".toList.map codeByte ++ rest)) = _
          rw [readValue, if_neg (by decide), if_neg (by decide), if_neg (by decide),
            if_neg (by decide), if_pos rfl, literal]
          rfl
      | false =>
          have literal := expectAll_append "alse".toList rest
          change readValue (fuel + 1) (codeByte 'f' :: ("alse".toList.map codeByte ++ rest)) = _
          rw [readValue, if_neg (by decide), if_neg (by decide), if_neg (by decide),
            if_neg (by decide), if_neg (by decide), if_pos rfl, literal]
          rfl
  | number written =>
      have read := readNumber_text written ended
      obtain ⟨byte, tail, text, -, apart⟩ := number_head written
      have other : ∀ character ∈ "]\x7d\"[\x7bntf".toList, byte ≠ codeByte character := by
        intro character listed same
        exact apart (same ▸ List.mem_map_of_mem listed)
      rw [text] at read
      rw [Json.text, text, List.cons_append, readValue, if_neg (other _ (by decide)),
        if_neg (other _ (by decide)), if_neg (other _ (by decide)), if_neg (other _ (by decide)),
        if_neg (other _ (by decide)), if_neg (other _ (by decide)), ← List.cons_append, read]
      rfl
  | string written =>
      have length := length_le_text written
      have read := @readCharacters_text written fuel
        (by simp only [Json.text, JsonString.text, List.length_append, List.length_cons] at enough
            omega) rest
      have text : (Json.string written).text ++ rest = codeByte '"' ::
          (written.flatMap JsonCharacter.text ++ codeByte '"' :: rest) := by
        simp only [Json.text, JsonString.text, List.cons_append, List.append_assoc, List.nil_append]
      rw [text, readValue, if_pos rfl, read, Json.value?]
      simp only [Option.bind_eq_bind, Option.bind_some]
      cases written.decode <;> rfl
  | array blanks contents =>
      simp only [Json.text, List.length_append, List.length_cons] at enough
      cases contents with
      | nil =>
          have text : (Json.array blanks []).text ++ rest =
              codeByte '[' :: (blanks.text ++ codeByte ']' :: rest) := by
            simp [Json.text, Json.itemsText]
          rw [text, readValue, if_neg (by decide), if_pos rfl, skipBlanks_append,
            skipBlanks_cons (by decide), expect_cons]
          rfl
      | cons item contents =>
          have text : (Json.array blanks (item :: contents)).text ++ rest = codeByte '[' ::
              (blanks.text ++ (Json.itemsText (item :: contents) ++ codeByte ']' :: rest)) := by
            simp only [Json.text, List.cons_append, List.append_assoc, List.nil_append]
          have opens := itemsText_opens blanks item contents (codeByte ']' :: rest)
          have read := items item contents rest (by omega)
          rw [text, readValue, if_neg (by decide), if_pos rfl, opens, readItems_blanks, read,
            Json.value?]
          cases Json.itemsValue? (item :: contents) <;> rfl
  | object blanks contents =>
      simp only [Json.text, List.length_append, List.length_cons] at enough
      cases contents with
      | nil =>
          have text : (Json.object blanks []).text ++ rest =
              codeByte '\x7b' :: (blanks.text ++ codeByte '\x7d' :: rest) := by
            simp [Json.text, Json.membersText]
          rw [text, readValue, if_neg (by decide), if_neg (by decide), if_pos rfl, skipBlanks_append,
            skipBlanks_cons (by decide), expect_cons]
          rfl
      | cons member contents =>
          have text : (Json.object blanks (member :: contents)).text ++ rest = codeByte '\x7b' ::
              (blanks.text ++ (Json.membersText (member :: contents) ++ codeByte '\x7d' :: rest)) := by
            simp only [Json.text, List.cons_append, List.append_assoc, List.nil_append]
          have opens := membersText_opens blanks member contents (codeByte '\x7d' :: rest)
          have read := members member contents rest (by omega)
          rw [text, readValue, if_neg (by decide), if_neg (by decide), if_pos rfl, opens,
            readMembers_blanks, read, Json.value?]
          cases Json.membersValue? (member :: contents) <;> rfl

private theorem reads_all (fuel : Nat) : ReadsValues fuel ∧ ReadsItems fuel ∧ ReadsMembers fuel := by
  induction fuel with
  | zero =>
      refine ⟨?_, ?_, ?_⟩
      · intro tree rest impossible
        cases impossible
      · intro item items rest impossible
        cases impossible
      · intro member members rest impossible
        cases impossible
  | succ fuel ih =>
      obtain ⟨values, items, members⟩ := ih
      exact ⟨readsValues_succ items members, readsItems_succ values items,
        readsMembers_succ values members⟩

/-- The reader finds the value of every text of the grammar, with any blanks around it. -/
theorem read_text (before : JsonBlanks) (tree : Json) (after : JsonBlanks) :
    read (before.text ++ tree.text ++ after.text) = tree.value? := by
  have values := (reads_all ((before.text ++ tree.text ++ after.text).length + 1)).1
  have ended : Ended (after.text ++ []) := ended_blanks after fun byte none_ => by cases none_
  have nothing : skipBlanks (after.text ++ []) = [] := skipBlanks_append after []
  have opened : skipBlanks (before.text ++ tree.text ++ after.text) =
      tree.text ++ (after.text ++ []) := by
    rw [List.append_assoc, List.append_nil, skipBlanks_text]
  have short : tree.text.length < (before.text ++ tree.text ++ after.text).length + 1 := by
    simp only [List.length_append]
    omega
  rw [read, opened, values tree (after.text ++ []) short ended]
  cases tree.value? with
  | none => rfl
  | some value =>
      simp only [Option.map_some, Option.bind_eq_bind, Option.bind_some, nothing, if_true]
      rfl

theorem read_tree (tree : Json) : read tree.text = tree.value? := by
  have alone := read_text [] tree []
  rwa [JsonBlanks.text, List.map_nil, List.nil_append, List.append_nil] at alone

end JsonReader

end Foundation
