import DatagramTunneler.Control.ManagedTunnelRuntime
import DatagramTunneler.Foundation.Fallible
import DatagramTunneler.Foundation.Json
import DatagramTunneler.Foundation.Trim

/-! The producer routes of the control server. The options are taken out of the body
by searching it for the quoted name of a property; nothing parses the body. -/

set_option autoImplicit false

namespace DatagramTunneler

open Foundation

/-- `json.find(marker)`. -/
def search (marker : Text) : Text → Option Nat
  | [] => if marker.isEmpty then some 0 else none
  | byte :: rest =>
      if marker.isPrefixOf (byte :: rest) then some 0 else (search marker rest).map (· + 1)

/-- The quoted name that is searched for. -/
def marker (name : Text) : Text := byteOf '"' :: name ++ [byteOf '"']

/-- Where both functions start to read a value: behind the next colon and white space. -/
def propertyValue (json name : Text) : Option Text := do
  let position ← search (marker name) json
  let behind := json.drop (position + (marker name).length)
  let colon ← find behind (byteOf ':')
  return (behind.drop (colon + 1)).dropWhile isspace

/-- What an escaped character stands for. -/
def unescapedByte (character : UInt8) : Option UInt8 :=
  if character = byteOf '"' then some (byteOf '"')
  else if character = byteOf '\\' then some (byteOf '\\')
  else if character = byteOf '/' then some (byteOf '/')
  else if character = byteOf 'b' then some 0x08
  else if character = byteOf 'f' then some 0x0c
  else if character = byteOf 'n' then some (byteOf '\n')
  else if character = byteOf 'r' then some (byteOf '\r')
  else if character = byteOf 't' then some (byteOf '\t')
  else none

/-- The loop of `jsonStringProperty`. -/
def readString (value : Text) (escaped : Bool) : Text → Option Text
  | [] => none
  | character :: rest =>
      if !escaped && character == byteOf '"' then some value
      else if escaped then
        match unescapedByte character with
        | none => none
        | some byte => readString (value ++ [byte]) false rest
      else if character = byteOf '\\' then readString value true rest
      else readString (value ++ [character]) false rest

def jsonStringProperty (json name : Text) : Option Text := do
  match ← propertyValue json name with
  | [] => none
  | byte :: rest => if byte = byteOf '"' then readString [] false rest else none

/-- `std::from_chars` for a `std::uint64_t` in base 10. -/
def from_chars (text : Text) : Option Nat :=
  let digits := text.takeWhile isdigit
  if digits.isEmpty ∨ unsignedLongBound ≤ digitsValue digits then none else some (digitsValue digits)

def jsonUnsignedProperty (json name : Text) : Option Nat := do
  from_chars (← propertyValue json name)

def readInterval (body : Text) (options : ProducerOptions) : Except Text ProducerOptions :=
  match jsonUnsignedProperty body (ascii "interval_milliseconds") with
  | none => .ok options
  | some interval =>
      if interval = 0 ∨ 4294967295 < interval then
        .error (ascii "interval_milliseconds must be between 1 and 4294967295")
      else .ok { options with interval_ms := UInt32.ofNat interval }

def readCount (body : Text) (options : ProducerOptions) : Except Text ProducerOptions :=
  match jsonUnsignedProperty body (ascii "count") with
  | none => .ok options
  | some count =>
      if count = 0 ∨ 18446744073709551615 < count then .error (ascii "count must be a positive integer")
      else .ok { options with count := UInt64.ofNat count }

def readPayloadPrefix (body : Text) (options : ProducerOptions) : ProducerOptions :=
  match jsonStringProperty body (ascii "payload_prefix") with
  | none => options
  | some payload_prefix => { options with payload_prefix := payload_prefix }

/-- The options of a request to start or to restart a producer. -/
def producerOptions (body : Text) : Except Text ProducerOptions := do
  let options ← readInterval body {}
  let options ← readCount body options
  return readPayloadPrefix body options

/-- The call that a request to a producer makes, or the error it is answered with
without making one. -/
def producerRequest (alias_ action body : Text) : Except Text ControlCall := do
  let options ← (if action = ascii "start" ∨ action = ascii "restart" then producerOptions body else .ok {})
  if action = ascii "start" then return .startProducer alias_ options
  else if action = ascii "stop" then return .stopProducer alias_
  else if action = ascii "restart" then return .restartProducer alias_ options
  else .error (ascii "unknown producer action")

/-! ## Reading a string -/

private theorem unescapedByte_letter (mark : JsonEscape) :
    unescapedByte (codeByte mark.letter) = some mark.byte := by
  cases mark <;> decide

private theorem readString_plain {byte : UInt8} (allowed : JsonPlain byte) (value rest : Text) :
    readString value false (byte :: rest) = readString (value ++ [byte]) false rest := by
  have quote : byte ≠ byteOf '"' := allowed.2.1
  have slash : byte ≠ byteOf '\\' := allowed.2.2
  simp [readString, quote, slash]

/-- A backslash is followed by the letter of what it stands for. -/
theorem readString_backslash (value rest : Text) :
    readString value false (byteOf '\\' :: rest) = readString value true rest := by
  have quote : byteOf '\\' ≠ byteOf '"' := by decide
  simp [readString, quote]

private theorem readString_escape (mark : JsonEscape) (value rest : Text) :
    readString value false ((JsonCharacter.escape mark).text ++ rest) =
      readString (value ++ [mark.byte]) false rest := by
  refine (readString_backslash value (codeByte mark.letter :: rest)).trans ?_
  simp [readString, unescapedByte_letter]

private theorem readString_code (unit : CodeUnit) (value rest : Text) :
    readString value false ((JsonCharacter.unicode unit).text ++ rest) = none := by
  have unknown : unescapedByte (codeByte 'u') = none := by decide
  refine (readString_backslash value (codeByte 'u' :: (unit.text ++ rest))).trans ?_
  simp [readString, unknown]

theorem readString_string {written : JsonString} (simple : ∀ unit, JsonCharacter.unicode unit ∉ written)
    (value rest : Text) : ∃ text, written.decode = some text ∧
      readString value false (written.flatMap JsonCharacter.text ++ byteOf '"' :: rest) = some (value ++ text) := by
  induction written generalizing value with
  | nil => exact ⟨[], rfl, by simp [readString]⟩
  | cons character written ih =>
      have later : ∀ unit, JsonCharacter.unicode unit ∉ written := fun unit inside =>
        simple unit (List.mem_cons_of_mem _ inside)
      rw [List.flatMap_cons, List.append_assoc]
      cases character with
      | plain byte allowed =>
          obtain ⟨text, decoded, read⟩ := ih later (value ++ [byte])
          refine ⟨byte :: text, by rw [JsonString.decode, decoded]; rfl, ?_⟩
          refine (readString_plain allowed value _).trans ?_
          simpa using read
      | escape mark =>
          obtain ⟨text, decoded, read⟩ := ih later (value ++ [mark.byte])
          refine ⟨mark.byte :: text, by rw [JsonString.decode, decoded]; rfl, ?_⟩
          rw [readString_escape]
          simpa using read
      | unicode unit => exact absurd (List.mem_cons_self ..) (simple unit)

/-- The loop gives up at a character that is written by its code. -/
theorem readString_unicode {written : JsonString} {unit : CodeUnit}
    (inside : JsonCharacter.unicode unit ∈ written) (value rest : Text) :
    readString value false (written.flatMap JsonCharacter.text ++ rest) = none := by
  induction written generalizing value with
  | nil => cases inside
  | cons character written ih =>
      rw [List.flatMap_cons, List.append_assoc]
      cases character with
      | plain byte allowed =>
          exact (readString_plain allowed value _).trans (ih (by simpa using inside) _)
      | escape mark => exact (readString_escape mark value _).trans (ih (by simpa using inside) _)
      | unicode other => exact readString_code other value _

/-! ## What a request states -/

/-- A body that is one JSON object. -/
structure ObjectBody where
  before : JsonBlanks
  blanks : JsonBlanks
  members : List (JsonMember Json)
  after : JsonBlanks

namespace ObjectBody

def text (body : ObjectBody) : Text :=
  body.before.text ++ (Json.object body.blanks body.members).text ++ body.after.text

/-- A member of this name, however the name is spelled. -/
def Named (name : String) (member : JsonMember Json) : Prop := member.name.decode = some (ascii name)

instance (name : String) (member : JsonMember Json) : Decidable (Named name member) :=
  inferInstanceAs (Decidable (_ = _))

/-- What the members of a name state, or the default where there is none. -/
def Gives (body : ObjectBody) (name : String) (States : Json → Prop) (byDefault : Prop) : Prop :=
  (∀ member ∈ body.members, Named name member → States member.value) ∧
    ((∀ member ∈ body.members, ¬ Named name member) → byDefault)

def StatesNumber (number : Nat) (value : Json) : Prop :=
  0 < number ∧ ∃ written, value = .number written ∧ written.value = number

def StatesText (text : Text) (value : Json) : Prop :=
  ∃ written, value = .string written ∧ written.decode = some text

/-- The options are those that the body states. -/
structure States (body : ObjectBody) (options : ProducerOptions) : Prop where
  interval : body.Gives "interval_milliseconds" (StatesNumber options.interval_ms.toNat)
    (options.interval_ms = ({} : ProducerOptions).interval_ms)
  count : body.Gives "count" (StatesNumber options.count.toNat)
    (options.count = ({} : ProducerOptions).count)
  payload_prefix : body.Gives "payload_prefix" (StatesText options.payload_prefix) <|
    options.payload_prefix = ProducerOptions.payload_prefix {}

/-- The producer gets the stated options, or the request is refused without a call. -/
def Honoured (body : ObjectBody) (alias_ : Text) (operation : Operation) : Prop :=
  match operation with
  | .start => ∀ call, producerRequest alias_ (ascii "start") body.text = .ok call →
      ∃ options, call = .startProducer alias_ options ∧ body.States options
  | .restart => ∀ call, producerRequest alias_ (ascii "restart") body.text = .ok call →
      ∃ options, call = .restartProducer alias_ options ∧ body.States options
  | .stop => True

/-! ## Where a member is found -/

/-- The text in front of a member's name. -/
def front (body : ObjectBody) (earlier : List (JsonMember Json)) (member : JsonMember Json) : Text :=
  body.before.text ++ codeByte '\x7b' :: body.blanks.text ++
    earlier.flatMap (fun member => Json.memberText member ++ [codeByte ',']) ++ member.before.text

/-- The search for a name finds what the body states: its only member of that name,
which nothing in front of it looks like, or nothing where there is none. -/
inductive Finds (body : ObjectBody) (name : String) (Readable : Json → Prop) : Prop where
  | absent (missing : search (marker (ascii name)) body.text = none)
      (unnamed : ∀ member ∈ body.members, ¬ Named name member)
  | present {earlier later : List (JsonMember Json)} {member : JsonMember Json}
      (layout : body.members = earlier ++ member :: later)
      (spelled : member.name.text = marker (ascii name))
      (first : search (marker (ascii name)) body.text = some (body.front earlier member).length)
      (only : ∀ other ∈ earlier ++ later, ¬ Named name other)
      (readable : Readable member.value)

theorem not_mem_blanks {byte : UInt8} (visible : isspace byte = false) (blanks : JsonBlanks) :
    byte ∉ blanks.text := by
  intro inside
  obtain ⟨blank, -, rfl⟩ := List.mem_map.mp inside
  cases blank <;> cases visible

private theorem dropWhile_blanks (blanks : JsonBlanks) {text : Text} {byte : UInt8} (head : text.head? = some byte)
    (visible : isspace byte = false) : (blanks.text ++ text).dropWhile isspace = text := by
  induction blanks with
  | nil =>
      cases text with
      | nil => cases head
      | cons first rest =>
          cases head
          exact List.dropWhile_cons_of_neg (by simp [visible])
  | cons blank blanks ih =>
      have space : isspace blank.byte = true := by cases blank <;> rfl
      exact (List.dropWhile_cons_of_pos space).trans ih

/-- The text behind a member's value goes on with white space or the end of the member. -/
theorem text_eq {body : ObjectBody} {earlier later : List (JsonMember Json)} {member : JsonMember Json}
    (layout : body.members = earlier ++ member :: later) :
    ∃ rest, body.text = body.front earlier member ++ (member.name.text ++ (member.afterName.text ++
        byteOf ':' :: (member.beforeValue.text ++ (member.value.text ++ rest)))) ∧
      ∃ byte, rest.head? = some byte ∧ isdigit byte = false := by
  obtain ⟨before, blanks, members, after⟩ := body
  obtain ⟨memberBefore, name, afterName, beforeValue, value, memberAfter⟩ := member
  dsimp only at layout
  subst layout
  refine ⟨memberAfter.text ++ ((if later.isEmpty then [] else codeByte ',' :: Json.membersText later) ++
    codeByte '\x7d' :: after.text), ?_, ?_⟩
  · simp only [text, front, Json.text, Json.membersText_append, Json.memberText, List.append_assoc,
      List.cons_append, List.nil_append]
    rfl
  · cases memberAfter with
    | nil =>
        cases later with
        | nil => exact ⟨_, rfl, by decide⟩
        | cons => exact ⟨_, rfl, by decide⟩
    | cons blank blanks => exact ⟨_, rfl, by cases blank <;> decide⟩

/-- A value that starts with something visible is where the search for its name leads. -/
theorem propertyValue_of_layout {body : ObjectBody} {name : String} {earlier later : List (JsonMember Json)}
    {member : JsonMember Json} (layout : body.members = earlier ++ member :: later)
    (spelled : member.name.text = marker (ascii name))
    (first : search (marker (ascii name)) body.text = some (body.front earlier member).length)
    {byte : UInt8} (head : member.value.text.head? = some byte) (visible : isspace byte = false) :
    ∃ rest, propertyValue body.text (ascii name) = some (member.value.text ++ rest) ∧
      ∃ byte, rest.head? = some byte ∧ isdigit byte = false := by
  obtain ⟨rest, whole, behind⟩ := text_eq layout
  refine ⟨rest, ?_, behind⟩
  rw [spelled] at whole
  have dropped : body.text.drop ((body.front earlier member).length + (marker (ascii name)).length) =
      member.afterName.text ++ byteOf ':' :: (member.beforeValue.text ++ (member.value.text ++ rest)) := by
    rw [whole, ← List.drop_drop, List.drop_left, List.drop_left]
  have colon : find (member.afterName.text ++ byteOf ':' ::
      (member.beforeValue.text ++ (member.value.text ++ rest))) (byteOf ':') =
      some member.afterName.text.length :=
    find_eq_some.mpr ⟨_, _, rfl, not_mem_blanks (by decide) _, rfl⟩
  have value : (member.afterName.text ++ byteOf ':' ::
      (member.beforeValue.text ++ (member.value.text ++ rest))).drop (member.afterName.text.length + 1) =
      member.beforeValue.text ++ (member.value.text ++ rest) := by simp
  have start : (member.value.text ++ rest).head? = some byte := by
    rw [List.head?_append, head]
    rfl
  simp only [propertyValue, first, Option.bind_eq_bind, Option.bind_some, dropped, colon, value,
    dropWhile_blanks _ start visible, pure]

/-! ## Numbers -/

/-- The digits in front of the point make up the number, and there are not too many. -/
def LeadingDigits (value : Json) : Prop :=
  ∃ written, value = .number written ∧ written.negative = false ∧
    written.value = digitsNumber written.whole ∧ digitsNumber written.whole < unsignedLongBound

private theorem isdigit_digitByte (digit : Fin 10) : isdigit (digitByte digit) = true := by
  revert digit
  decide

private theorem digitsValue_map_digitByte (digits : List (Fin 10)) :
    digitsValue (digits.map digitByte) = digitsNumber digits := by
  have each : ∀ digit : Fin 10, (digitByte digit).toNat - (byteOf '0').toNat = digit := by decide
  unfold digitsValue digitsNumber
  rw [List.foldl_map]
  simp only [each]

theorem takeWhile_isdigit {digits rest : Text} (decimal : ∀ byte ∈ digits, isdigit byte = true)
    {byte : UInt8} (head : rest.head? = some byte) (stop : isdigit byte = false) :
    (digits ++ rest).takeWhile isdigit = digits := by
  cases rest with
  | nil => cases head
  | cons first rest =>
      cases head
      rw [List.takeWhile_append_of_pos decimal, List.takeWhile_cons_of_neg (by simp [stop]),
        List.append_nil]

/-- `from_chars` stops in front of the point or the exponent. -/
theorem from_chars_number {written : JsonNumber} (positive : written.negative = false)
    (small : digitsNumber written.whole < unsignedLongBound) {rest : Text} {byte : UInt8}
    (head : rest.head? = some byte) (stop : isdigit byte = false) :
    from_chars (written.text ++ rest) = some (digitsNumber written.whole) := by
  have layout : written.text ++ rest = written.whole.map digitByte ++
      (written.fractionText ++ (written.exponentText ++ rest)) := by
    simp [JsonNumber.text, positive]
  have behind : ∃ byte, (written.fractionText ++ (written.exponentText ++ rest)).head? = some byte ∧
      isdigit byte = false := by
    unfold JsonNumber.fractionText JsonNumber.exponentText
    split_ifs
    · split
      · exact ⟨byte, head, stop⟩
      · split_ifs
        · exact ⟨_, rfl, by decide⟩
        · exact ⟨_, rfl, by decide⟩
    · exact ⟨_, rfl, by decide⟩
  obtain ⟨next, nextHead, nextStop⟩ := behind
  have decimal : ∀ byte ∈ written.whole.map digitByte, isdigit byte = true := by
    intro byte inside
    obtain ⟨digit, -, rfl⟩ := List.mem_map.mp inside
    exact isdigit_digitByte digit
  have nonempty : (written.whole.map digitByte).isEmpty = false := by simpa using written.wellFormed.1
  unfold from_chars
  simp only [layout, takeWhile_isdigit decimal nextHead nextStop, nonempty, digitsValue_map_digitByte,
    Bool.false_eq_true, false_or, if_neg (Nat.not_le_of_lt small)]

/-- Everything that has the name is the member found. -/
theorem named_eq {body : ObjectBody} {name : String} {earlier later : List (JsonMember Json)}
    {member : JsonMember Json} (layout : body.members = earlier ++ member :: later)
    (only : ∀ other ∈ earlier ++ later, ¬ Named name other) {other : JsonMember Json}
    (inside : other ∈ body.members) (named : Named name other) : other = member := by
  rw [layout, List.mem_append, List.mem_cons] at inside
  rcases inside with inside | rfl | inside
  · exact absurd named (only other (List.mem_append_left _ inside))
  · rfl
  · exact absurd named (only other (List.mem_append_right _ inside))

private theorem named_of_spelled {name : String} {member : JsonMember Json} (clean : byteOf '\\' ∉ ascii name)
    (spelled : member.name.text = marker (ascii name)) : Named name member := by
  have same : member.name.flatMap JsonCharacter.text = ascii name :=
    List.append_cancel_right (List.cons.inj spelled).2
  unfold Named
  rw [JsonString.decode_of_clean (same ▸ clean), same]

theorem Finds.unsigned {body : ObjectBody} {name : String} (clean : byteOf '\\' ∉ ascii name)
    (finds : body.Finds name LeadingDigits) :
    (jsonUnsignedProperty body.text (ascii name) = none ∧ ∀ member ∈ body.members, ¬ Named name member) ∨
      ∃ number, jsonUnsignedProperty body.text (ascii name) = some number ∧ number < unsignedLongBound ∧
        (∃ member ∈ body.members, Named name member) ∧
        ∀ member ∈ body.members, Named name member →
          ∃ written, member.value = .number written ∧ written.value = number := by
  cases finds with
  | absent missing unnamed =>
      refine .inl ⟨?_, unnamed⟩
      unfold jsonUnsignedProperty propertyValue
      rw [missing]
      rfl
  | @present earlier later member layout spelled first only readable =>
      obtain ⟨written, value, positive, same, small⟩ := readable
      have start : ∃ byte, member.value.text.head? = some byte ∧ isspace byte = false := by
        obtain ⟨digit, digits, whole⟩ := List.exists_cons_of_ne_nil written.wellFormed.1
        have visible : ∀ digit : Fin 10, isspace (digitByte digit) = false := by decide
        refine ⟨digitByte digit, ?_, visible digit⟩
        rw [value, Json.text, JsonNumber.text, positive, whole]
        rfl
      obtain ⟨byte, head, visible⟩ := start
      obtain ⟨rest, found, next, nextHead, stop⟩ :=
        propertyValue_of_layout layout spelled first head visible
      refine .inr ⟨digitsNumber written.whole, ?_, small,
        ⟨member, by simp [layout], named_of_spelled clean spelled⟩, ?_⟩
      · rw [value, Json.text] at found
        rw [jsonUnsignedProperty, found]
        exact from_chars_number positive small nextHead stop
      · intro other inside named
        rw [named_eq layout only inside named]
        exact ⟨written, value, same⟩

/-! ## Texts -/

/-- A string without a character that is written by its code. -/
def SimpleString (value : Json) : Prop :=
  ∃ written, value = .string written ∧ ∀ unit, JsonCharacter.unicode unit ∉ written

theorem Finds.string {body : ObjectBody} {name : String} (clean : byteOf '\\' ∉ ascii name)
    (finds : body.Finds name SimpleString) :
    (jsonStringProperty body.text (ascii name) = none ∧ ∀ member ∈ body.members, ¬ Named name member) ∨
      ∃ text, jsonStringProperty body.text (ascii name) = some text ∧
        (∃ member ∈ body.members, Named name member) ∧
        ∀ member ∈ body.members, Named name member → StatesText text member.value := by
  cases finds with
  | absent missing unnamed =>
      refine .inl ⟨?_, unnamed⟩
      unfold jsonStringProperty propertyValue
      rw [missing]
      rfl
  | @present earlier later member layout spelled first only readable =>
      obtain ⟨written, value, simple⟩ := readable
      have head : member.value.text.head? = some (byteOf '"') := by
        rw [value]
        rfl
      obtain ⟨rest, found, -⟩ := propertyValue_of_layout layout spelled first head (by decide)
      obtain ⟨text, decoded, read⟩ := readString_string simple [] rest
      refine .inr ⟨text, ?_, ⟨member, by simp [layout], named_of_spelled clean spelled⟩, ?_⟩
      · have quoted : member.value.text ++ rest =
            byteOf '"' :: (written.flatMap JsonCharacter.text ++ byteOf '"' :: rest) := by
          rw [value, Json.text, JsonString.text]
          simp [byteOf, codeByte]
        rw [quoted] at found
        rw [jsonStringProperty, found]
        exact read
      · intro other inside named
        rw [named_eq layout only inside named]
        exact ⟨written, value, decoded⟩

/-! ## Honoured requests -/

/-- The member of this name is a number that the route refuses. -/
def Refuses (body : ObjectBody) (name : String) (largest : Nat) : Prop :=
  ∃ member ∈ body.members, Named name member ∧
    ∃ written, member.value = .number written ∧ (written.value = 0 ∨ (largest : ℚ) < written.value)

/-- Every member is found as long as none has been refused. -/
def Plain (body : ObjectBody) : Prop :=
  body.Finds "interval_milliseconds" LeadingDigits ∧
    (body.Refuses "interval_milliseconds" 4294967295 ∨ body.Finds "count" LeadingDigits ∧
      (body.Refuses "count" 18446744073709551615 ∨ body.Finds "payload_prefix" SimpleString))

private theorem gives_of_unnamed {body : ObjectBody} {name : String} {States : Json → Prop} {byDefault : Prop}
    (unnamed : ∀ member ∈ body.members, ¬ Named name member) (holds : byDefault) :
    body.Gives name States byDefault :=
  ⟨fun member inside named => absurd named (unnamed member inside), fun _ => holds⟩

private theorem gives_of_named {body : ObjectBody} {name : String} {States : Json → Prop} {byDefault : Prop}
    (present : ∃ member ∈ body.members, Named name member)
    (stated : ∀ member ∈ body.members, Named name member → States member.value) :
    body.Gives name States byDefault := by
  obtain ⟨member, inside, named⟩ := present
  exact ⟨stated, fun unnamed => absurd named (unnamed member inside)⟩

/-- A number that was not refused is in range, and it is the number stated. -/
theorem stated_number {body : ObjectBody} {name : String} {number largest : Nat} {byDefault : Prop}
    (accepted : ¬ (number = 0 ∨ largest < number)) (present : ∃ member ∈ body.members, Named name member)
    (stated : ∀ member ∈ body.members, Named name member →
      ∃ written, member.value = .number written ∧ written.value = number) :
    ¬ body.Refuses name largest ∧ body.Gives name (StatesNumber number) byDefault := by
  rw [not_or] at accepted
  constructor
  · intro ⟨member, inside, named, written, value, refused⟩
    obtain ⟨other, same, number_⟩ := stated member inside named
    cases value.symm.trans same
    rw [number_] at refused
    rcases refused with zero | large
    · exact accepted.1 (by exact_mod_cast zero)
    · exact accepted.2 (by exact_mod_cast large)
  · exact gives_of_named present fun member inside named =>
      ⟨Nat.pos_of_ne_zero accepted.1, stated member inside named⟩

private theorem producerOptions_states {body : ObjectBody} (plain : body.Plain) {options : ProducerOptions}
    (read : producerOptions body.text = .ok options) : body.States options := by
  obtain ⟨first, interval, rest⟩ := except_bind_eq_ok.mp read
  obtain ⟨second, count, payload⟩ := except_bind_eq_ok.mp rest
  have firstDone : ∃ interval_ms : UInt32, first = { interval_ms := interval_ms } ∧
      ¬ body.Refuses "interval_milliseconds" 4294967295 ∧
      body.Gives "interval_milliseconds" (StatesNumber interval_ms.toNat)
        (interval_ms = ({} : ProducerOptions).interval_ms) := by
    rcases plain.1.unsigned (by decide) with ⟨missing, unnamed⟩ | ⟨number, found, -, present, stated⟩
    · rw [readInterval, missing] at interval
      cases interval
      exact ⟨_, rfl, fun ⟨member, inside, named, _⟩ => unnamed member inside named,
        gives_of_unnamed unnamed rfl⟩
    · rw [readInterval, found] at interval
      dsimp only at interval
      split_ifs at interval with refused
      cases interval
      have small : (UInt32.ofNat number).toNat = number := by
        rw [UInt32.toNat_ofNat']
        exact Nat.mod_eq_of_lt (by omega)
      refine ⟨UInt32.ofNat number, rfl, ?_⟩
      rw [small]
      exact stated_number refused present stated
  obtain ⟨interval_ms, rfl, accepted, intervalGiven⟩ := firstDone
  have more := plain.2.resolve_left accepted
  have secondDone : ∃ count : UInt64, second = { interval_ms := interval_ms, count := count } ∧
      ¬ body.Refuses "count" 18446744073709551615 ∧
      body.Gives "count" (StatesNumber count.toNat) (count = ({} : ProducerOptions).count) := by
    rcases more.1.unsigned (by decide) with ⟨missing, unnamed⟩ | ⟨number, found, -, present, stated⟩
    · rw [readCount, missing] at count
      cases count
      exact ⟨_, rfl, fun ⟨member, inside, named, _⟩ => unnamed member inside named,
        gives_of_unnamed unnamed rfl⟩
    · rw [readCount, found] at count
      dsimp only at count
      split_ifs at count with refused
      cases count
      have small : (UInt64.ofNat number).toNat = number := by
        rw [UInt64.toNat_ofNat']
        exact Nat.mod_eq_of_lt (by omega)
      refine ⟨UInt64.ofNat number, rfl, ?_⟩
      rw [small]
      exact stated_number refused present stated
  obtain ⟨counted, rfl, accepted, countGiven⟩ := secondDone
  cases payload
  rcases (more.2.resolve_left accepted).string (by decide) with
    ⟨missing, unnamed⟩ | ⟨text, found, present, stated⟩
  · rw [readPayloadPrefix, missing]
    exact ⟨intervalGiven, countGiven, gives_of_unnamed unnamed rfl⟩
  · rw [readPayloadPrefix, found]
    exact ⟨intervalGiven, countGiven, gives_of_named present stated⟩

end ObjectBody

/-- A request whose members the search finds runs with the options that it states, or
is refused. -/
theorem producerRequest_honoured (body : ObjectBody) (alias_ : Text) (operation : Operation)
    (plain : body.Plain) : body.Honoured alias_ operation := by
  have started : producerRequest alias_ (ascii "start") body.text =
      (producerOptions body.text).map (ControlCall.startProducer alias_) := by
    cases read : producerOptions body.text <;> simp [producerRequest, read] <;> rfl
  have restarted : producerRequest alias_ (ascii "restart") body.text =
      (producerOptions body.text).map (ControlCall.restartProducer alias_) := by
    have apart : ascii "restart" ≠ ascii "start" ∧ ascii "restart" ≠ ascii "stop" := by decide
    cases read : producerOptions body.text <;> simp [producerRequest, read, apart] <;> rfl
  cases operation with
  | start =>
      intro call made
      rw [started] at made
      cases read : producerOptions body.text with
      | error what =>
          rw [read] at made
          cases made
      | ok options =>
          rw [read] at made
          cases made
          exact ⟨options, rfl, ObjectBody.producerOptions_states plain read⟩
  | restart =>
      intro call made
      rw [restarted] at made
      cases read : producerOptions body.text with
      | error what =>
          rw [read] at made
          cases made
      | ok options =>
          rw [read] at made
          cases made
          exact ⟨options, rfl, ObjectBody.producerOptions_states plain read⟩
  | stop => trivial

namespace ObjectBody

private theorem leadingDigits_of_integer {whole : List (Fin 10)}
    (wellFormed : whole ≠ [] ∧ (whole.head? = some 0 → whole = [0]))
    (small : digitsNumber whole < unsignedLongBound) :
    LeadingDigits (.number ⟨false, whole, wellFormed, [], none⟩) := by
  refine ⟨_, rfl, rfl, ?_, small⟩
  simp [JsonNumber.value, JsonNumber.power]

/-- A member without white space, its name written plainly. -/
def member (name : String) (value : Json) : JsonMember Json :=
  ⟨[], (ascii name).filterMap fun byte =>
    if allowed : JsonPlain byte then some (.plain byte allowed) else none, [], [.space], value, []⟩

/-- All options in another order, with a quote and a name of an option in the text. -/
def threeOptions : ObjectBody where
  before := []
  blanks := [.newline]
  members := [member "payload_prefix" (.string
      [.plain 0x61 (by decide), .escape .quote, .plain 0x62 (by decide)]),
    member "interval_milliseconds" (.number ⟨false, [2, 5, 0], by decide, [], none⟩),
    member "note" (.string [.plain 0x63 (by decide), .unicode ⟨.decimal 0, .decimal 0, .upper 5, .decimal 6⟩])]
  after := []

theorem threeOptions_honoured : threeOptions.Honoured (ascii "lan") .start ∧
    (producerOptions threeOptions.text).map (fun options => (options.interval_ms, options.payload_prefix)) =
      .ok (250, ascii "a\"b") := by
  refine ⟨producerRequest_honoured threeOptions (ascii "lan") .start ⟨?_, .inr ⟨?_, .inr ?_⟩⟩, by decide⟩
  · exact @Finds.present _ _ _ [_] [_] _ rfl (by decide) (by decide) (by decide)
      (leadingDigits_of_integer (by decide) (by decide))
  · exact .absent (by decide) (by decide)
  · exact @Finds.present _ _ _ [] [_, _] _ rfl (by decide) (by decide) (by decide)
      ⟨_, rfl, by simp⟩

/-- `{"count": -5}` -/
def negativeCount : ObjectBody where
  before := []
  blanks := []
  members := [member "count" (.number ⟨true, [5], by decide, [], none⟩)]
  after := []

theorem negativeCount_unlimited : ¬ negativeCount.Honoured (ascii "lan") .start := by
  intro honoured
  have made : producerRequest (ascii "lan") (ascii "start") negativeCount.text =
      .ok (.startProducer (ascii "lan") {}) := by decide
  obtain ⟨options, same, states⟩ := honoured _ made
  have given : options = {} := (congrArg ControlCall.options same).symm
  have count := states.count.1 _ (List.mem_cons_self ..) (by decide)
  rw [given] at count
  exact absurd count.1 (by decide)

end ObjectBody

end DatagramTunneler
