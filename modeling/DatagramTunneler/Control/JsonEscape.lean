import DatagramTunneler.Control.ProducerRequest

/-! The escaper of the control server, and the reader of string properties behind it.
The escaper writes control characters without a letter by their code, which the
reader does not know. -/

set_option autoImplicit false

namespace DatagramTunneler

open Foundation

def hexDigit (value : Nat) : UInt8 :=
  if value < 10 then UInt8.ofNat (48 + value) else UInt8.ofNat (87 + value)

/-- `std::hex << std::setw(4) << std::setfill('0')`, for at most four digits. -/
def hex4 (value : Nat) : Text :=
  [hexDigit (value / 4096), hexDigit (value / 256 % 16), hexDigit (value / 16 % 16), hexDigit (value % 16)]

def escapeByte (character : UInt8) : Text :=
  if character = byteOf '"' then ascii "\\\""
  else if character = byteOf '\\' then ascii "\\\\"
  else if character = 0x08 then ascii "\\b"
  else if character = 0x0c then ascii "\\f"
  else if character = 0x0a then ascii "\\n"
  else if character = 0x0d then ascii "\\r"
  else if character = 0x09 then ascii "\\t"
  else if character < 0x20 then ascii "\\u" ++ hex4 character.toNat
  else [character]

def jsonEscape (value : Text) : Text := value.flatMap escapeByte

/-- The body of a reply to `GET` of the configuration. -/
def configurationBody (toml : Text) : Text :=
  ascii "\x7b\"toml\":\"" ++ jsonEscape toml ++ ascii "\"\x7d"

/-- A control character that has no letter of its own. -/
def writtenByCode (character : UInt8) : Bool :=
  decide (character < 0x20) && !(([0x08, 0x0c, 0x0a, 0x0d, 0x09] : Text).contains character)

private theorem not_plain_of_small {character : UInt8} (quote : character ≠ byteOf '"')
    (slash : character ≠ byteOf '\\')
    (large : ¬ character < 0x20) : JsonPlain character :=
  ⟨by simpa using large, quote, slash⟩

/-- The four digits of a small code. -/
def smallUnit (code : Nat) : CodeUnit :=
  ⟨.decimal 0, .decimal 0, .decimal (Fin.ofNat 10 (code / 16)),
    if code % 16 < 10 then .decimal (Fin.ofNat 10 (code % 16)) else .lower (Fin.ofNat 6 (code % 16 - 10))⟩

/-- What the escaper writes for a byte, as a part of a JSON string. -/
def escapeCharacter (character : UInt8) : JsonCharacter :=
  if quote : character = byteOf '"' then .escape .quote
  else if slash : character = byteOf '\\' then .escape .backslash
  else if character = 0x08 then .escape .backspace
  else if character = 0x0c then .escape .form_feed
  else if character = 0x0a then .escape .newline
  else if character = 0x0d then .escape .carriage_return
  else if character = 0x09 then .escape .tab
  else if small : character < 0x20 then
    .unicode (smallUnit character.toNat)
  else .plain character (not_plain_of_small quote slash small)

private theorem smallUnit_spec {character : UInt8} (small : character < 0x20) :
    (JsonCharacter.unicode (smallUnit character.toNat)).text = ascii "\\u" ++ hex4 character.toNat ∧
      ((smallUnit character.toNat).leads || (smallUnit character.toNat).trails) = false ∧
      String.utf8EncodeChar (Char.ofNat (smallUnit character.toNat).value) = [character] := by
  have codes : (List.range 32).all (fun code =>
      (JsonCharacter.unicode (smallUnit code)).text == ascii "\\u" ++ hex4 code &&
        !((smallUnit code).leads || (smallUnit code).trails) &&
        String.utf8EncodeChar (Char.ofNat (smallUnit code).value) == [UInt8.ofNat code]) = true := by decide
  have listed : character.toNat ∈ List.range 32 := List.mem_range.mpr (UInt8.lt_iff_toNat_lt.mp small)
  have here := List.all_eq_true.mp codes _ listed
  simp only [Bool.and_eq_true, beq_iff_eq, Bool.not_eq_true', UInt8.ofNat_toNat] at here
  exact ⟨here.1.1, here.1.2, here.2⟩

private theorem text_escapeCharacter (character : UInt8) : (escapeCharacter character).text = escapeByte character := by
  unfold escapeCharacter escapeByte
  split_ifs
  all_goals try rfl
  next small => exact (smallUnit_spec small).1

/-- The part stands for the byte. -/
theorem decode_escapeCharacter (character : UInt8) (rest : JsonString) :
    JsonString.decode (escapeCharacter character :: rest) = (JsonString.decode rest).map (character :: ·) := by
  unfold escapeCharacter
  split_ifs
  iterate 7
    next same =>
      rw [same]
      rfl
  next small =>
    obtain ⟨-, whole, byte⟩ := smallUnit_spec small
    rw [JsonString.decode_unicode whole, byte]
    rfl
  · rfl

theorem decode_escaped (value : Text) : JsonString.decode (value.map escapeCharacter) = some value := by
  induction value with
  | nil => rfl
  | cons character value ih => rw [List.map_cons, decode_escapeCharacter, ih, Option.map_some]

theorem jsonEscape_eq (value : Text) :
    jsonEscape value = (value.map escapeCharacter).flatMap JsonCharacter.text := by
  unfold jsonEscape
  rw [List.flatMap_map]
  exact congrArg (value.flatMap ·) (funext fun character => (text_escapeCharacter character).symm)

theorem unicode_escapeCharacter {character : UInt8} :
    (∃ unit, escapeCharacter character = .unicode unit) ↔ writtenByCode character = true := by
  unfold escapeCharacter writtenByCode
  split_ifs
  iterate 7
    next same =>
      rw [same]
      refine iff_of_false ?_ (by decide)
      intro coded
      obtain ⟨unit, other⟩ := coded
      cases other
  · simp_all
  · simp_all

theorem propertyValue_configurationBody (toml : Text) :
    propertyValue (configurationBody toml) (ascii "toml") =
      some (byteOf '"' :: (jsonEscape toml ++ ascii "\"\x7d")) := by
  rfl

/-- A text comes back from its reply unless it holds a control character that is
written by its code. -/
theorem configurationBody_readBack_iff (toml : Text) :
    jsonStringProperty (configurationBody toml) (ascii "toml") = some toml ↔
      ∀ character ∈ toml, writtenByCode character = false := by
  have closing : ascii "\"\x7d" = byteOf '"' :: ascii "\x7d" := by decide
  have read : jsonStringProperty (configurationBody toml) (ascii "toml") =
      readString [] false ((toml.map escapeCharacter).flatMap JsonCharacter.text ++
        byteOf '"' :: ascii "\x7d") := by
    rw [jsonStringProperty, propertyValue_configurationBody, jsonEscape_eq, closing]
    rfl
  rw [read]
  constructor
  · intro back character inside
    by_contra coded
    obtain ⟨unit, same⟩ := unicode_escapeCharacter.mpr (by simpa using coded)
    have listed : JsonCharacter.unicode unit ∈ toml.map escapeCharacter :=
      List.mem_map.mpr ⟨character, inside, same⟩
    rw [readString_unicode listed] at back
    cases back
  · intro plain
    have simple : ∀ unit, JsonCharacter.unicode unit ∉ toml.map escapeCharacter := by
      intro unit listed
      obtain ⟨character, inside, same⟩ := List.mem_map.mp listed
      have coded := unicode_escapeCharacter.mp ⟨unit, same⟩
      rw [plain character inside] at coded
      cases coded
    obtain ⟨text, decoded, read⟩ := readString_string simple [] (ascii "\x7d")
    rw [decode_escaped] at decoded
    cases decoded
    exact read

/-- A comment with an escape character in front of the version. -/
def coloredComment : Text := ascii "# \x1b[1m\nversion = 1\n"

theorem coloredComment_lost :
    jsonStringProperty (configurationBody coloredComment) (ascii "toml") ≠ some coloredComment := by
  decide

end DatagramTunneler
