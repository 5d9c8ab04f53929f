import DatagramTunneler.Foundation.Trim
import DatagramTunneler.Foundation.Utf8
import Mathlib.Data.List.Forall2

/-! Messages of HTTP/1.1 as they are written, and responses as a client reads them. A
message is a first line, fields, an empty line and a body; where the body ends is
known from the announced length only, so two messages may stand one behind the other. -/

set_option autoImplicit false

namespace Foundation

structure HttpField where
  name : List UInt8
  value : List UInt8
  deriving DecidableEq, Repr

structure HttpMessage where
  line : List UInt8
  fields : List HttpField
  body : List UInt8
  deriving DecidableEq, Repr

structure HttpResponse where
  status : Nat
  reason : List UInt8
  fields : List HttpField
  body : List UInt8
  deriving DecidableEq, Repr

namespace Http

def carriageReturn : UInt8 := 0x0d
def lineFeed : UInt8 := 0x0a
def space : UInt8 := 0x20

def lineEnd : List UInt8 := [carriageReturn, lineFeed]

def isDigit (byte : UInt8) : Bool := 0x30 ≤ byte && byte ≤ 0x39

def isTokenByte (byte : UInt8) : Bool :=
  isDigit byte || (0x41 ≤ byte && byte ≤ 0x5a) || (0x61 ≤ byte && byte ≤ 0x7a) ||
    ("!#$%&*+-.^_|~".toList.map codeByte ++ [0x27, 0x60]).contains byte

/-- A byte of a field value or of a reason. -/
def isTextByte (byte : UInt8) : Bool := byte = 0x09 || (0x20 ≤ byte && byte ≠ 0x7f)

def isBlank (byte : UInt8) : Bool := byte = 0x20 || byte = 0x09

def lowercase (bytes : List UInt8) : List UInt8 :=
  bytes.map fun byte => if 0x41 ≤ byte ∧ byte ≤ 0x5a then byte + 0x20 else byte

def number (digits : List UInt8) : Nat :=
  digits.foldl (fun value digit => value * 10 + (digit.toNat - 48)) 0

def version : List UInt8 := "HTTP/1.1".toList.map codeByte

def statusDigits (status : Nat) : List UInt8 :=
  [UInt8.ofNat (48 + status / 100), UInt8.ofNat (48 + status / 10 % 10), UInt8.ofNat (48 + status % 10)]

end Http

open Http

/-! ## Writing -/

def HttpField.text (field : HttpField) : List UInt8 :=
  field.name ++ [codeByte ':', space] ++ field.value ++ lineEnd

def HttpMessage.head (message : HttpMessage) : List UInt8 :=
  message.line ++ lineEnd ++ message.fields.flatMap HttpField.text

def HttpMessage.text (message : HttpMessage) : List UInt8 := message.head ++ lineEnd ++ message.body

/-- A line that says a field; the blanks in front of the value are no part of it. -/
def HttpField.Line (field : HttpField) (line : List UInt8) : Prop :=
  ∃ gap : List UInt8, (∀ byte ∈ gap, isBlank byte = true) ∧
    line = field.name ++ codeByte ':' :: gap ++ field.value

/-- The bytes say the message, with as many blanks in front of its values as the sender likes. -/
def HttpMessage.Spells (message : HttpMessage) (bytes : List UInt8) : Prop :=
  ∃ lines, List.Forall₂ HttpField.Line message.fields lines ∧
    bytes = message.line ++ lineEnd ++ lines.flatMap (· ++ lineEnd) ++ lineEnd ++ message.body

/-- A token, and a value that does not begin with a blank. -/
structure HttpField.Legal (field : HttpField) : Prop where
  named : field.name ≠ []
  token : ∀ byte ∈ field.name, isTokenByte byte = true
  text : ∀ byte ∈ field.value, isTextByte byte = true
  opened : ∀ byte, field.value.head? = some byte → isBlank byte = false

/-- A value that does not end with a blank either is what every reader takes for the value. -/
structure HttpField.WellFormed (field : HttpField) : Prop extends field.Legal where
  closed : ∀ byte, field.value.getLast? = some byte → isBlank byte = false

private theorem HttpField.legal_iff {field : HttpField} : field.Legal ↔
    field.name ≠ [] ∧ field.name.all isTokenByte = true ∧ field.value.all isTextByte = true ∧
      field.value.head?.all (!isBlank ·) = true := by
  simp only [List.all_eq_true, Option.all_eq_true, Bool.not_eq_true']
  constructor
  · intro legal
    exact ⟨legal.named, legal.token, legal.text, legal.opened⟩
  · intro holds
    obtain ⟨named, token, text, opened⟩ := holds
    exact ⟨named, token, text, opened⟩

instance (field : HttpField) : Decidable field.Legal :=
  decidable_of_iff' _ HttpField.legal_iff

private theorem HttpField.wellFormed_iff {field : HttpField} : field.WellFormed ↔
    field.Legal ∧ field.value.getLast?.all (!isBlank ·) = true := by
  simp only [Option.all_eq_true, Bool.not_eq_true']
  constructor
  · intro wellFormed
    exact ⟨wellFormed.toLegal, wellFormed.closed⟩
  · intro holds
    obtain ⟨legal, closed⟩ := holds
    exact ⟨legal, closed⟩

instance (field : HttpField) : Decidable field.WellFormed :=
  decidable_of_iff' _ HttpField.wellFormed_iff

/-- As it is written here, a message has one blank in front of each value. -/
theorem HttpMessage.spells_text (message : HttpMessage) : message.Spells message.text := by
  refine ⟨message.fields.map fun field => field.name ++ codeByte ':' :: [space] ++ field.value, ?_, ?_⟩
  · rw [List.forall₂_map_right_iff]
    exact List.forall₂_same.mpr fun field _ => ⟨[space], List.forall_mem_singleton.mpr rfl, rfl⟩
  · rw [HttpMessage.text, HttpMessage.head, List.flatMap_map]
    rfl

def HttpResponse.message (response : HttpResponse) : HttpMessage where
  line := version ++ space :: statusDigits response.status ++ space :: response.reason
  fields := response.fields
  body := response.body

def HttpResponse.text (response : HttpResponse) : List UInt8 := response.message.text

/-! ## Reading -/

namespace Http

/-- The line up to its end, and what is behind it. Half of a line end is refused. -/
def readLine : List UInt8 → Option (List UInt8 × List UInt8)
  | [] => none
  | byte :: rest =>
      if byte = carriageReturn then
        if rest.head? = some lineFeed then some ([], rest.tail) else none
      else if byte = lineFeed then none
      else (readLine rest).map fun (line, behind) => (byte :: line, behind)

def readField (line : List UInt8) : Option HttpField :=
  let name := line.takeWhile (· ≠ codeByte ':')
  let value := line.drop (name.length + 1)
  if name.length < line.length ∧ name ≠ [] ∧ name.all isTokenByte ∧ value.all isTextByte then
    some ⟨name, trimBy isBlank value⟩
  else none

/-- The fields up to the empty line. -/
def readFields : Nat → List UInt8 → Option (List HttpField × List UInt8)
  | 0, _ => none
  | fuel + 1, bytes => do
      let (line, bytes) ← readLine bytes
      if line = [] then return ([], bytes)
      let field ← readField line
      let (fields, bytes) ← readFields fuel bytes
      return (field :: fields, bytes)

def valuesOf (fields : List HttpField) (name : String) : List (List UInt8) :=
  (fields.filter fun field => lowercase field.name = name.toList.map codeByte).map (·.value)

theorem valuesOf_cons (field : HttpField) (fields : List HttpField) (name : String) :
    valuesOf (field :: fields) name =
      (if lowercase field.name = name.toList.map codeByte then [field.value] else []) ++
        valuesOf fields name := by
  unfold valuesOf
  rw [List.filter_cons]
  by_cases same : lowercase field.name = name.toList.map codeByte
  · rw [if_pos same, if_pos (decide_eq_true same)]
    rfl
  · rw [if_neg same, if_neg (by simpa using same)]
    rfl

/-- The length of a body that is not sent in chunks. -/
def announcedLength (fields : List HttpField) : Option Nat :=
  match valuesOf fields "transfer-encoding", valuesOf fields "content-length" with
  | [], [digits] => if digits ≠ [] ∧ digits.all isDigit then some (number digits) else none
  | _, _ => none

def readStatusLine (line : List UInt8) : Option (Nat × List UInt8) :=
  let digits := (line.drop 9).take 3
  if line.take 9 = version ++ [space] ∧ digits.length = 3 ∧ digits.all isDigit ∧
      (line.drop 12).head? = some space ∧ (line.drop 13).all isTextByte then
    some (number digits, line.drop 13)
  else none

/-- Responses that end with their head. -/
def bodyless (status : Nat) : Bool := status / 100 = 1 || status = 204 || status = 304

end Http

/-- The first response in a stream, and what is behind it. -/
def HttpResponse.read (bytes : List UInt8) : Option (HttpResponse × List UInt8) := do
  let (line, bytes) ← readLine bytes
  let (status, reason) ← readStatusLine line
  let (fields, bytes) ← readFields bytes.length bytes
  if bodyless status then return (⟨status, reason, fields, []⟩, bytes)
  let length ← announcedLength fields
  if bytes.length < length then none
  else return (⟨status, reason, fields, bytes.take length⟩, bytes.drop length)

/-- What a server may send to a client that reads so. -/
structure HttpResponse.Sendable (response : HttpResponse) : Prop where
  status : 100 ≤ response.status ∧ response.status < 1000
  reason : ∀ byte ∈ response.reason, isTextByte byte = true
  fields : ∀ field ∈ response.fields, field.WellFormed
  framed : if bodyless response.status = true then response.body = []
    else announcedLength response.fields = some response.body.length

/-- A request whose body is as long as it announces; without a body it may announce nothing.
Blanks behind a value are taken for a part of it. -/
structure HttpMessage.Requests (message : HttpMessage) (method target : List UInt8) : Prop where
  line : message.line = method ++ space :: target ++ space :: version
  method : method ≠ [] ∧ ∀ byte ∈ method, isTokenByte byte = true
  target : target ≠ [] ∧ ∀ byte ∈ target, 0x21 ≤ byte ∧ byte ≤ 0x7e
  fields : ∀ field ∈ message.fields, field.Legal
  framed : (valuesOf message.fields "content-length" = [] ∧ message.body = []) ∨
    announcedLength message.fields = some message.body.length

/-! ## Reading what was written -/

namespace Http

private theorem isTextByte_of_blank {byte : UInt8} (blank : isBlank byte = true) : isTextByte byte = true := by
  rcases (by simpa [isBlank] using blank : byte = 0x20 ∨ byte = 0x09) with rfl | rfl <;> decide

theorem isTextByte_apart {byte : UInt8} (text : isTextByte byte = true) :
    byte ≠ carriageReturn ∧ byte ≠ lineFeed := by
  constructor
  · intro same
    rw [same] at text
    exact absurd text (by decide)
  · intro same
    rw [same] at text
    exact absurd text (by decide)

theorem isTokenByte_apart {byte : UInt8} (token : isTokenByte byte = true) :
    byte ≠ codeByte ':' ∧ isTextByte byte = true := by
  have each : ∀ code < 256, isTokenByte (UInt8.ofNat code) = true →
      UInt8.ofNat code ≠ codeByte ':' ∧ isTextByte (UInt8.ofNat code) = true := by decide +kernel
  have here := each byte.toNat byte.toNat_lt
  rw [UInt8.ofNat_toNat] at here
  exact here token

private theorem readLine_append {line : List UInt8} (text : ∀ byte ∈ line, isTextByte byte = true)
    (rest : List UInt8) : readLine (line ++ lineEnd ++ rest) = some (line, rest) := by
  induction line with
  | nil => rfl
  | cons byte line ih =>
      obtain ⟨noReturn, noFeed⟩ := isTextByte_apart (text byte (List.mem_cons_self ..))
      rw [List.cons_append, List.cons_append, readLine, if_neg noReturn, if_neg noFeed,
        ih fun byte inside => text byte (List.mem_cons_of_mem _ inside), Option.map_some]

private theorem takeWhile_name {name : List UInt8} (token : ∀ byte ∈ name, isTokenByte byte = true)
    (rest : List UInt8) : (name ++ codeByte ':' :: rest).takeWhile (· ≠ codeByte ':') = name := by
  rw [List.takeWhile_append_of_pos]
  · rw [List.takeWhile_cons_of_neg (by simp), List.append_nil]
  · intro byte inside
    simpa using (isTokenByte_apart (token byte inside)).1

end Http

variable {field : HttpField}

theorem HttpField.Legal.line_text (legal : field.Legal) {line : List UInt8} (said : field.Line line) :
    ∀ byte ∈ line, isTextByte byte = true := by
  obtain ⟨gap, blank, rfl⟩ := said
  intro byte inside
  rcases List.mem_append.mp inside with inside | inside
  · rcases List.mem_append.mp inside with inside | inside
    · exact (isTokenByte_apart (legal.token byte inside)).2
    · rcases List.mem_cons.mp inside with rfl | inside
      · decide
      · exact isTextByte_of_blank (blank byte inside)
  · exact legal.text byte inside

private theorem HttpField.WellFormed.trim_value (wellFormed : field.WellFormed) :
    trimBy isBlank (space :: field.value) = field.value := by
  have skipped : trimBy isBlank (space :: field.value) = trimBy isBlank field.value := rfl
  rw [skipped]
  cases shape : field.value with
  | nil => rfl
  | cons first rest =>
      have opened : field.value.head? = some first := by rw [shape]; rfl
      obtain ⟨last, closed⟩ : ∃ last, field.value.getLast? = some last := by
        rw [shape]
        exact ⟨_, List.getLast?_eq_some_getLast (List.cons_ne_nil first rest)⟩
      rw [← shape]
      exact trimBy_eq_self opened (wellFormed.opened first opened) closed (wellFormed.closed last closed)

private theorem HttpField.WellFormed.readField (wellFormed : field.WellFormed) :
    readField (field.name ++ [codeByte ':', space] ++ field.value) = some field := by
  have layout : field.name ++ [codeByte ':', space] ++ field.value =
      field.name ++ codeByte ':' :: space :: field.value := by simp
  have text : ∀ byte ∈ space :: field.value, isTextByte byte = true := by
    intro byte inside
    rcases List.mem_cons.mp inside with rfl | inside
    · decide
    · exact wellFormed.text byte inside
  have behind : (field.name ++ codeByte ':' :: space :: field.value).drop (field.name.length + 1) =
      space :: field.value := by
    rw [← List.drop_drop, List.drop_left]
    rfl
  rw [layout, Http.readField]
  simp only [takeWhile_name wellFormed.token]
  rw [behind, if_pos, wellFormed.trim_value]
  exact ⟨by simp, wellFormed.named, List.all_eq_true.mpr wellFormed.token, List.all_eq_true.mpr text⟩

namespace Http

private theorem readFields_append {fields : List HttpField} (wellFormed : ∀ field ∈ fields, field.WellFormed)
    {fuel : Nat} (enough : fields.length < fuel) (rest : List UInt8) :
    readFields fuel (fields.flatMap HttpField.text ++ lineEnd ++ rest) = some (fields, rest) := by
  induction fields generalizing fuel with
  | nil =>
      obtain ⟨fuel, rfl⟩ := Nat.exists_eq_succ_of_ne_zero (Nat.ne_of_gt enough)
      have empty := @readLine_append [] (by simp) rest
      rw [List.nil_append] at empty
      rw [List.flatMap_nil, List.nil_append, readFields, empty]
      rfl
  | cons field fields ih =>
      obtain ⟨fuel, rfl⟩ := Nat.exists_eq_succ_of_ne_zero (Nat.ne_of_gt (Nat.zero_lt_of_lt enough))
      have here := wellFormed field (List.mem_cons_self ..)
      have later := ih (fun field inside => wellFormed field (List.mem_cons_of_mem _ inside))
        (Nat.lt_of_succ_lt_succ enough)
      have layout : (field :: fields).flatMap HttpField.text ++ lineEnd ++ rest =
          (field.name ++ [codeByte ':', space] ++ field.value) ++ lineEnd ++
            (fields.flatMap HttpField.text ++ lineEnd ++ rest) := by
        simp [HttpField.text]
      have line : field.name ++ [codeByte ':', space] ++ field.value ≠ [] := by simp
      have said : field.Line (field.name ++ [codeByte ':', space] ++ field.value) :=
        ⟨[space], List.forall_mem_singleton.mpr rfl, rfl⟩
      rw [layout, readFields, readLine_append (here.toLegal.line_text said)]
      simp only [Option.bind_eq_bind, Option.bind_some, if_neg line, here.readField, later]
      rfl

private theorem length_fields_le (fields : List HttpField) :
    fields.length ≤ (fields.flatMap HttpField.text).length := by
  induction fields with
  | nil => exact Nat.le_refl 0
  | cons field fields ih =>
      have line : lineEnd.length = 2 := rfl
      rw [List.flatMap_cons, List.length_append, List.length_cons, HttpField.text, List.length_append, line]
      omega

private theorem digit_spec : ∀ digit < 10, isDigit (UInt8.ofNat (48 + digit)) = true ∧
    (UInt8.ofNat (48 + digit)).toNat - 48 = digit ∧ isTextByte (UInt8.ofNat (48 + digit)) = true := by
  decide

private theorem statusDigits_spec {status : Nat} (small : status < 1000) :
    (statusDigits status).all isDigit = true ∧ number (statusDigits status) = status ∧
      ∀ byte ∈ statusDigits status, isTextByte byte = true := by
  have first := digit_spec (status / 100) (by omega)
  have second := digit_spec (status / 10 % 10) (by omega)
  have third := digit_spec (status % 10) (by omega)
  refine ⟨?_, ?_, ?_⟩
  · simp only [statusDigits, List.all_cons, List.all_nil, first.1, second.1, third.1, Bool.and_self]
  · simp only [number, statusDigits, List.foldl_cons, List.foldl_nil, first.2.1, second.2.1, third.2.1]
    omega
  · intro byte inside
    simp only [statusDigits, List.mem_cons, List.not_mem_nil, or_false] at inside
    rcases inside with rfl | rfl | rfl
    · exact first.2.2
    · exact second.2.2
    · exact third.2.2

private theorem readStatusLine_append {status : Nat} (small : status < 1000) {reason : List UInt8}
    (text : ∀ byte ∈ reason, isTextByte byte = true) :
    readStatusLine (version ++ space :: statusDigits status ++ space :: reason) =
      some (status, reason) := by
  obtain ⟨digits, value, -⟩ := statusDigits_spec small
  have layout : version ++ space :: statusDigits status ++ space :: reason =
      (version ++ [space]) ++ (statusDigits status ++ space :: reason) := by simp
  have front : (version ++ [space]).length = 9 := by decide
  have three : (statusDigits status).length = 3 := rfl
  have taken : ((version ++ [space]) ++ (statusDigits status ++ space :: reason)).take 9 =
      version ++ [space] := List.take_left' front
  have dropped : ((version ++ [space]) ++ (statusDigits status ++ space :: reason)).drop 9 =
      statusDigits status ++ space :: reason := List.drop_left' front
  have twelve : ((version ++ [space]) ++ (statusDigits status ++ space :: reason)).drop 12 =
      space :: reason := by
    rw [show 12 = 9 + 3 from rfl, ← List.drop_drop, dropped, List.drop_left' three]
  have thirteen : ((version ++ [space]) ++ (statusDigits status ++ space :: reason)).drop 13 =
      reason := by
    rw [show 13 = 12 + 1 from rfl, ← List.drop_drop, twelve]
    rfl
  rw [layout, readStatusLine]
  simp only [taken, dropped, twelve, thirteen, List.take_left' three]
  rw [if_pos, value]
  exact ⟨trivial, three, digits, rfl, List.all_eq_true.mpr text⟩

end Http

theorem HttpResponse.Sendable.line_text {response : HttpResponse} (sendable : response.Sendable) :
    ∀ byte ∈ response.message.line, isTextByte byte = true := by
  intro byte inside
  have front : (version ++ [space]).all isTextByte = true := by decide
  have line : response.message.line =
      version ++ [space] ++ statusDigits response.status ++ [space] ++ response.reason := by
    simp [HttpResponse.message]
  rw [line, List.mem_append, List.mem_append, List.mem_append] at inside
  rcases inside with ((inside | inside) | inside) | inside
  · exact List.all_eq_true.mp front byte inside
  · exact (statusDigits_spec sendable.status.2).2.2 byte inside
  · rw [List.mem_singleton.mp inside]
    decide
  · exact sendable.reason byte inside

/-- A response comes out of a stream as it went in, whatever is behind it. -/
theorem HttpResponse.read_text {response : HttpResponse} (sendable : response.Sendable)
    (rest : List UInt8) : HttpResponse.read (response.text ++ rest) = some (response, rest) := by
  have layout : response.text ++ rest = response.message.line ++ lineEnd ++
      (response.fields.flatMap HttpField.text ++ lineEnd ++ (response.body ++ rest)) := by
    simp [HttpResponse.text, HttpMessage.text, HttpMessage.head, HttpResponse.message]
  have enough : response.fields.length <
      (response.fields.flatMap HttpField.text ++ lineEnd ++ (response.body ++ rest)).length := by
    have some_ := length_fields_le response.fields
    have line : lineEnd.length = 2 := rfl
    rw [List.length_append, List.length_append, line]
    omega
  have status : readStatusLine response.message.line = some (response.status, response.reason) :=
    readStatusLine_append sendable.status.2 sendable.reason
  have framed := sendable.framed
  rw [layout, HttpResponse.read, readLine_append sendable.line_text]
  simp only [Option.bind_eq_bind, Option.bind_some, status, readFields_append sendable.fields enough]
  split_ifs at framed ⊢ with bare
  · obtain ⟨status, reason, fields, body⟩ := response
    cases framed
    rfl
  · rw [framed, Option.bind_some, if_neg (by rw [List.length_append]; omega), List.take_left,
      List.drop_left]
    rfl

end Foundation
