import DatagramTunneler.Configuration.WellFormed
import DatagramTunneler.Dashboard.Requests

/-! The requests of the dashboard as the server takes them: a button acts on the tunnel
it belongs to, and a producer gets what the form says. The server searches the body
for the names of the options, and the text of the form is among what it searches. -/

set_option autoImplicit false

namespace DatagramTunneler

open Foundation Script

/-! ## Texts of the script -/

/-- The script and the server escape alike. -/
theorem utf8_quoteCharacter (character : Char) :
    utf8 (quoteCharacter character) = (String.utf8EncodeChar character).flatMap escapeByte := by
  by_cases small : character.toNat < 128
  · have each : ∀ code < 128, utf8 (quoteCharacter (Char.ofNat code)) = escapeByte (UInt8.ofNat code) := by
      decide
    have here := each character.toNat small
    rw [Char.ofNat_toNat] at here
    rw [here, utf8EncodeChar_ascii small, List.flatMap_singleton]
    rfl
  · have high := utf8EncodeChar_high (Nat.le_of_not_lt small)
    have kept : quoteCharacter character = [character] := by
      have other : character ≠ '"' ∧ character ≠ '\\' := by
        constructor
        all_goals
          intro same
          rw [same] at small
          exact small (by decide)
      unfold quoteCharacter
      rw [if_neg other.1, if_neg other.2]
      repeat rw [if_neg (by omega)]
    have alone : ∀ byte ∈ String.utf8EncodeChar character, escapeByte byte = [byte] := by
      intro byte inside
      have each : ∀ code < 256, 128 ≤ code → escapeByte (UInt8.ofNat code) = [UInt8.ofNat code] := by
        decide +kernel
      have here := each byte.toNat byte.toNat_lt (high byte inside)
      rwa [UInt8.ofNat_toNat] at here
    rw [kept, utf8_cons, utf8_nil, List.append_nil, List.flatMap_congr alone, List.flatMap_singleton']

theorem utf8_string (value : JsString) :
    utf8 (JsValue.string value).stringify = byteOf '"' :: jsonEscape (utf8 value) ++ [byteOf '"'] := by
  have quote : String.utf8EncodeChar '"' = [byteOf '"'] := by decide
  have inner : utf8 (value.flatMap quoteCharacter) = jsonEscape (utf8 value) := by
    rw [utf8_flatMap, jsonEscape, utf8, List.flatMap_assoc]
    exact List.flatMap_congr fun character _ => utf8_quoteCharacter character
  rw [JsValue.stringify, utf8_append, utf8_cons, utf8_cons, inner, quote, utf8_nil, List.append_nil]
  rfl

private theorem isAliasCharacter_of_utf8 {character : Char} (allowed : ∀ byte ∈ String.utf8EncodeChar character,
    isalnum byte = true ∨ byte = byteOf '-' ∨ byte = byteOf '_') :
    character.toNat < 128 ∧ isAliasCharacter character = true := by
  have small : character.toNat < 128 := by
    by_contra large
    obtain ⟨byte, bytes, shape⟩ := List.exists_cons_of_ne_nil (String.utf8EncodeChar_ne_nil (c := character))
    have inside : byte ∈ String.utf8EncodeChar character := by simp [shape]
    have high := utf8EncodeChar_high (Nat.le_of_not_lt large) byte inside
    have each : ∀ code < 256, 128 ≤ code → ¬(isalnum (UInt8.ofNat code) = true ∨
        UInt8.ofNat code = byteOf '-' ∨ UInt8.ofNat code = byteOf '_') := by decide +kernel
    have here := each byte.toNat byte.toNat_lt high
    rw [UInt8.ofNat_toNat] at here
    exact here (allowed byte inside)
  have each : ∀ code < 128, (isalnum (UInt8.ofNat code) = true ∨ UInt8.ofNat code = byteOf '-' ∨
      UInt8.ofNat code = byteOf '_') → isAliasCharacter (Char.ofNat code) = true := by decide
  have here := each character.toNat small (allowed (codeByte character) (by rw [utf8EncodeChar_ascii small]; simp))
  rw [Char.ofNat_toNat] at here
  exact ⟨small, here⟩

/-! ## The alias in the path -/

/-- A text that may stand for an alias in a path. -/
def AliasText (alias_ : Text) : Prop :=
  ∀ byte ∈ alias_, isalnum byte = true ∨ byte = byteOf '-' ∨ byte = byteOf '_'

theorem AliasText.visible {alias_ : Text} (named : AliasText alias_) :
    byteOf '/' ∉ alias_ ∧ byteOf '?' ∉ alias_ := by
  constructor
  · intro inside
    exact absurd (named _ inside) (by decide)
  · intro inside
    exact absurd (named _ inside) (by decide)

private theorem utf8_encodeURIComponent {alias_ : JsString} (named : AliasText (utf8 alias_)) :
    utf8 (encodeURIComponent alias_) = utf8 alias_ := by
  have kept : encodeURIComponent alias_ = alias_ := by
    induction alias_ with
    | nil => rfl
    | cons character alias_ ih =>
        have first : isAliasCharacter character = true :=
          (isAliasCharacter_of_utf8 fun byte inside =>
            named byte (by rw [utf8_cons]; exact List.mem_append_left _ inside)).2
        have rest := ih fun byte inside =>
          named byte (by rw [utf8_cons]; exact List.mem_append_right _ inside)
        have unreserved : isUnreserved character = true := by rw [isUnreserved, first, Bool.true_or]
        rw [encodeURIComponent] at rest ⊢
        rw [List.flatMap_cons, if_pos unreserved, rest]
        rfl
  rw [kept]

/-- Parts with a slash in front of each. -/
def pathOf (parts : List Text) : Text := parts.flatMap fun part => byteOf '/' :: part

private theorem splitOnByte_pathOf {part : Text} {parts : List Text}
    (clean : ∀ other ∈ part :: parts, byteOf '/' ∉ other) :
    splitOnByte (byteOf '/') (part ++ pathOf parts) = part :: parts := by
  induction parts generalizing part with
  | nil =>
      have alone := @splitOnByte_prepend (byteOf '/') part [] [] [] (clean part (List.mem_cons_self ..)) rfl
      rw [List.append_nil] at alone
      rw [pathOf, List.flatMap_nil, List.append_nil, alone]
  | cons next parts ih =>
      have later := ih fun other inside => clean other (List.mem_cons_of_mem _ inside)
      rw [pathOf, List.flatMap_cons, List.cons_append, splitOnByte_append (clean part (List.mem_cons_self ..))]
      exact congrArg _ later

private theorem splitPath_pathOf {parts : List Text} (clean : ∀ part ∈ parts, byteOf '/' ∉ part) :
    splitPath (pathOf parts) = parts.filter fun part => !part.isEmpty := by
  cases parts with
  | nil => rfl
  | cons part parts =>
      have split : splitOnByte (byteOf '/') (pathOf (part :: parts)) = [] :: part :: parts := by
        have opened := @splitOnByte_append (byteOf '/') [] (part ++ pathOf parts) (by simp)
        rw [splitOnByte_pathOf clean] at opened
        exact opened
      rw [splitPath, split]
      rfl

private theorem route_of_post {request : HttpRequest} {parts : List Text} (post : request.method = ascii "POST")
    (target : request.target = pathOf parts)
    (clean : ∀ part ∈ parts, byteOf '/' ∉ part ∧ byteOf '?' ∉ part) :
    route request = routeParts request (parts.filter fun part => !part.isEmpty) := by
  have path : request.path = pathOf parts := by
    rw [HttpRequest.path, target]
    apply List.takeWhile_eq_self_iff.mpr
    intro byte inside
    obtain ⟨part, listed, within⟩ := List.mem_flatMap.mp inside
    rcases List.mem_cons.mp within with rfl | within
    · decide
    · have other : byte ≠ byteOf '?' := fun same => (clean part listed).2 (same ▸ within)
      simpa using other
  have apart : ascii "POST" ≠ ascii "GET" ∧ ascii "POST" ≠ ascii "PUT" := by decide
  have split := splitPath_pathOf fun part inside => (clean part inside).1
  unfold route
  simp only [post, apart.1, apart.2, false_and, if_false, path, split]

/-! ## Searching a body -/

/-- What is behind the first place of a name. -/
def behind (name text : Text) : Option Text :=
  (search (marker name) text).map fun position => text.drop (position + (marker name).length)

theorem readString_jsonEscape (value rest : Text) :
    readString [] false (jsonEscape value ++ byteOf '"' :: rest) =
      if value.any writtenByCode then none else some value := by
  rw [jsonEscape_eq]
  split_ifs with coded
  · obtain ⟨byte, inside, written⟩ := List.any_eq_true.mp coded
    obtain ⟨unit, same⟩ := unicode_escapeCharacter.mpr written
    exact readString_unicode (List.mem_map.mpr ⟨byte, inside, same⟩) [] _
  · have simple : ∀ unit, JsonCharacter.unicode unit ∉ value.map escapeCharacter := by
      intro unit listed
      obtain ⟨byte, inside, same⟩ := List.mem_map.mp listed
      exact coded (List.any_eq_true.mpr ⟨byte, inside, unicode_escapeCharacter.mp ⟨unit, same⟩⟩)
    obtain ⟨text, decoded, read⟩ := readString_string simple [] rest
    rw [decode_escaped] at decoded
    cases decoded
    exact read

/-- What the form asks for. -/
def ProducerForm.options (form : ProducerForm) (interval count : Nat) : Except Text ProducerOptions :=
  if 4294967295 < interval then .error (ascii "interval_milliseconds must be between 1 and 4294967295")
  else .ok {
    interval_ms := UInt32.ofNat interval
    count := UInt64.ofNat count
    payload_prefix := utf8 form.payload_prefix }

section

variable {form : ProducerForm} {interval count : Nat}

end

/-! ## Operations -/

/-- What the buttons of a tunnel and the form of the producer do. -/
inductive DashboardOperation where
  | tunnel (operation : Operation)
  | startProducer (form : ProducerForm)
  | stopProducer

/-- The `data-action` of a button. -/
def Operation.action : Operation → JsString
  | .start => js "start"
  | .stop => js "stop"
  | .restart => js "restart"

def DashboardOperation.request (alias_ : JsString) : DashboardOperation → DashboardRequest
  | .tunnel operation => actionRequest alias_ operation.action
  | .startProducer form => producerStartRequest alias_ form
  | .stopProducer => producerStopRequest alias_

section

variable {alias_ : JsString}

private theorem target_eq (named : AliasText (utf8 alias_)) {tail : JsString} {parts : List Text}
    (spelled : utf8 tail = pathOf parts) :
    utf8 (js "/api/v1" ++ (js "/tunnels/" ++ encodeURIComponent alias_ ++ tail)) =
      pathOf ([ascii "api", ascii "v1", ascii "tunnels", utf8 alias_] ++ parts) := by
  have front : utf8 (js "/api/v1" ++ js "/tunnels/") = ascii "/api/v1/tunnels/" := by decide
  have opened : ascii "/api/v1/tunnels/" = byteOf '/' :: ascii "api" ++ byteOf '/' :: ascii "v1" ++
      byteOf '/' :: ascii "tunnels" ++ [byteOf '/'] := by decide
  rw [← List.append_assoc, ← List.append_assoc, utf8_append, utf8_append, front, spelled,
    utf8_encodeURIComponent named, opened]
  simp [pathOf]

end

/-- Without a client tunnel the selection is empty, and what the panel of the producer stops is
the tunnel of this name. -/
theorem stopProducer_without_client (transmission : (DashboardOperation.request [] .stopProducer).Transmission) :
    transmission.received.map route = some (.ok (.call (.stop (ascii "producer")))) := by
  have post : utf8 (js "POST") = ascii "POST" := by decide
  have spelled : utf8 (js "/producer/stop") = pathOf [ascii "producer", ascii "stop"] := by decide
  have target := @target_eq [] (fun byte inside => nomatch inside) _ _ spelled
  rw [transmission.received_eq, Option.map_some]
  refine congrArg some ?_
  rw [route_of_post post target (by decide)]
  rfl

end DatagramTunneler
