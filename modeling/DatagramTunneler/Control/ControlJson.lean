import DatagramTunneler.Control.JsonEscape
import DatagramTunneler.Control.Types
import DatagramTunneler.Foundation.JsonReader

/-! The JSON texts of the control plane: snapshots of workers and the events that carry
them. How a `double` is written is left open, except that it is a JSON number. -/

set_option autoImplicit false

namespace DatagramTunneler

open Foundation

/-- What `output << value` writes for a finite `double`. -/
structure NumberRendering where
  text : ℚ → Text
  number : ℚ → JsonNumber
  spelled : ∀ value, text value = (number value).text

def kVersion : Text := ascii "v1"

def stateName : TunnelState → Text
  | .stopped => ascii "stopped"
  | .starting => ascii "starting"
  | .connecting => ascii "connecting"
  | .connected => ascii "connected"
  | .running => ascii "running"
  | .stopping => ascii "stopping"
  | .failed => ascii "failed"

def kindName (kind : RuntimeKind) : Text :=
  if kind = .tunnel then ascii "tunnel" else ascii "producer"

def eventKindName : EventKind → Text
  | .lifecycle => ascii "lifecycle"
  | .log => ascii "log"
  | .metrics => ascii "metrics"

def severityName : EventSeverity → Text
  | .info => ascii "info"
  | .warning => ascii "warning"
  | .error => ascii "error"

section Texts

variable (rendering : NumberRendering)

def optionalNumber (value : Option ℚ) : Text :=
  match value with
  | some value => rendering.text value
  | none => ascii "null"

/-- The body of the loop over the datagrams. -/
def datagramJson (datagram : DatagramDetail) : Text :=
  ascii "\x7b\"timestamp_unix_milliseconds\":" ++ to_string datagram.timestamp ++ ascii ",\"bytes\":" ++
    to_string datagram.bytes ++ ascii ",\"latency_milliseconds\":" ++
    optionalNumber rendering datagram.latency_milliseconds ++ ascii "\x7d"

def datagramsJson (datagrams : List DatagramDetail) : Text :=
  datagrams.zipIdx.flatMap fun indexed =>
    (if indexed.2 ≠ 0 then ascii "," else []) ++ datagramJson rendering indexed.1

def snapshotJson (snapshot : TunnelSnapshot) : Text :=
  ascii "\x7b\"alias\":\"" ++ jsonEscape snapshot.alias_ ++ ascii "\",\"kind\":\"" ++
    kindName snapshot.kind ++ ascii "\",\"state\":\"" ++ stateName snapshot.state ++
    ascii "\",\"detail\":\"" ++ jsonEscape snapshot.detail ++
    ascii "\",\"metrics\":\x7b\"datagram_count\":" ++
    to_string snapshot.metrics.datagram_count.toNat ++ ascii ",\"byte_count\":" ++
    to_string snapshot.metrics.byte_count.toNat ++ ascii ",\"throughput_bytes_per_second\":" ++
    rendering.text snapshot.metrics.throughput_bytes_per_second ++
    ascii ",\"average_latency_milliseconds\":" ++
    optionalNumber rendering snapshot.metrics.average_latency_milliseconds ++
    ascii ",\"p50_latency_milliseconds\":" ++
    optionalNumber rendering snapshot.metrics.p50_latency_milliseconds ++
    ascii ",\"p99_latency_milliseconds\":" ++
    optionalNumber rendering snapshot.metrics.p99_latency_milliseconds ++
    ascii ",\"maximum_latency_milliseconds\":" ++
    optionalNumber rendering snapshot.metrics.maximum_latency_milliseconds ++
    ascii "\x7d,\"recent_datagrams\":[" ++ datagramsJson rendering snapshot.recent_datagrams ++
    ascii "]\x7d"

def eventJson (event : ControlEvent) : Text :=
  ascii "\x7b\"api_version\":\"" ++ kVersion ++ ascii "\",\"event\":\x7b\"kind\":\"" ++
    eventKindName event.kind ++ ascii "\",\"severity\":\"" ++ severityName event.severity ++
    ascii "\",\"timestamp_unix_milliseconds\":" ++ to_string event.timestamp ++
    ascii ",\"alias\":\"" ++ jsonEscape event.alias_ ++ ascii "\",\"message\":\"" ++
    jsonEscape event.message ++ ascii "\"" ++
    (match event.snapshot with
      | some snapshot => ascii ",\"snapshot\":" ++ snapshotJson rendering snapshot
      | none => []) ++
    ascii "\x7d\x7d"

end Texts

/-! ## What a reader finds -/

section Values

variable (rendering : NumberRendering)

def optionalValue : Option ℚ → JsonValue
  | some value => .number (rendering.number value).value
  | none => .null

def datagramValue (datagram : DatagramDetail) : JsonValue :=
  .object [(ascii "timestamp_unix_milliseconds", .number datagram.timestamp),
    (ascii "bytes", .number datagram.bytes),
    (ascii "latency_milliseconds", optionalValue rendering datagram.latency_milliseconds)]

def metricsValue (metrics : TunnelMetrics) : JsonValue :=
  .object [(ascii "datagram_count", .number metrics.datagram_count.toNat),
    (ascii "byte_count", .number metrics.byte_count.toNat),
    (ascii "throughput_bytes_per_second",
      .number (rendering.number metrics.throughput_bytes_per_second).value),
    (ascii "average_latency_milliseconds",
      optionalValue rendering metrics.average_latency_milliseconds),
    (ascii "p50_latency_milliseconds", optionalValue rendering metrics.p50_latency_milliseconds),
    (ascii "p99_latency_milliseconds", optionalValue rendering metrics.p99_latency_milliseconds),
    (ascii "maximum_latency_milliseconds",
      optionalValue rendering metrics.maximum_latency_milliseconds)]

/-- The members of a `Runtime` in the interface description. -/
def snapshotValue (snapshot : TunnelSnapshot) : JsonValue :=
  .object [(ascii "alias", .string snapshot.alias_), (ascii "kind", .string (kindName snapshot.kind)),
    (ascii "state", .string (stateName snapshot.state)), (ascii "detail", .string snapshot.detail),
    (ascii "metrics", metricsValue rendering snapshot.metrics),
    (ascii "recent_datagrams", .array (snapshot.recent_datagrams.map (datagramValue rendering)))]

/-- An event message; the snapshot is there when the event has one. -/
def eventValue (event : ControlEvent) : JsonValue :=
  .object [(ascii "api_version", .string kVersion), (ascii "event", .object
    ([(ascii "kind", .string (eventKindName event.kind)),
      (ascii "severity", .string (severityName event.severity)),
      (ascii "timestamp_unix_milliseconds", .number event.timestamp),
      (ascii "alias", .string event.alias_), (ascii "message", .string event.message)] ++
      (event.snapshot.toList.map fun snapshot =>
        (ascii "snapshot", snapshotValue rendering snapshot))))]

end Values

/-! ## Numbers -/

def decimalDigits (value : Nat) : List (Fin 10) :=
  if value < 10 then [Fin.ofNat 10 value]
  else decimalDigits (value / 10) ++ [Fin.ofNat 10 (value % 10)]

private theorem decimalDigits_text (value : Nat) : (decimalDigits value).map digitByte = to_string value := by
  have character : ∀ digit : Fin 10, UInt8.ofNat (Nat.digitChar digit.val).toNat = digitByte digit := by
    decide
  have here : ∀ number, UInt8.ofNat (Nat.digitChar (number % 10)).toNat =
      digitByte (Fin.ofNat 10 number) := fun number => character (Fin.ofNat 10 number)
  induction value using decimalDigits.induct with
  | case1 value small =>
      have single := here value
      rw [Nat.mod_eq_of_lt small] at single
      rw [decimalDigits, if_pos small, to_string_eq, Nat.toDigits_of_lt_base small]
      simp [single]
  | case2 value large ih =>
      have last := here (value % 10)
      rw [Nat.mod_mod] at last
      rw [decimalDigits, if_neg large, List.map_append, ih, to_string_eq, to_string_eq,
        Nat.toDigits_of_base_le (b := 10) (by decide) (Nat.not_lt.mp large), List.map_append]
      simp [last]

private theorem decimalDigits_number (value : Nat) : digitsNumber (decimalDigits value) = value := by
  induction value using decimalDigits.induct with
  | case1 value small =>
      rw [decimalDigits, if_pos small]
      simp [digitsNumber, Nat.mod_eq_of_lt small]
  | case2 value large ih =>
      rw [decimalDigits, if_neg large, digitsNumber, List.foldl_append]
      unfold digitsNumber at ih
      rw [ih]
      simp
      omega

private theorem decimalDigits_ne_nil (value : Nat) : decimalDigits value ≠ [] := by
  rw [decimalDigits]
  split <;> simp

/-- No leading zeros. -/
theorem decimalDigits_head {value : Nat} (zero : (decimalDigits value).head? = some 0) :
    decimalDigits value = [0] := by
  induction value using decimalDigits.induct with
  | case1 value small =>
      rw [decimalDigits, if_pos small] at zero ⊢
      rw [Option.some.inj zero]
  | case2 value large ih =>
      have nonempty := decimalDigits_ne_nil (value / 10)
      rw [decimalDigits, if_neg large, List.head?_append_of_ne_nil _ nonempty] at zero
      have number := decimalDigits_number (value / 10)
      rw [ih zero] at number
      have : value / 10 = 0 := number.symm
      omega

def naturalNumber (value : Nat) : JsonNumber where
  negative := false
  whole := decimalDigits value
  wellFormed := ⟨decimalDigits_ne_nil value, decimalDigits_head⟩
  fraction := []
  exponent := none

private theorem naturalNumber_text (value : Nat) : (naturalNumber value).text = to_string value := by
  simp only [JsonNumber.text, naturalNumber, JsonNumber.fractionText, JsonNumber.exponentText,
    decimalDigits_text, List.isEmpty_nil, if_true, Bool.false_eq_true, if_false, List.nil_append,
    List.append_nil]

private theorem naturalNumber_value (value : Nat) : (naturalNumber value).value = value := by
  simp [JsonNumber.value, naturalNumber, JsonNumber.power, decimalDigits_number]

/-! ## The written texts as JSON -/

def stringTree (value : Text) : Json := .string (value.map escapeCharacter)

def numberTree (value : Nat) : Json := .number (naturalNumber value)

def member (name : Text) (value : Json) : JsonMember Json :=
  ⟨[], name.map escapeCharacter, [], [], value, []⟩

theorem stringTree_text (value : Text) :
    (stringTree value).text = byteOf '"' :: (jsonEscape value ++ [byteOf '"']) := by
  rw [stringTree, Json.text, JsonString.text, ← jsonEscape_eq]
  rfl

theorem memberText_member (name : Text) (value : Json) : Json.memberText (member name value) =
    byteOf '"' :: (jsonEscape name ++ byteOf '"' :: byteOf ':' :: value.text) := by
  rw [member, Json.memberText, JsonString.text, ← jsonEscape_eq]
  simp only [JsonBlanks.text, List.map_nil, List.nil_append, List.append_nil, List.cons_append,
    List.append_assoc]
  rfl

theorem memberValue_member (name : Text) (value : Json) : Json.memberValue? (member name value) =
    value.value?.map fun value => (name, value) := by
  rw [member, Json.memberValue?, decode_escaped, Option.bind_some]

private theorem jsonEscape_kindName (kind : RuntimeKind) : jsonEscape (kindName kind) = kindName kind := by
  cases kind <;> rfl

private theorem jsonEscape_stateName (state : TunnelState) :
    jsonEscape (stateName state) = stateName state := by
  cases state <;> rfl

private theorem jsonEscape_eventKindName (kind : EventKind) :
    jsonEscape (eventKindName kind) = eventKindName kind := by
  cases kind <;> rfl

private theorem jsonEscape_severityName (severity : EventSeverity) :
    jsonEscape (severityName severity) = severityName severity := by
  cases severity <;> rfl

section Trees

variable (rendering : NumberRendering)

def optionalTree : Option ℚ → Json
  | some value => .number (rendering.number value)
  | none => .null

def datagramTree (datagram : DatagramDetail) : Json :=
  .object [] [member (ascii "timestamp_unix_milliseconds") (numberTree datagram.timestamp),
    member (ascii "bytes") (numberTree datagram.bytes),
    member (ascii "latency_milliseconds") (optionalTree rendering datagram.latency_milliseconds)]

def metricsTree (metrics : TunnelMetrics) : Json :=
  .object [] [member (ascii "datagram_count") (numberTree metrics.datagram_count.toNat),
    member (ascii "byte_count") (numberTree metrics.byte_count.toNat),
    member (ascii "throughput_bytes_per_second")
      (.number (rendering.number metrics.throughput_bytes_per_second)),
    member (ascii "average_latency_milliseconds")
      (optionalTree rendering metrics.average_latency_milliseconds),
    member (ascii "p50_latency_milliseconds")
      (optionalTree rendering metrics.p50_latency_milliseconds),
    member (ascii "p99_latency_milliseconds")
      (optionalTree rendering metrics.p99_latency_milliseconds),
    member (ascii "maximum_latency_milliseconds")
      (optionalTree rendering metrics.maximum_latency_milliseconds)]

def snapshotTree (snapshot : TunnelSnapshot) : Json :=
  .object [] [member (ascii "alias") (stringTree snapshot.alias_),
    member (ascii "kind") (stringTree (kindName snapshot.kind)),
    member (ascii "state") (stringTree (stateName snapshot.state)),
    member (ascii "detail") (stringTree snapshot.detail),
    member (ascii "metrics") (metricsTree rendering snapshot.metrics),
    member (ascii "recent_datagrams")
      (.array [] (snapshot.recent_datagrams.map fun datagram =>
        ⟨[], datagramTree rendering datagram, []⟩))]

def eventTree (event : ControlEvent) : Json :=
  .object [] [member (ascii "api_version") (stringTree kVersion),
    member (ascii "event") (.object []
      ([member (ascii "kind") (stringTree (eventKindName event.kind)),
        member (ascii "severity") (stringTree (severityName event.severity)),
        member (ascii "timestamp_unix_milliseconds") (numberTree event.timestamp),
        member (ascii "alias") (stringTree event.alias_),
        member (ascii "message") (stringTree event.message)] ++
      event.snapshot.toList.map fun snapshot =>
        member (ascii "snapshot") (snapshotTree rendering snapshot)))]

private theorem optionalTree_text (value : Option ℚ) :
    (optionalTree rendering value).text = optionalNumber rendering value := by
  cases value with
  | none => rfl
  | some value => exact (rendering.spelled value).symm

private theorem datagramTree_text (datagram : DatagramDetail) :
    (datagramTree rendering datagram).text = datagramJson rendering datagram := by
  unfold datagramTree datagramJson
  simp only [Json.text, Json.membersText, memberText_member, numberTree, naturalNumber_text,
    optionalTree_text, List.append_assoc, List.cons_append]
  rfl

private theorem itemsText_datagrams (datagrams : List DatagramDetail) :
    Json.itemsText (datagrams.map fun datagram => ⟨[], datagramTree rendering datagram, []⟩) =
      datagramsJson rendering datagrams := by
  have later : ∀ (datagrams : List DatagramDetail) (start : Nat),
      ((datagrams.zipIdx (start + 1)).flatMap fun indexed =>
        (if indexed.2 ≠ 0 then ascii "," else []) ++ datagramJson rendering indexed.1) =
      datagrams.flatMap fun datagram => byteOf ',' :: datagramJson rendering datagram := by
    intro datagrams
    induction datagrams with
    | nil => intro start; rfl
    | cons datagram datagrams ih =>
        intro start
        rw [List.zipIdx_cons, List.flatMap_cons, List.flatMap_cons, ih, if_pos (Nat.succ_ne_zero _)]
        rfl
  have items : ∀ (datagram : DatagramDetail) (datagrams : List DatagramDetail),
      Json.itemsText ((datagram :: datagrams).map fun datagram =>
        ⟨[], datagramTree rendering datagram, []⟩) = datagramJson rendering datagram ++
          datagrams.flatMap fun datagram => byteOf ',' :: datagramJson rendering datagram := by
    intro datagram datagrams
    induction datagrams generalizing datagram with
    | nil =>
        simp only [List.map_cons, List.map_nil, Json.itemsText, Json.itemText, datagramTree_text,
          JsonBlanks.text, List.nil_append, List.append_nil, List.flatMap_nil]
    | cons next datagrams ih =>
        have rest := ih next
        rw [List.map_cons] at rest
        simp only [List.map_cons, Json.itemsText, rest, Json.itemText, datagramTree_text,
          JsonBlanks.text, List.map_nil, List.nil_append, List.append_nil, List.flatMap_cons,
          List.cons_append]
        rfl
  cases datagrams with
  | nil => rfl
  | cons datagram datagrams =>
      rw [items, datagramsJson, List.zipIdx_cons, List.flatMap_cons, later]
      rfl

set_option maxRecDepth 4096 in
theorem snapshotTree_text (snapshot : TunnelSnapshot) :
    (snapshotTree rendering snapshot).text = snapshotJson rendering snapshot := by
  unfold snapshotTree snapshotJson metricsTree
  simp only [Json.text, Json.membersText, memberText_member, numberTree, naturalNumber_text,
    optionalTree_text, stringTree_text, itemsText_datagrams, jsonEscape_kindName,
    jsonEscape_stateName, ← rendering.spelled, List.append_assoc, List.cons_append]
  -- With the written parts named, only the fixed texts are left to be computed.
  generalize jsonEscape snapshot.alias_ = alias_
  generalize jsonEscape snapshot.detail = detail
  generalize kindName snapshot.kind = kind
  generalize stateName snapshot.state = state
  generalize datagramsJson rendering snapshot.recent_datagrams = datagrams
  generalize to_string snapshot.metrics.datagram_count.toNat = datagram_count
  generalize to_string snapshot.metrics.byte_count.toNat = byte_count
  generalize rendering.text snapshot.metrics.throughput_bytes_per_second = throughput
  generalize optionalNumber rendering snapshot.metrics.average_latency_milliseconds = average
  generalize optionalNumber rendering snapshot.metrics.p50_latency_milliseconds = p50
  generalize optionalNumber rendering snapshot.metrics.p99_latency_milliseconds = p99
  generalize optionalNumber rendering snapshot.metrics.maximum_latency_milliseconds = maximum
  rfl

theorem eventTree_text (event : ControlEvent) :
    (eventTree rendering event).text = eventJson rendering event := by
  unfold eventTree eventJson
  have kind := jsonEscape_eventKindName event.kind
  have severity := jsonEscape_severityName event.severity
  generalize eventKindName event.kind = kindText at kind ⊢
  generalize severityName event.severity = severityText at severity ⊢
  cases event.snapshot with
  | none =>
      simp only [Json.text, Json.membersText, memberText_member, numberTree, naturalNumber_text,
        stringTree_text, kind, severity, List.append_assoc,
        List.cons_append, List.nil_append, Option.toList_none, List.map_nil]
      generalize jsonEscape event.alias_ = alias_
      generalize jsonEscape event.message = message
      generalize to_string event.timestamp = timestamp
      rfl
  | some snapshot =>
      simp only [Json.text, Json.membersText, memberText_member, numberTree, naturalNumber_text,
        stringTree_text, kind, severity, snapshotTree_text,
        List.append_assoc, List.cons_append, List.nil_append, Option.toList_some, List.map_cons,
        List.map_nil]
      generalize jsonEscape event.alias_ = alias_
      generalize jsonEscape event.message = message
      generalize to_string event.timestamp = timestamp
      generalize snapshotJson rendering snapshot = snapshotText
      rfl

/-! ### Their values -/

private theorem optionalTree_value (value : Option ℚ) :
    (optionalTree rendering value).value? = some (optionalValue rendering value) := by
  cases value <;> rfl

private theorem datagramTree_value (datagram : DatagramDetail) :
    (datagramTree rendering datagram).value? = some (datagramValue rendering datagram) := by
  simp only [datagramTree, Json.value?, Json.membersValue?, memberValue_member, numberTree,
    naturalNumber_value, optionalTree_value, Option.map_some, Option.bind_some]
  rfl

private theorem itemsValue_datagrams (datagrams : List DatagramDetail) :
    Json.itemsValue? (datagrams.map fun datagram => ⟨[], datagramTree rendering datagram, []⟩) =
      some (datagrams.map (datagramValue rendering)) := by
  induction datagrams with
  | nil => rfl
  | cons datagram datagrams ih =>
      rw [List.map_cons, Json.itemsValue?, ih, Json.itemValue?, datagramTree_value]
      rfl

theorem stringTree_value (value : Text) : (stringTree value).value? = some (.string value) := by
  rw [stringTree, Json.value?, decode_escaped, Option.map_some]

theorem snapshotTree_value (snapshot : TunnelSnapshot) :
    (snapshotTree rendering snapshot).value? = some (snapshotValue rendering snapshot) := by
  simp only [snapshotTree, metricsTree, Json.value?, Json.membersValue?, memberValue_member,
    numberTree, naturalNumber_value, optionalTree_value, stringTree_value, itemsValue_datagrams,
    Option.map_some, Option.bind_some]
  rfl

theorem eventTree_value (event : ControlEvent) :
    (eventTree rendering event).value? = some (eventValue rendering event) := by
  unfold eventTree eventValue
  cases event.snapshot with
  | none =>
      simp only [Json.value?, Json.membersValue?, memberValue_member, numberTree,
        naturalNumber_value, stringTree_value, Option.map_some, Option.bind_some, Option.toList_none,
        List.map_nil, List.append_nil]
  | some snapshot =>
      simp only [Json.value?, Json.membersValue?, memberValue_member, numberTree,
        naturalNumber_value, stringTree_value, snapshotTree_value, Option.map_some,
        Option.bind_some, Option.toList_some, List.map_cons, List.map_nil, List.cons_append,
        List.nil_append]

/-- For every snapshot and event the text is of the grammar, and the reader finds the documented
members in it and nothing else, every string as the bytes it was made from. -/
theorem controlJson_read (snapshot : TunnelSnapshot) (event : ControlEvent) :
    ((∃ tree : Json, tree.text = snapshotJson rendering snapshot) ∧
      JsonReader.read (snapshotJson rendering snapshot) = some (snapshotValue rendering snapshot)) ∧
    ((∃ tree : Json, tree.text = eventJson rendering event) ∧
      JsonReader.read (eventJson rendering event) = some (eventValue rendering event)) := by
  have read : ∀ tree : Json, JsonReader.read tree.text = tree.value? := by
    intro tree
    have whole := JsonReader.read_text [] tree []
    rw [JsonBlanks.text, List.map_nil, List.nil_append, List.append_nil] at whole
    exact whole
  refine ⟨⟨⟨_, snapshotTree_text rendering snapshot⟩, ?_⟩,
    ⟨⟨_, eventTree_text rendering event⟩, ?_⟩⟩
  · rw [← snapshotTree_text, read, snapshotTree_value]
  · rw [← eventTree_text, read, eventTree_value]

end Trees

end DatagramTunneler
