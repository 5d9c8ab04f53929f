import DatagramTunneler.Control.ServeConnection
import DatagramTunneler.Foundation.Http

/-! What a client finds in the responses of the control server. Every branch means to
send a status with a value, a file or an accepted upgrade; a client that knows HTTP
and JSON, and nothing of the server, finds exactly that, with nothing behind it. -/

set_option autoImplicit false

namespace DatagramTunneler

open Foundation

inductive Document where
  | json (value : JsonValue)
  | file (content_type body : Text)
  | switched (accept_key : Text)

structure Answer where
  status : Nat
  document : Document

def summaryValue (tunnel : TunnelSummary) : JsonValue :=
  .object [(ascii "alias", .string tunnel.alias_), (ascii "mode", .string tunnel.mode),
    (ascii "udp_destination", .string tunnel.udp_destination),
    (ascii "equivalent_direct_command", .string tunnel.equivalent_direct_command)]

def tunnelValue (tunnel : NamedTunnel) (summary : Option TunnelSummary) : JsonValue :=
  .object ([(ascii "alias", .string tunnel.alias_), (ascii "mode", .string (modeName tunnel))] ++
    summary.toList.map fun summary => (ascii "udp_destination", .string summary.udp_destination))

def errorValue (code message : Text) : JsonValue :=
  .object [(ascii "error", .object [(ascii "code", .string code), (ascii "message", .string message)])]

/-- An object with a single flag that is set. -/
def flagValue (name : Text) : JsonValue := .object [(name, .boolean true)]

def refusal (what : Text) : Answer := ⟨400, .json (errorValue (ascii "invalid_request") (c_str what))⟩

section

variable (assets : WebAssets) (rendering : NumberRendering) (service : ControlService)
  (snapshots : List TunnelSnapshot)

/-- What a branch means to send. -/
def Route.answer (outcome : Except Text Unit) : Route → Except Text Answer
  | .index => .ok ⟨200, .file (ascii "text/html; charset=utf-8") assets.kIndexHtml⟩
  | .styles => .ok ⟨200, .file (ascii "text/css; charset=utf-8") assets.kStylesCss⟩
  | .script => .ok ⟨200, .file (ascii "application/javascript; charset=utf-8") assets.kAppJs⟩
  | .health => .ok ⟨200, .json (.object [(ascii "service", .string (ascii "dgramtunneler")),
      (ascii "api_version", .string kVersion), (ascii "ready", .boolean true)])⟩
  | .tunnels =>
      .ok ⟨200, .json (.object [(ascii "tunnels", .array (service.listTunnels.map summaryValue))])⟩
  | .runtimes =>
      .ok ⟨200, .json (.object [(ascii "runtimes", .array (snapshots.map (snapshotValue rendering)))])⟩
  | .config => service.configurationToml.map fun toml =>
      ⟨200, .json (.object [(ascii "toml", .string toml)])⟩
  | .updateConfig _ => outcome.map fun _ => ⟨200, .json (flagValue (ascii "updated"))⟩
  | .events key => .ok ⟨101, .switched (Base64.encode (Sha1.sha1 (key ++ kWebSocketGuid)))⟩
  | .tunnel alias_ => (service.tunnel alias_).map fun tunnel =>
      ⟨200, .json (tunnelValue tunnel (service.listTunnels.find? (·.alias_ = alias_)))⟩
  | .call _ => outcome.map fun _ => ⟨202, .json (flagValue (ascii "accepted"))⟩
  | .unknown =>
      .ok ⟨404, .json (errorValue (ascii "not_found") (ascii "unknown control API endpoint"))⟩

/-- What a connection is to be answered with. -/
def answer (request : Option HttpRequest) (outcome : Except Text Unit) : Answer :=
  match request with
  | none => refusal (ascii "could not parse HTTP request")
  | some request =>
      match (route request).bind (Route.answer assets rendering service snapshots outcome) with
      | .ok answer => answer
      | .error what => refusal what

end

/-- The response has the status and holds the document. -/
structure Carries (response : HttpResponse) (answer : Answer) : Prop where
  status : response.status = answer.status
  document : match answer.document with
    | .json value => Http.valuesOf response.fields "content-type" = [ascii "application/json"] ∧
        JsonReader.read response.body = some value
    | .file content_type body =>
        Http.valuesOf response.fields "content-type" = [content_type] ∧ response.body = body
    | .switched accept_key =>
        Http.valuesOf response.fields "sec-websocket-accept" = [accept_key] ∧ response.body = []

/-- A client finds the answer in this text, and the stream goes on behind it. -/
def Sends (text : Text) (answer : Answer) : Prop :=
  ∃ response, Carries response answer ∧
    ∀ rest, HttpResponse.read (text ++ rest) = some (response, rest)

/-! ## The bodies as JSON -/

/-- A text of the grammar is read as the value of its tree. -/
theorem read_of_tree {tree : Json} {text : Text} {value : JsonValue} (spelled : tree.text = text)
    (means : tree.value? = some value) : JsonReader.read text = some value := by
  rw [← spelled, JsonReader.read_tree, means]

theorem read_configurationBody (toml : Text) :
    JsonReader.read (configurationBody toml) = some (.object [(ascii "toml", .string toml)]) := by
  refine @read_of_tree (.object [] [member (ascii "toml") (stringTree toml)]) _ _ ?_ ?_
  · simp only [configurationBody, Json.text, Json.membersText, memberText_member, stringTree_text,
      List.append_assoc, List.cons_append]
    generalize jsonEscape toml = written
    rfl
  · simp only [Json.value?, Json.membersValue?, memberValue_member, stringTree_value, Option.map_some,
      Option.bind_some]

def jsonFields (body : Text) : List HttpField :=
  [⟨ascii "Content-Type", ascii "application/json"⟩, ⟨ascii "Content-Length", to_string body.length⟩,
    ⟨ascii "Connection", ascii "close"⟩]

/-- A name with what is written between it and its value. -/
def fieldStart (name : Text) : Text := name ++ [codeByte ':', Http.space]

private theorem jsonResponse_eq {status : Nat} (digits : to_string status = Http.statusDigits status)
    (body : Text) :
    jsonResponse status body =
      (⟨status, reasonOf status, jsonFields body, body⟩ : HttpResponse).text := by
  have start : ascii "HTTP/1.1 " = Http.version ++ [Http.space] := by decide
  have gap : ascii " " = [Http.space] := by decide
  have middle : ascii "\r\nContent-Type: application/json\r\nContent-Length: " =
      Http.lineEnd ++ fieldStart (ascii "Content-Type") ++ ascii "application/json" ++ Http.lineEnd ++
        fieldStart (ascii "Content-Length") := by decide
  have final : ascii "\r\nConnection: close\r\n\r\n" =
      Http.lineEnd ++ fieldStart (ascii "Connection") ++ ascii "close" ++ Http.lineEnd ++
        Http.lineEnd := by decide
  rw [jsonResponse, start, gap, middle, final, digits]
  simp only [HttpResponse.text, HttpMessage.text, HttpMessage.head, HttpResponse.message, jsonFields,
    List.flatMap_cons, List.flatMap_nil, HttpField.text, fieldStart, List.append_assoc, List.append_nil,
    List.cons_append, List.nil_append]

/-- A value of bytes that are neither blanks nor control characters. -/
theorem wellFormed_of_visible {name value : Text} (named : name ≠ [])
    (token : name.all Http.isTokenByte = true)
    (visible : ∀ byte ∈ value, Http.isTextByte byte = true ∧ Http.isBlank byte = false) :
    (⟨name, value⟩ : HttpField).WellFormed where
  named := named
  token := List.all_eq_true.mp token
  text byte inside := (visible byte inside).1
  opened byte first := (visible byte (List.mem_of_mem_head? first)).2
  closed byte last := (visible byte (List.mem_of_getLast? last)).2

private theorem wellFormed_length (size : Nat) :
    (⟨ascii "Content-Length", to_string size⟩ : HttpField).WellFormed :=
  wellFormed_of_visible (by decide) (by decide) fun byte inside =>
    of_decide_eq_true (@of_isdigit (fun byte => decide (Http.isTextByte byte = true ∧
      Http.isBlank byte = false)) (by decide) byte (isdigit_to_string inside))

/-- The length that is written is the one a client waits for. -/
theorem announcedLength_of_written {fields : List HttpField} {size : Nat}
    (whole : Http.valuesOf fields "transfer-encoding" = [])
    (written : Http.valuesOf fields "content-length" = [to_string size]) :
    Http.announcedLength fields = some size := by
  have digits : (to_string size).all Http.isDigit = true := by
    apply List.all_eq_true.mpr
    intro byte inside
    have decimal := isdigit_to_string inside
    simp only [isdigit, Bool.and_eq_true, decide_eq_true_eq] at decimal
    simp only [Http.isDigit, Bool.and_eq_true, decide_eq_true_eq]
    exact decimal
  have value : Http.number (to_string size) = size := digitsValue_to_string size
  rw [Http.announcedLength, whole, written]
  simp only [digits, and_true, ne_eq, to_string_ne_nil, not_false_eq_true, if_true, value]

private theorem sends_of_sendable {response : HttpResponse} {text : Text} {answer : Answer}
    (spelled : text = response.text) (sendable : response.Sendable) (carries : Carries response answer) :
    Sends text answer := by
  subst spelled
  exact ⟨response, carries, response.read_text sendable⟩

theorem sends_jsonResponse {status : Nat} (known : status ∈ [200, 202, 400, 404]) {body : Text}
    {value : JsonValue} (read : JsonReader.read body = some value) :
    Sends (jsonResponse status body) ⟨status, .json value⟩ := by
  have spec : ∀ status ∈ [200, 202, 400, 404], to_string status = Http.statusDigits status ∧
      100 ≤ status ∧ status < 1000 ∧ Http.bodyless status = false ∧
      (reasonOf status).all Http.isTextByte = true := by decide
  obtain ⟨digits, low, high, bodied, reason⟩ := spec status known
  refine sends_of_sendable (jsonResponse_eq digits body) ⟨⟨low, high⟩, List.all_eq_true.mp reason, ?_, ?_⟩
    ⟨rfl, rfl, read⟩
  · intro field listed
    simp only [jsonFields, List.mem_cons, List.not_mem_nil, or_false] at listed
    rcases listed with rfl | rfl | rfl
    · decide
    · exact wellFormed_length _
    · decide
  · rw [if_neg (by simp [bodied])]
    exact announcedLength_of_written rfl rfl

section

variable (assets : WebAssets) (rendering : NumberRendering) (service : ControlService)
  (snapshots : List TunnelSnapshot)

end

end DatagramTunneler
