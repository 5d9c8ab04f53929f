import DatagramTunneler.Control.HttpRequests
import DatagramTunneler.Dashboard.NumberText

/-! The requests that the dashboard makes of the control server, as texts of its
script. A browser sends them as HTTP; the server takes the alias and the action out
of the path and the options and the configuration out of the body. -/

set_option autoImplicit false

namespace DatagramTunneler

open Foundation

namespace Script

def hexCharacter (first : Char) (value : Nat) : Char :=
  if value < 10 then Char.ofNat ('0'.toNat + value) else Char.ofNat (first.toNat + value - 10)

/-- What `encodeURIComponent` leaves as it is. -/
def isUnreserved (character : Char) : Bool :=
  isAliasCharacter character || (js ".!~*'()").contains character

def encodeURIComponent (value : JsString) : JsString :=
  value.flatMap fun character =>
    if isUnreserved character then [character]
    else (String.utf8EncodeChar character).flatMap fun byte =>
      ['%', hexCharacter 'A' (byte.toNat / 16), hexCharacter 'A' (byte.toNat % 16)]

/-- `JSON.stringify` of a character inside a string. -/
def quoteCharacter (character : Char) : JsString :=
  if character = '"' then js "\\\""
  else if character = '\\' then js "\\\\"
  else if character.toNat = 0x08 then js "\\b"
  else if character.toNat = 0x0c then js "\\f"
  else if character.toNat = 0x0a then js "\\n"
  else if character.toNat = 0x0d then js "\\r"
  else if character.toNat = 0x09 then js "\\t"
  else if character.toNat < 0x20 then
    js "\\u00" ++ [hexCharacter 'a' (character.toNat / 16), hexCharacter 'a' (character.toNat % 16)]
  else [character]

/-- The values that the dashboard puts into a body. -/
inductive JsValue where
  | number (value : JsNumber)
  | string (value : JsString)

def JsValue.stringify : JsValue → JsString
  | .number (.finite value) => JsNumber.toString (.finite value)
  | .number _ => js "null"
  | .string value => '"' :: value.flatMap quoteCharacter ++ ['"']

/-- `JSON.stringify` of an object, its properties in the order in which they were set. -/
def stringify (properties : List (JsString × JsValue)) : JsString :=
  '\x7b' :: (js ",").intercalate (properties.map fun property =>
    (JsValue.string property.1).stringify ++ ':' :: property.2.stringify) ++ ['\x7d']

end Script

open Script

/-- What `request` is called with. -/
structure DashboardRequest where
  method : JsString := js "GET"
  path : JsString
  headers : List (JsString × JsString) := []
  body : JsString := []
  deriving DecidableEq

/-- The address, without the scheme and the host. -/
def DashboardRequest.target (request : DashboardRequest) : JsString := js "/api/v1" ++ request.path

def jsonHeaders : List (JsString × JsString) := [(js "Content-Type", js "application/json")]

/-- `action`. -/
def actionRequest (alias_ action : JsString) : DashboardRequest where
  method := js "POST"
  path := js "/tunnels/" ++ encodeURIComponent alias_ ++ js "/" ++ action

/-- The inputs of `#producer-form`. -/
structure ProducerForm where
  interval : JsString
  count : JsString
  payload_prefix : JsString

def ProducerForm.body (form : ProducerForm) : List (JsString × JsValue) :=
  [(js "interval_milliseconds", .number (JsNumber.ofString form.interval)),
    (js "payload_prefix", .string form.payload_prefix)] ++
  (if form.count.isEmpty then [] else [(js "count", .number (JsNumber.ofString form.count))])

def producerStartRequest (alias_ : JsString) (form : ProducerForm) : DashboardRequest where
  method := js "POST"
  path := js "/tunnels/" ++ encodeURIComponent alias_ ++ js "/producer/start"
  headers := jsonHeaders
  body := stringify form.body

def producerStopRequest (alias_ : JsString) : DashboardRequest where
  method := js "POST"
  path := js "/tunnels/" ++ encodeURIComponent alias_ ++ js "/producer/stop"

/-- The request of `saveConfiguration`. -/
def saveRequest (toml : JsString) : DashboardRequest where
  method := js "PUT"
  path := js "/config"
  headers := jsonHeaders
  body := stringify [(js "toml", .string toml)]

/-- What a browser does with a request: it is one HTTP message, which arrives in pieces. -/
structure DashboardRequest.Transmission (request : DashboardRequest) where
  message : HttpMessage
  requests : message.Requests (utf8 request.method) (utf8 request.target)
  headers : ∀ header ∈ request.headers, ⟨utf8 header.1, utf8 header.2⟩ ∈ message.fields
  body : message.body = utf8 request.body
  bytes : Text
  spelled : message.Spells bytes
  small : bytes.length ≤ kMaximumRequestSize + message.body.length
  smallBody : message.body.length ≤ kMaximumRequestSize
  segmentation : Segmentation kReceiveBufferSize bytes

/-- What `receiveRequest` makes of it. -/
def DashboardRequest.Transmission.received {request : DashboardRequest}
    (transmission : request.Transmission) : Option HttpRequest :=
  receiveRequest transmission.segmentation.segments

theorem DashboardRequest.Transmission.received_eq {request : DashboardRequest}
    (transmission : request.Transmission) : transmission.received =
      some (requestOf transmission.message (utf8 request.method) (utf8 request.target)) :=
  receiveRequest_of_requests transmission.requests transmission.spelled transmission.small
    transmission.smallBody transmission.segmentation

end DatagramTunneler
