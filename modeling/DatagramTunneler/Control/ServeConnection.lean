import DatagramTunneler.Control.ControlJson
import DatagramTunneler.Control.ControlService
import DatagramTunneler.Control.DirectCommand
import DatagramTunneler.Control.ReceiveRequest
import DatagramTunneler.Control.WebSocketAccept

/-! One connection of the control server: which branch a request is served by, and
the response it is sent. Calls of the runtime and replacements of the configuration
are made between the two, so the response is given what came of them. -/

set_option autoImplicit false

namespace DatagramTunneler

def kHealthPath : Text := ascii "/api/v1/health"
def kTunnelsPath : Text := ascii "/api/v1/tunnels"
def kRuntimesPath : Text := ascii "/api/v1/runtimes"
def kConfigPath : Text := ascii "/api/v1/config"
def kEventsPath : Text := ascii "/api/v1/events"

/-- The parts between slashes that are not empty. -/
def splitPath (path : Text) : List Text :=
  (splitOnByte (byteOf '/') path).filter fun part => !part.isEmpty

/-- The files that the build embeds. -/
structure WebAssets where
  kIndexHtml : Text
  kStylesCss : Text
  kAppJs : Text

structure TunnelSummary where
  alias_ : Text
  mode : Text
  udp_destination : Text
  equivalent_direct_command : Text
  deriving DecidableEq

def modeName (tunnel : NamedTunnel) : Text :=
  if tunnel.config.is_client_ then ascii "client" else ascii "server"

def udpDestination (tunnel : NamedTunnel) : Text :=
  if !tunnel.config.is_client_ && tunnel.config.use_clt_grp_ then kReplicateClientDestination
  else endpoint tunnel.config.udp_dst_ip_ tunnel.config.udp_dst_port_

namespace ControlService

def listTunnels (service : ControlService) : List TunnelSummary :=
  service.configuration_.tunnels.map fun named_tunnel =>
    ⟨named_tunnel.alias_, modeName named_tunnel, udpDestination named_tunnel, directCommand named_tunnel⟩

def configurationToml (service : ControlService) : Except Text Text :=
  match service.file with
  | none => .error (ascii "could not read configuration at " ++ service.configuration_path_)
  | some content => .ok content

end ControlService

/-! ## Routes -/

inductive Route where
  | index
  | styles
  | script
  | health
  | tunnels
  | runtimes
  | config
  | updateConfig (toml : Text)
  | events (key : Text)
  | tunnel (alias_ : Text)
  | call (call : ControlCall)
  | unknown
  deriving DecidableEq

def tunnelRequest (alias_ action : Text) : Except Text ControlCall :=
  if action = ascii "start" then .ok (.start alias_)
  else if action = ascii "stop" then .ok (.stop alias_)
  else if action = ascii "restart" then .ok (.restart alias_)
  else .error (ascii "unknown tunnel action")

/-- The branches behind `splitPath`. -/
def routeParts (request : HttpRequest) : List Text → Except Text Route
  | api :: v1 :: tunnels :: alias_ :: rest =>
      if api = ascii "api" ∧ v1 = ascii "v1" ∧ tunnels = ascii "tunnels" then
        match rest with
        | [] => if request.method = ascii "GET" then .ok (.tunnel alias_) else .ok .unknown
        | [action] =>
            if request.method = ascii "POST" then (tunnelRequest alias_ action).map .call
            else .ok .unknown
        | [producer, action] =>
            if request.method = ascii "POST" ∧ producer = ascii "producer" then
              (producerRequest alias_ action request.body).map .call
            else .ok .unknown
        | _ => .ok .unknown
      else .ok .unknown
  | _ => .ok .unknown

/-- The target up to its query. -/
def HttpRequest.path (request : HttpRequest) : Text := request.target.takeWhile (· ≠ byteOf '?')

/-- The branch a request is served by, or the error thrown before the branch does anything. -/
def route (request : HttpRequest) : Except Text Route :=
  let path := request.path
  let get := request.method = ascii "GET"
  if get ∧ (path = ascii "/" ∨ path = ascii "/index.html") then .ok .index
  else if get ∧ path = ascii "/assets/styles.css" then .ok .styles
  else if get ∧ path = ascii "/assets/app.js" then .ok .script
  else if get ∧ path = kHealthPath then .ok .health
  else if get ∧ path = kTunnelsPath then .ok .tunnels
  else if get ∧ path = kRuntimesPath then .ok .runtimes
  else if get ∧ path = kConfigPath then .ok .config
  else if request.method = ascii "PUT" ∧ path = kConfigPath then
    match jsonStringProperty request.body (ascii "toml") with
    | none => .error (ascii "request must provide a JSON string property named 'toml'")
    | some toml => .ok (.updateConfig toml)
  else if get ∧ path = kEventsPath ∧
      request.headers[ascii "upgrade"]?.map lower = some (ascii "websocket") then
    match request.headers[ascii "sec-websocket-key"]? with
    | none => .error (ascii "WebSocket request is missing Sec-WebSocket-Key")
    | some key => .ok (.events key)
  else routeParts request (splitPath path)

/-! ## Responses -/

def errorJson (code message : Text) : Text :=
  ascii "\x7b\"error\":\x7b\"code\":\"" ++ code ++ ascii "\",\"message\":\"" ++ jsonEscape message ++
    ascii "\"\x7d\x7d"

def reasonOf (status : Nat) : Text :=
  if status = 200 then ascii "OK"
  else if status = 202 then ascii "Accepted"
  else if status = 400 then ascii "Bad Request"
  else if status = 404 then ascii "Not Found"
  else if status = 409 then ascii "Conflict"
  else ascii "Internal Server Error"

/-- The response of `sendJson`. -/
def jsonResponse (status : Nat) (body : Text) : Text :=
  ascii "HTTP/1.1 " ++ to_string status ++ ascii " " ++ reasonOf status ++
    ascii "\r\nContent-Type: application/json\r\nContent-Length: " ++ to_string body.length ++
    ascii "\r\nConnection: close\r\n\r\n" ++ body

/-- The response of `sendAsset`. -/
def assetResponse (content_type body : Text) : Text :=
  ascii "HTTP/1.1 200 OK\r\nContent-Type: " ++ content_type ++
    ascii "; charset=utf-8\r\nContent-Length: " ++ to_string body.length ++
    ascii "\r\nCache-Control: no-store\r\nX-Content-Type-Options: nosniff\r\n" ++
    ascii "Content-Security-Policy: default-src 'self'; connect-src 'self' ws: wss:; style-src 'self'; script-src 'self'\r\n" ++
    ascii "Connection: close\r\n\r\n" ++ body

/-- Both loops that write an array: a comma in front of every item but the first. -/
def arrayItems (items : List Text) : Text :=
  items.zipIdx.flatMap fun indexed => (if indexed.2 ≠ 0 then ascii "," else []) ++ indexed.1

def healthJson : Text := ascii "\x7b\"service\":\"dgramtunneler\",\"api_version\":\"v1\",\"ready\":true\x7d"

def summaryJson (tunnel : TunnelSummary) : Text :=
  ascii "\x7b\"alias\":\"" ++ jsonEscape tunnel.alias_ ++ ascii "\",\"mode\":\"" ++
    jsonEscape tunnel.mode ++ ascii "\",\"udp_destination\":\"" ++ jsonEscape tunnel.udp_destination ++
    ascii "\",\"equivalent_direct_command\":\"" ++ jsonEscape tunnel.equivalent_direct_command ++
    ascii "\"\x7d"

def tunnelsJson (tunnels : List TunnelSummary) : Text :=
  ascii "\x7b\"tunnels\":[" ++ arrayItems (tunnels.map summaryJson) ++ ascii "]\x7d"

def runtimesJson (rendering : NumberRendering) (snapshots : List TunnelSnapshot) : Text :=
  ascii "\x7b\"runtimes\":[" ++ arrayItems (snapshots.map (snapshotJson rendering)) ++ ascii "]\x7d"

def tunnelJson (tunnel : NamedTunnel) (summary : Option TunnelSummary) : Text :=
  ascii "\x7b\"alias\":\"" ++ jsonEscape tunnel.alias_ ++ ascii "\",\"mode\":\"" ++
    (if tunnel.config.is_client_ then ascii "client" else ascii "server") ++ ascii "\"" ++
    (match summary with
      | some summary => ascii ",\"udp_destination\":\"" ++ jsonEscape summary.udp_destination ++ ascii "\""
      | none => []) ++
    ascii "\x7d"

def updatedJson : Text := ascii "\x7b\"updated\":true\x7d"

def acceptedJson : Text := ascii "\x7b\"accepted\":true\x7d"

section

variable (assets : WebAssets) (rendering : NumberRendering) (service : ControlService)
  (snapshots : List TunnelSnapshot)

/-- The response of a branch, or what it throws. `outcome` is what the replacement or the call
of the branch came to; `none` stands for an access outside an array. -/
def Route.respond (outcome : Except Text Unit) : Route → Option (Except Text Text)
  | .index => some (.ok (assetResponse (ascii "text/html") assets.kIndexHtml))
  | .styles => some (.ok (assetResponse (ascii "text/css") assets.kStylesCss))
  | .script => some (.ok (assetResponse (ascii "application/javascript") assets.kAppJs))
  | .health => some (.ok (jsonResponse 200 healthJson))
  | .tunnels => some (.ok (jsonResponse 200 (tunnelsJson service.listTunnels)))
  | .runtimes => some (.ok (jsonResponse 200 (runtimesJson rendering snapshots)))
  | .config => some (service.configurationToml.map fun toml => jsonResponse 200 (configurationBody toml))
  | .updateConfig _ => some (outcome.map fun _ => jsonResponse 200 updatedJson)
  | .events key => (switchingProtocols key).map .ok
  | .tunnel alias_ => some ((service.tunnel alias_).map fun tunnel =>
      jsonResponse 200 (tunnelJson tunnel (service.listTunnels.find? (·.alias_ = alias_))))
  | .call _ => some (outcome.map fun _ => jsonResponse 202 acceptedJson)
  | .unknown => some (.ok (jsonResponse 404
      (errorJson (ascii "not_found") (ascii "unknown control API endpoint"))))

/-- The response to an exception with this text; `what()` is read up to its first NUL. -/
def invalidRequest (what : Text) : Text :=
  jsonResponse 400 (errorJson (ascii "invalid_request") (c_str what))

/-- What a connection is sent; `none` as the request is one that could not be received. -/
def serveConnection (request : Option HttpRequest) (outcome : Except Text Unit) : Option Text :=
  match request with
  | none => some (invalidRequest (ascii "could not parse HTTP request"))
  | some request =>
      match route request with
      | .error what => some (invalidRequest what)
      | .ok branch => (branch.respond assets rendering service snapshots outcome).map fun
          | .ok response => response
          | .error what => invalidRequest what

end

end DatagramTunneler
