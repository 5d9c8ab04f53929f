import DatagramTunneler.Dashboard.Script

/-! The guided editor of the dashboard: one card for each tunnel, checked and
written as a configuration text. An error is the message of the exception. -/

set_option autoImplicit false

namespace DatagramTunneler

/-- The fields of one card. -/
structure FormTunnel where
  alias_ : JsString
  mode : JsString
  udp_interface : JsString
  udp_group : JsString
  tcp_server : JsString
  tcp_listen_port : JsString
  udp_destination : JsString
  deriving DecidableEq, Repr

namespace ConfigurationForm

open Script

/-- Backslashes are doubled first, then quotes get one in front. -/
def tomlValue (value : JsString) : JsString :=
  let doubled := value.flatMap fun character => if character = '\\' then ['\\', '\\'] else [character]
  '"' :: doubled.flatMap (fun character => if character = '"' then ['\\', '"'] else [character]) ++ ['"']

/-- `/^[A-Za-z0-9_-]+$/`. -/
def matchesAlias (value : JsString) : Bool := !value.isEmpty && value.all isAliasCharacter

/-- `/^\d+$/`. -/
def matchesPort (value : JsString) : Bool := !value.isEmpty && value.all isDigit

/-- `/^.+:\d+$/`. The digits hold no colon, so they begin behind the last one. -/
def matchesEndpoint (value : JsString) : Bool :=
  let digits := value.reverse.takeWhile isDigit
  match value.reverse.drop digits.length with
  | ':' :: address => !digits.isEmpty && !address.isEmpty && address.all fun character => !isLineTerminator character
  | _ => false

/-- One pass of the loop; `aliases` are those of the tunnels before. -/
def validateFormTunnel (aliases : List JsString) (tunnel : FormTunnel) : Except JsString Unit :=
  if !matchesAlias tunnel.alias_ then
    .error (js "Tunnel aliases may contain letters, numbers, hyphens, and underscores only.")
  else if aliases.contains tunnel.alias_ then
    .error (js "Tunnel alias '" ++ tunnel.alias_ ++ js "' is duplicated.")
  else if tunnel.mode ≠ js "client" ∧ tunnel.mode ≠ js "server" then
    .error (js "Tunnel '" ++ tunnel.alias_ ++ js "' must be a client or server.")
  else if tunnel.udp_interface.isEmpty then
    .error (js "Tunnel '" ++ tunnel.alias_ ++ js "' requires a UDP interface.")
  else if tunnel.mode = js "client" ∧ (!matchesEndpoint tunnel.udp_group || !matchesEndpoint tunnel.tcp_server) then
    .error (js "Client tunnel '" ++ tunnel.alias_ ++
      js "' requires a UDP group address and port, plus a TCP server address and port.")
  else if tunnel.mode = js "server" ∧ !matchesPort tunnel.tcp_listen_port then
    .error (js "Server tunnel '" ++ tunnel.alias_ ++ js "' requires a TCP listen port.")
  else if tunnel.mode = js "server" ∧ !tunnel.udp_destination.isEmpty ∧
      tunnel.udp_destination ≠ js "replicate_client" ∧ !matchesEndpoint tunnel.udp_destination then
    .error (js "Server tunnel '" ++ tunnel.alias_ ++
      js "' requires a UDP destination address and port, or replicate_client.")
  else .ok ()

def validateFormTunnels (aliases : List JsString) : List FormTunnel → Except JsString Unit
  | [] => .ok ()
  | tunnel :: tunnels => do
      validateFormTunnel aliases tunnel
      validateFormTunnels (tunnel.alias_ :: aliases) tunnels

/-- The lines pushed for one tunnel. -/
def tunnelLines (tunnel : FormTunnel) : List JsString :=
  [[], js "[tunnels." ++ tunnel.alias_ ++ js "]", js "mode = " ++ tomlValue tunnel.mode,
    js "udp_interface = " ++ tomlValue tunnel.udp_interface] ++
  if tunnel.mode = js "client" then
    [js "udp_group = " ++ tomlValue tunnel.udp_group, js "tcp_server = " ++ tomlValue tunnel.tcp_server]
  else
    (js "tcp_listen_port = " ++ tunnel.tcp_listen_port) ::
      if tunnel.udp_destination.isEmpty then []
      else [js "udp_destination = " ++ tomlValue tunnel.udp_destination]

def serializeFormTunnels (tunnels : List FormTunnel) : Except JsString JsString := do
  validateFormTunnels [] tunnels
  let output := js "version = 1" :: tunnels.flatMap tunnelLines
  return ['\n'].intercalate output ++ js "\n"

end ConfigurationForm

end DatagramTunneler
