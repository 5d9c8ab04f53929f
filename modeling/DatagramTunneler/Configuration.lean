import DatagramTunneler.Network
import DatagramTunneler.Tunnel.Config
import Mathlib.Data.List.Basic

/-! The named-tunnel file format. A text is read line by line: a line opens a
section, assigns a key in the open one, or is blank. Only when the whole text has
been read are the sections, in the order of their aliases, made into tunnels.
Every error is the text of the exception thrown. -/

set_option autoImplicit false

namespace DatagramTunneler

/-- `std::map<std::string, std::string>`. -/
abbrev TunnelFields := Std.ExtTreeMap Text Text compare

def trim (value : Text) : Text :=
  ((value.dropWhile isspace).reverse.dropWhile isspace).reverse

/-- The rest of a line whose bytes so far leave `quoted` open or not. -/
def removeCommentFrom (quoted : Bool) : Text → Text
  | [] => []
  | byte :: rest =>
      if byte = byteOf '"' then byte :: removeCommentFrom (!quoted) rest
      else if byte = byteOf '#' ∧ !quoted then []
      else byte :: removeCommentFrom quoted rest

def removeComment (line : Text) : Text := removeCommentFrom false line

def isAlias (alias_ : Text) : Bool :=
  !alias_.isEmpty && decide (alias_.length ≤ 64) &&
    alias_.all fun byte => isalnum byte || byte == byteOf '-' || byte == byteOf '_'

def isIpv4Address (address : Text) : Bool := (inet_pton address).isSome

def parsePort (value field_name : Text) : Except Text UInt16 :=
  match stoul value with
  | .ok port =>
      if port = 0 ∨ 65535 < port then
        .error (field_name ++ ascii " must be a port in the range 1-65535")
      else .ok (UInt16.ofNat port)
  | .error _ => .error (field_name ++ ascii " must be a port in the range 1-65535")

def parseEndpoint (value field_name : Text) : Except Text (Text × UInt16) :=
  match rfind value (byteOf ':') with
  | none => .error (field_name ++ ascii " must be an IPv4 address followed by :port")
  | some separator =>
      if separator = 0 ∨ separator + 1 = value.length then
        .error (field_name ++ ascii " must be an IPv4 address followed by :port")
      else if !isIpv4Address (value.take separator) then
        .error (field_name ++ ascii " must contain a valid IPv4 address")
      else do
        let port ← parsePort (value.drop (separator + 1)) field_name
        return (value.take separator, port)

def parseValue (value field_name : Text) : Except Text Text :=
  if 2 ≤ value.length ∧ value.head? = some (byteOf '"') ∧ value.getLast? = some (byteOf '"') then
    let parsed := (value.drop 1).dropLast
    if (find parsed (byteOf '"')).isSome then
      .error (field_name ++ ascii " contains an unsupported quote character")
    else .ok parsed
  else if !value.isEmpty && value.all isdigit then .ok value
  else .error (field_name ++ ascii " must be a quoted string or integer")

def requiredField (fields : TunnelFields) (name alias_ : Text) : Except Text Text :=
  let missing := ascii "tunnel '" ++ alias_ ++ ascii "' is missing required field '" ++ name ++ ascii "'"
  match fields[name]? with
  | none => .error missing
  | some value => if value.isEmpty then .error missing else .ok value

structure NamedTunnel where
  alias_ : Text
  config : Config
  deriving DecidableEq, Repr

structure TunnelConfiguration where
  tunnels : List NamedTunnel
  deriving DecidableEq, Repr

def kReplicateClientDestination : Text := ascii "replicate_client"

def allowed_fields : List Text :=
  [ascii "mode", ascii "udp_interface", ascii "udp_group", ascii "tcp_server",
    ascii "tcp_listen_port", ascii "udp_destination"]

def makeClient (alias_ : Text) (fields : TunnelFields) (config : Config) : Except Text Config :=
  if fields.contains (ascii "tcp_listen_port") ∨ fields.contains (ascii "udp_destination") then
    .error (ascii "client tunnel '" ++ alias_ ++ ascii "' contains server-only fields")
  else do
    let tcp_server ← requiredField fields (ascii "tcp_server") alias_
    let (server_address, server_port) ← parseEndpoint tcp_server (ascii "tcp_server")
    let udp_group ← requiredField fields (ascii "udp_group") alias_
    let (group_address, group_port) ← parseEndpoint udp_group (ascii "udp_group")
    return { config with
      is_client_ := true
      tcp_srv_ip_ := server_address
      tcp_srv_port_ := server_port
      udp_dst_ip_ := group_address
      udp_dst_port_ := group_port
      use_clt_grp_ := false }

def makeServer (alias_ : Text) (fields : TunnelFields) (config : Config) : Except Text Config :=
  if fields.contains (ascii "tcp_server") ∨ fields.contains (ascii "udp_group") then
    .error (ascii "server tunnel '" ++ alias_ ++ ascii "' contains client-only fields")
  else do
    let tcp_listen_port ← requiredField fields (ascii "tcp_listen_port") alias_
    let port ← parsePort tcp_listen_port (ascii "tcp_listen_port")
    let config := { config with is_client_ := false, tcp_srv_port_ := port }
    match fields[ascii "udp_destination"]? with
    | none => return { config with use_clt_grp_ := true }
    | some destination =>
        if destination = kReplicateClientDestination then return { config with use_clt_grp_ := true }
        else
          let (address, port) ← parseEndpoint destination (ascii "udp_destination")
          return { config with use_clt_grp_ := false, udp_dst_ip_ := address, udp_dst_port_ := port }

def makeTunnel (interfaces : List Interface) (alias_ : Text) (fields : TunnelFields) :
    Except Text NamedTunnel :=
  match fields.keys.find? (· ∉ allowed_fields) with
  | some field => .error (ascii "tunnel '" ++ alias_ ++ ascii "' has unknown field '" ++ field ++ ascii "'")
  | none => do
      let udp_interface ← requiredField fields (ascii "udp_interface") alias_
      match resolveInterfaceIpv4 interfaces udp_interface with
      | none =>
          .error (ascii "tunnel '" ++ alias_ ++
            ascii "' has an invalid udp_interface; use a local interface name or IPv4 address")
      | some interface_address => do
          let config : Config :=
            { udp_iface_reference_ := udp_interface, udp_iface_ip_ := interface_address }
          let mode ← requiredField fields (ascii "mode") alias_
          let config ←
            if mode = ascii "client" then makeClient alias_ fields config
            else if mode = ascii "server" then makeServer alias_ fields config
            else .error (ascii "tunnel '" ++ alias_ ++ ascii "' has unsupported mode '" ++ mode ++
              ascii "'")
          if !config.isComplete then .error (ascii "tunnel '" ++ alias_ ++ ascii "' is incomplete")
          else return ⟨alias_, config⟩

/-- The local variables of `parseConfiguration`. -/
structure ConfigurationReader where
  version : Nat := 0
  tunnel_fields : Std.ExtTreeMap Text TunnelFields compare := ∅
  active_alias : Text := []

namespace ConfigurationReader

def sectionPrefix : Text := ascii "tunnels."

def atLine (line_number : Nat) (problem : Text) : Text :=
  ascii "line " ++ to_string line_number ++ problem

def readSection (reader : ConfigurationReader) (line_number : Nat) (section_name : Text) :
    Except Text ConfigurationReader :=
  let active_alias := section_name.drop sectionPrefix.length
  if section_name.take sectionPrefix.length ≠ sectionPrefix ∨ !isAlias active_alias then
    .error (atLine line_number (ascii " must name a tunnel as [tunnels.<alias>]"))
  else if reader.tunnel_fields.contains active_alias then
    .error (ascii "duplicate tunnel alias '" ++ active_alias ++ ascii "'")
  else .ok { reader with
    active_alias := active_alias
    tunnel_fields := reader.tunnel_fields.insert active_alias ∅ }

def readAssignment (reader : ConfigurationReader) (line_number : Nat) (key value : Text) :
    Except Text ConfigurationReader :=
  if reader.active_alias.isEmpty then
    if key ≠ ascii "version" ∨ reader.version ≠ 0 ∨ value ≠ ascii "1" then
      .error (atLine line_number (ascii " must set version = 1 before tunnel sections"))
    else .ok { reader with version := 1 }
  else
    let fields := reader.tunnel_fields.getD reader.active_alias ∅
    if fields.contains key then
      .error (ascii "tunnel '" ++ reader.active_alias ++ ascii "' defines '" ++ key ++
        ascii "' more than once")
    else .ok { reader with
      tunnel_fields := reader.tunnel_fields.insert reader.active_alias (fields.insert key value) }

/-- One pass of the loop over the lines. -/
def readLine (reader : ConfigurationReader) (line_number : Nat) (line : Text) :
    Except Text ConfigurationReader :=
  let content := trim (removeComment line)
  if content.isEmpty then .ok reader
  else if content.head? = some (byteOf '[') ∧ content.getLast? = some (byteOf ']') then
    reader.readSection line_number (content.drop 1).dropLast
  else match find content (byteOf '=') with
    | none => .error (atLine line_number (ascii " must be a key/value assignment"))
    | some separator => do
        let key := trim (content.take separator)
        let value ← parseValue (trim (content.drop (separator + 1))) key
        reader.readAssignment line_number key value

/-- The loop, with `read` lines behind it. -/
def readLines (reader : ConfigurationReader) (read : Nat) : List Text → Except Text ConfigurationReader
  | [] => .ok reader
  | line :: lines => do
      let reader ← reader.readLine (read + 1) line
      reader.readLines (read + 1) lines

def finish (interfaces : List Interface) (reader : ConfigurationReader) :
    Except Text TunnelConfiguration :=
  if reader.version ≠ 1 then .error (ascii "configuration must begin with version = 1")
  else do
    let tunnels ← reader.tunnel_fields.toList.mapM fun (alias_, fields) =>
      makeTunnel interfaces alias_ fields
    return ⟨tunnels⟩

end ConfigurationReader

def parseConfiguration (interfaces : List Interface) (input : Text) :
    Except Text TunnelConfiguration := do
  let reader ← ConfigurationReader.readLines {} 0 (getlines input)
  reader.finish interfaces

def findTunnel (configuration : TunnelConfiguration) (alias_ : Text) : Except Text NamedTunnel :=
  match configuration.tunnels.find? (·.alias_ = alias_) with
  | none => .error (ascii "no tunnel named '" ++ alias_ ++ ascii "'")
  | some tunnel => .ok tunnel

end DatagramTunneler
