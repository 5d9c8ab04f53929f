import DatagramTunneler.Dashboard.ConfigurationForm
import DatagramTunneler.Dashboard.Number

/-! How the dashboard reads a configuration text into the cards of its guided
editor. It goes by lines and regular expressions of its own. -/

set_option autoImplicit false

namespace DatagramTunneler

/-- A card as it is read; a field that the text does not set is empty. -/
structure TomlTunnel where
  alias_ : JsString
  mode : JsString := []
  udp_interface : JsString := []
  udp_group : JsString := []
  tcp_server : JsString := []
  /-- The number whose text the card shows. -/
  tcp_listen_port : Option JsNumber := none
  udp_destination : JsString := []
  deriving DecidableEq

namespace TomlConfiguration

open Script

/-- `split(/\r?\n/)`. -/
def splitLines : JsString → List JsString
  | [] => [[]]
  | '\r' :: '\n' :: rest => [] :: splitLines rest
  | '\n' :: rest => [] :: splitLines rest
  | character :: rest =>
      match splitLines rest with
      | [] => [[character]]
      | line :: lines => (character :: line) :: lines

/-- `/^\[tunnels\.([A-Za-z0-9_-]+)\]$/`. -/
def matchHeader (line : JsString) : Option JsString :=
  let alias_ := (line.drop (js "[tunnels.").length).dropLast
  if line = js "[tunnels." ++ alias_ ++ js "]" ∧ ConfigurationForm.matchesAlias alias_ then some alias_
  else none

/-- `[a-z_]`. -/
def isNameCharacter (character : Char) : Bool :=
  ('a' ≤ character && character ≤ 'z') || character == '_'

/-- `/^([a-z_]+)\s*=\s*(.+)$/` on a trimmed line, where the white space behind the
equals sign never has to leave any to the value. -/
def matchField (line : JsString) : Option (JsString × JsString) :=
  let name := line.takeWhile isNameCharacter
  match (line.drop name.length).dropWhile isWhiteSpace with
  | '=' :: rest =>
      let value := rest.dropWhile isWhiteSpace
      if name.isEmpty || value.isEmpty || value.any isLineTerminator then none else some (name, value)
  | _ => none

/-- `(?:\\.|[^"\\])*`. -/
def isQuotable : JsString → Bool
  | [] => true
  | '\\' :: character :: rest => !isLineTerminator character && isQuotable rest
  | ['\\'] => false
  | character :: rest => character != '"' && isQuotable rest

/-- `replace(/\\([\\"])/g, '$1')`. -/
def unescape : JsString → JsString
  | '\\' :: '\\' :: rest => '\\' :: unescape rest
  | '\\' :: '"' :: rest => '"' :: unescape rest
  | character :: rest => character :: unescape rest
  | [] => []

def tomlString (value : JsString) : Except JsString JsString :=
  let text := Script.trim value
  let content := (text.drop 1).dropLast
  if text = '"' :: content ++ ['"'] ∧ isQuotable content then .ok (unescape content)
  else .error (js ("Guided editor supports quoted string values only. " ++
    "Use TOML file mode for this configuration."))

def unsupported {Value : Type} : Except JsString Value :=
  .error (js ("Guided editor supports the standard named-tunnel TOML format only. " ++
    "Use TOML file mode for this configuration."))

/-- `tunnel[name] = ...`. -/
def assign (tunnel : TomlTunnel) (name rawValue : JsString) : Except JsString TomlTunnel :=
  if name = js "tcp_listen_port" then
    .ok { tunnel with tcp_listen_port := some (JsNumber.ofString (Script.trim rawValue)) }
  else if name = js "mode" then do
    return { tunnel with mode := ← tomlString rawValue }
  else if name = js "udp_interface" then do
    return { tunnel with udp_interface := ← tomlString rawValue }
  else if name = js "udp_group" then do
    return { tunnel with udp_group := ← tomlString rawValue }
  else if name = js "tcp_server" then do
    return { tunnel with tcp_server := ← tomlString rawValue }
  else if name = js "udp_destination" then do
    return { tunnel with udp_destination := ← tomlString rawValue }
  else unsupported

/-- One pass of the loop over the lines. The open tunnel is the last one. -/
def readLine (tunnels : List TomlTunnel) (rawLine : JsString) : Except JsString (List TomlTunnel) :=
  let line := Script.trim rawLine
  if line.isEmpty || line.head? = some '#' || line = js "version = 1" then .ok tunnels
  else match matchHeader line with
    | some alias_ => .ok (tunnels ++ [{ alias_ := alias_ }])
    | none =>
        match matchField line, tunnels.getLast? with
        | some (name, rawValue), some tunnel => do
            let tunnel ← assign tunnel name rawValue
            return tunnels.dropLast ++ [tunnel]
        | _, _ => unsupported

def parseTomlConfiguration (toml : JsString) : Except JsString (List TomlTunnel) :=
  (splitLines toml).foldlM readLine []

end TomlConfiguration

end DatagramTunneler
