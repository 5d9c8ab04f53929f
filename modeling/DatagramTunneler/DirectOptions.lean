import DatagramTunneler.CommandLine
import DatagramTunneler.Foundation.Arguments

/-! The direct options as a grammar. A mode stands in front of everything that has a value,
and may change on the way; it decides how a value for the TCP server is read. Of the values
of an option the last one counts, and a value that cannot be read is one too many. -/

set_option autoImplicit false

namespace DatagramTunneler

open Foundation

def kVerbose : Text := ascii "--verbose"

namespace DirectOptions

def server : List Text := ["--server", "-s"].map ascii

def client : List Text := ["--client", "-c"].map ascii

def udpInterface : List Text := ["--udpiface", "-i"].map ascii

def tcpInterface : List Text := ["--tcpiface", "-j"].map ascii

def udpGroup : List Text := ["--udpgroup", "-u"].map ascii

def tcpServer : List Text := ["--tcpsrv", "-t"].map ascii

/-- The options that have a value. -/
def valued : List Text := udpInterface ++ tcpInterface ++ udpGroup ++ tcpServer

def Known : ArgumentWord Text → Prop
  | .alone flag => flag ∈ server ∨ flag ∈ client ∨ flag = kVerbose
  | .valued option _ => option ∈ valued

/-- The mode that a word selects: whether it is that of a client. -/
def mode? : ArgumentWord Text → Option Bool
  | .alone flag => if server.contains flag then some false else if client.contains flag then some true else none
  | .valued _ _ => none

/-- The mode behind some words. -/
def modeBehind (is_client_ : Bool) (words : List (ArgumentWord Text)) : Bool :=
  (words.filterMap mode?).getLast?.getD is_client_

/-- A group is an address with a port; so is the TCP server of a client, while a server has
the port alone. -/
structure Readable (is_client_ : Bool) (option value : Text) : Prop where
  group : option ∈ udpGroup → ∃ endpoint, getIpAndPort value = .ok endpoint
  address : option ∈ tcpServer → is_client_ = true → ∃ endpoint, getIpAndPort value = .ok endpoint
  port : option ∈ tcpServer → is_client_ = false → ∃ port, getPort value = .ok port

/-- Behind the modes selected so far these words can follow. -/
structure Legal (side_selected is_client_ : Bool) (words : List (ArgumentWord Text)) : Prop where
  known : ∀ word ∈ words, Known word
  opened : ∀ front option value back, words = front ++ .valued option value :: back →
    side_selected = true ∨ front.filterMap mode? ≠ []
  readable : ∀ front option value back, words = front ++ .valued option value :: back →
    Readable (modeBehind is_client_ front) option value

/-- The values of an option, under each of its names. -/
def valuesOf (names : List Text) (words : List (ArgumentWord Text)) : List Text :=
  words.filterMap fun
    | .alone _ => none
    | .valued name value => if names.contains name then some value else none

def endpointOf (value : Text) : Text × UInt16 :=
  match getIpAndPort value with
  | .ok endpoint => endpoint
  | .error _ => ([], 0)

def serverPort : Bool × Text → UInt16
  | (true, value) => (endpointOf value).2
  | (false, value) =>
      match getPort value with
      | .ok port => port
      | .error _ => 0

section

variable {word : ArgumentWord Text} {words front back : List (ArgumentWord Text)}
  {side_selected is_client_ : Bool} {cfg next final : Config} {option value flag : Text}

/-- No name means two things. -/
private theorem names_apart :
    (∀ flag ∈ valued, flag ∉ server ∧ flag ∉ client ∧ flag ≠ kVerbose) ∧
    (∀ flag ∈ client, flag ∉ server) ∧ (kVerbose ∉ server ∧ kVerbose ∉ client) ∧
    (∀ flag ∈ server, flag ≠ kVerbose) ∧ (∀ flag ∈ client, flag ≠ kVerbose) ∧
    (∀ option ∈ udpInterface, option ∉ tcpInterface ∧ option ∉ udpGroup ∧ option ∉ tcpServer) ∧
    (∀ option ∈ tcpInterface, option ∉ udpGroup ∧ option ∉ tcpServer) ∧
    (∀ option ∈ udpGroup, option ∉ tcpServer) := by
  decide

theorem Legal.standing (legal : Legal side_selected is_client_ words) :
    standing valued (words.flatMap ArgumentWord.arguments) = operandsOf words := by
  refine standing_arguments fun word listed => ?_
  have known := legal.known word listed
  cases word with
  | alone flag =>
      intro inside
      obtain ⟨served, connected, other⟩ := names_apart.1 flag inside
      rcases known with serves | connects | verbose
      · exact served serves
      · exact connected connects
      · exact other verbose
  | valued option value => exact known

/-- The first argument is a name. -/
theorem Legal.head? (legal : Legal side_selected is_client_ words)
    (first : (words.flatMap ArgumentWord.arguments).head? = some flag) :
    flag ∈ server ++ client ++ [kVerbose] ++ valued := by
  cases words with
  | nil => cases first
  | cons word words =>
      have known := legal.known word List.mem_cons_self
      cases word with
      | alone flag_ =>
          cases first
          rcases known with serves | connects | rfl <;> simp_all
      | valued option value =>
          cases first
          exact List.mem_append_right _ known

end

end DirectOptions

end DatagramTunneler
