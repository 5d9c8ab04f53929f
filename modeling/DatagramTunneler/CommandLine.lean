import DatagramTunneler.Foundation.Fallible
import DatagramTunneler.Tunnel.Config

/-! The options of a direct invocation. They are read from left to right into a
config that starts with the replicated destination; what an option means depends
on the mode chosen in front of it. -/

set_option autoImplicit false

namespace DatagramTunneler

open Foundation

inductive StoiError where
  | invalid_argument
  | out_of_range
  deriving DecidableEq, Repr

/-- `std::stoi`: white space and one sign in front, and whatever follows the
digits is ignored. -/
def stoi (value : Text) : Except StoiError Int :=
  let unsigned := (c_str value).dropWhile isspace
  let negative := unsigned.head? == some (byteOf '-')
  let signed := negative || unsigned.head? == some (byteOf '+')
  let digits := (if signed then unsigned.tail else unsigned).takeWhile isdigit
  let number : Int := if negative then -digitsValue digits else digitsValue digits
  if digits.isEmpty then .error .invalid_argument
  else if number < -2147483648 ∨ 2147483647 < number then .error .out_of_range
  else .ok number

/-- How reading the options ends the program: `DEATH` logs and exits, an
exception that nothing catches terminates. -/
inductive CommandLineFailure where
  | death (message : Text)
  | uncaught
  deriving DecidableEq, Repr

/-- `logMessage` keeps 1023 bytes. -/
def DEATH {Value : Type} (message : Text) : Except CommandLineFailure Value :=
  .error (.death (message.take 1023))

def getPort (port_arg : Text) : Except CommandLineFailure UInt16 :=
  match stoi port_arg with
  | .ok port_int =>
      if port_int < 0 ∨ 65535 < port_int then
        let sign := if port_int < 0 then ascii "-" else []
        DEATH (ascii "Invalid port " ++ sign ++ to_string port_int.natAbs ++ ascii "!")
      else .ok (UInt16.ofNat port_int.toNat)
  | .error .invalid_argument => DEATH (ascii "Invalid port " ++ c_str port_arg ++ ascii "!")
  | .error .out_of_range => .error .uncaught

def getIpAndPort (ip_port_arg : Text) : Except CommandLineFailure (Text × UInt16) :=
  let invalid := ascii "Invalid ip-port argument '" ++ c_str ip_port_arg ++ ascii "'."
  match find ip_port_arg (byteOf ':') with
  | none => DEATH invalid
  | some pos =>
      if pos + 1 = ip_port_arg.length then DEATH invalid
      else do
        let port ← getPort (ip_port_arg.drop (pos + 1))
        return (ip_port_arg.take pos, port)

namespace CommandLine

/-- An option that takes an argument. -/
def readOption (cfg : Config) (option argument : Text) : Except CommandLineFailure Config :=
  if option = ascii "--udpiface" ∨ option = ascii "-i" then
    .ok { cfg with udp_iface_ip_ := argument, udp_iface_reference_ := argument }
  else if option = ascii "--tcpiface" ∨ option = ascii "-j" then
    .ok { cfg with tcp_iface_ip_ := argument }
  else if option = ascii "--udpgroup" ∨ option = ascii "-u" then do
    let (ip, port) ← getIpAndPort argument
    return { cfg with use_clt_grp_ := false, udp_dst_ip_ := ip, udp_dst_port_ := port }
  else if option = ascii "--tcpsrv" ∨ option = ascii "-t" then
    if cfg.is_client_ then do
      let (ip, port) ← getIpAndPort argument
      return { cfg with tcp_srv_ip_ := ip, tcp_srv_port_ := port }
    else do
      let port ← getPort argument
      return { cfg with tcp_srv_port_ := port }
  else DEATH (ascii "Invalid option " ++ option)

/-- The loop over the arguments. -/
def readOptions (side_selected : Bool) (cfg : Config) : List Text → Except CommandLineFailure Config
  | [] => .ok cfg
  | option :: arguments =>
      if option = ascii "--server" ∨ option = ascii "-s" then
        readOptions true { cfg with is_client_ := false } arguments
      else if option = ascii "--client" ∨ option = ascii "-c" then
        readOptions true { cfg with is_client_ := true } arguments
      else if option = ascii "--verbose" then
        readOptions side_selected { cfg with verbose_output_ := true } arguments
      else if !side_selected then
        DEATH (ascii "First argument needs to select server or client mode! (--server or --client)")
      else match arguments with
        | [] => DEATH (ascii "Option " ++ option ++ ascii " requires an argument.")
        | argument :: arguments => do
            let cfg ← readOption cfg option argument
            readOptions side_selected cfg arguments

end CommandLine

/-- Whether the options make a complete config, and the config. `argv` begins with
the name of the program. -/
def parseCommandLineConfig (argv : List Text) (cfg : Config) :
    Except CommandLineFailure (Bool × Config) := do
  let cfg ← CommandLine.readOptions false { cfg with use_clt_grp_ := true } argv.tail
  return (cfg.isComplete, cfg)

/-! ## Values that come back -/

private theorem stoi_to_string {value : Nat} (small : value ≤ 2147483647) :
    stoi (to_string value) = .ok (value : Int) := by
  obtain ⟨visible, minus, plus, taken⟩ := digits_undisturbed (to_string_ne_nil value)
    fun _ => isdigit_to_string
  have bounded : ¬ ((value : Int) < -2147483648 ∨ 2147483647 < (value : Int)) := by omega
  unfold stoi
  simp only [visible, minus, plus, taken, digitsValue_to_string, Bool.or_false, Bool.false_eq_true,
    if_false, if_neg bounded, List.isEmpty_eq_false_iff.mpr (to_string_ne_nil value)]

theorem getPort_to_string (port : UInt16) : getPort (to_string port.toNat) = .ok port := by
  have small : port.toNat < 65536 := port.toNat_lt
  have inside : ¬ ((port.toNat : Int) < 0 ∨ 65535 < (port.toNat : Int)) := by omega
  rw [getPort, stoi_to_string (by omega)]
  simp only [if_neg inside, Int.toNat_natCast, UInt16.ofNat_toNat]

/-- An address without a colon comes back with its port. -/
theorem getIpAndPort_endpoint {address : Text} {port : UInt16} (clean : byteOf ':' ∉ address) :
    getIpAndPort (address ++ byteOf ':' :: to_string port.toNat) = .ok (address, port) := by
  have found : find (address ++ byteOf ':' :: to_string port.toNat) (byteOf ':') =
      some address.length := find_eq_some.mpr ⟨address, _, rfl, clean, rfl⟩
  have behind : ¬ address.length + 1 = (address ++ byteOf ':' :: to_string port.toNat).length := by
    have digits := List.length_pos_of_ne_nil (to_string_ne_nil port.toNat)
    simp only [List.length_append, List.length_cons]
    omega
  have back : (address ++ byteOf ':' :: to_string port.toNat).drop (address.length + 1) =
      to_string port.toNat := by simp
  rw [getIpAndPort, found]
  simp only [if_neg behind, back, getPort_to_string, List.take_left]
  rfl

namespace CommandLine

/-! ## The interface -/

/-- What the config says of its interface was given as one of the words. -/
def Named (words : List Text) (cfg : Config) : Prop :=
  cfg.udp_iface_reference_ = cfg.udp_iface_ip_ ∧
    (cfg.udp_iface_reference_ = [] ∨ cfg.udp_iface_reference_ ∈ words)

theorem Named.readOption {words : List Text} {cfg next : Config} {option argument : Text}
    (named : Named words cfg) (inside : argument ∈ words)
    (read : readOption cfg option argument = .ok next) : Named words next := by
  unfold CommandLine.readOption at read
  split_ifs at read
  · cases read
    exact ⟨rfl, .inr inside⟩
  · cases read
    exact named
  · obtain ⟨endpoint, parsed, same⟩ := except_bind_eq_ok.mp read
    cases same
    exact named
  · obtain ⟨endpoint, parsed, same⟩ := except_bind_eq_ok.mp read
    cases same
    exact named
  · obtain ⟨port, parsed, same⟩ := except_bind_eq_ok.mp read
    cases same
    exact named
  · cases read

theorem Named.readOptions {words arguments : List Text} {side_selected : Bool} {cfg next : Config}
    (named : Named words cfg) (inside : ∀ argument ∈ arguments, argument ∈ words)
    (read : readOptions side_selected cfg arguments = .ok next) : Named words next := by
  fun_induction CommandLine.readOptions side_selected cfg arguments with
  | case1 => cases read; exact named
  | case2 _ _ _ _ _ ih | case3 _ _ _ _ _ _ ih | case4 _ _ _ _ _ ih =>
      exact ih named (fun argument listed => inside argument (List.mem_cons_of_mem _ listed)) read
  | case5 | case6 => cases read
  | case7 side_selected cfg option _ _ _ _ argument arguments ih =>
      obtain ⟨between, first, rest⟩ := except_bind_eq_ok.mp read
      have here := inside argument (by simp)
      exact ih between (named.readOption here first)
        (fun argument listed => inside argument (by simp [listed])) rest

end CommandLine

end DatagramTunneler
