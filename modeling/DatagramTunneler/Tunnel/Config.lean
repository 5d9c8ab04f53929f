import DatagramTunneler.Text
import Mathlib.Data.Rat.Defs

/-! What the tunnel is configured with and what it reports. -/

set_option autoImplicit false

namespace DatagramTunneler

structure Config where
  is_client_ : Bool := false
  udp_iface_ip_ : Text := []
  udp_iface_reference_ : Text := []
  tcp_iface_ip_ : Text := []
  tcp_srv_port_ : UInt16 := 0
  udp_dst_ip_ : Text := []
  udp_dst_port_ : UInt16 := 0
  tcp_srv_ip_ : Text := []
  use_clt_grp_ : Bool := false
  verbose_output_ : Bool := false
  deriving DecidableEq, Repr

def Config.isComplete (config : Config) : Bool :=
  if config.udp_iface_ip_.isEmpty || config.tcp_srv_port_ == 0 then false
  else if config.is_client_ then
    !(config.tcp_srv_ip_.isEmpty || config.udp_dst_ip_.isEmpty || config.udp_dst_port_ == 0)
  else if !config.use_clt_grp_ && (config.udp_dst_ip_.isEmpty || config.udp_dst_port_ == 0) then false
  else true

structure DatagramObservation where
  bytes : Nat := 0
  latency_milliseconds : Option ℚ := none
  deriving DecidableEq

/-- The `what()` of the exception: `vsnprintf` keeps at most 511 bytes of the text. -/
def throwTunnelError (message : Text) : Text := message.take 511

/-- How far a loop of the tunnel has got. `aborted` is a failed assertion and
`undefined` an access outside an object, after which the model says nothing. -/
inductive LoopStatus where
  | running
  | returned
  | threw (message : Text)
  | aborted
  | undefined
  deriving DecidableEq, Repr

end DatagramTunneler
