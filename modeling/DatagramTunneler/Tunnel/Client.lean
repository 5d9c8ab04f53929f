import DatagramTunneler.Foundation.Machine
import DatagramTunneler.Tunnel.Config
import DatagramTunneler.Tunnel.Protocol

/-! The client's forwarding loop. One packet is set up before the loop and reused
by every pass, so a pass sees whatever the passes before it left in the buffer.
A label of the machine is one pass: what `recv` returned, the clock reading, and
how the calls of `send` split the frame. -/

set_option autoImplicit false

namespace DatagramTunneler

open Foundation

/-- One return value of `send`. -/
inductive SendResult where
  | accepted (count : Nat)
  | failed (error_code : Nat)
  deriving DecidableEq, Repr

inductive SendOutcome where
  | sent
  | failed (error_code : Nat)
  | stalled
  deriving DecidableEq, Repr

/-- The bytes the socket accepted and how `sendTCPData` ended, given what its
calls of `send` returned. `none` where the results are not those of one whole
call: too few, too many, or a count beyond what was offered. -/
def sendTCPData (data : List UInt8) : List SendResult → Option (List UInt8 × SendOutcome)
  | [] => none
  | .failed error_code :: rest => if rest = [] then some ([], .failed error_code) else none
  | .accepted count :: rest =>
      if data.length < count then none
      else if count = 0 then if rest = [] then some ([], .stalled) else none
      else if data.length - count = 0 then if rest = [] then some (data, .sent) else none
      else (sendTCPData (data.drop count) rest).map fun (accepted, outcome) =>
        (data.take count ++ accepted, outcome)

/-- What differs between builds: whether `assert` checks, and whether a datagram
longer than the buffer makes `recv` fail instead of returning its true length. -/
structure Build where
  assertions : Bool
  windows : Bool

inductive ClientEvent where
  | datagram (data : List UInt8) (now : UInt64) (sends : List SendResult)
  | timeout (sends : List SendResult)
  | failed (error_code : Nat)
  | stop_requested
  deriving DecidableEq, Repr

structure ClientLoop where
  tunnel_pkt : TunnelPacket
  /-- All bytes the TCP socket has accepted so far. -/
  tcp : List UInt8
  observations : List DatagramObservation
  status : LoopStatus

namespace ClientLoop

/-- The state in which `runClient` enters its loop. -/
def start (order : ByteOrder) (cfg : Config) : ClientLoop where
  tunnel_pkt := ((TunnelPacket.zero.setProtocolVersion kDtepProtocolVersion).setUdpDstIp
    cfg.udp_dst_ip_).setUdpDstPort order cfg.udp_dst_port_
  tcp := []
  observations := []
  status := .running

/-- The bytes `recv` leaves in `databuf_`: at most the buffer's length of them. -/
def recvInto (packet : TunnelPacket) (data : List UInt8) : TunnelPacket :=
  packet.assign kTunnelPacketHeaderLength (data.take kMaxDatagramLength) (by
    simp only [kTunnelPacketHeaderLength, kMaxDatagramLength, sizeofTunnelPacket, List.length_take]
    omega)

/-- Send the packet and report a datagram that went out. -/
def sendPacket (order : ByteOrder) (loop : ClientLoop) (sends : List SendResult) : Option ClientLoop :=
  (sendTCPData (loop.tunnel_pkt.image.take (loop.tunnel_pkt.size order)) sends).map
    fun (accepted, outcome) =>
      let loop := { loop with tcp := loop.tcp ++ accepted }
      match outcome with
      | .failed error_code =>
          { loop with status := .threw (throwTunnelError
              (ascii "Unable to send data to server! Error " ++ to_string error_code)) }
      | .stalled =>
          { loop with status := .threw (throwTunnelError
              (ascii "Unable to send data via TCP. The server might not be able to keep up!")) }
      | .sent =>
          if loop.tunnel_pkt.type_ = TunnelPacketType.datagram.value then
            { loop with
              observations := loop.observations ++ [⟨loop.tunnel_pkt.datalen_ order, none⟩] }
          else loop

/-- One pass of the loop after `recv` returned the datagram `data`. -/
def onDatagram (build : Build) (order : ByteOrder) (loop : ClientLoop) (data : List UInt8)
    (now : UInt64) (sends : List SendResult) : Option ClientLoop :=
  let loop := { loop with tunnel_pkt := recvInto loop.tunnel_pkt data }
  if kMaxDatagramLength < data.length then
    -- Windows reports WSAEMSGSIZE here; elsewhere MSG_TRUNC returns the true length.
    if sends ≠ [] then none
    else if !build.windows && build.assertions then some { loop with status := .aborted }
    else some loop
  else
    let packet := ((loop.tunnel_pkt.setType .datagram).setDatalen order
      (UInt16.ofNat data.length)).setClientTimestamp order now
    sendPacket order { loop with tunnel_pkt := packet } sends

def step (build : Build) (order : ByteOrder) (loop : ClientLoop) (event : ClientEvent) :
    Option ClientLoop :=
  if loop.status ≠ .running then none
  else match event with
    | .datagram data now sends => onDatagram build order loop data now sends
    | .timeout sends =>
        sendPacket order { loop with tunnel_pkt := loop.tunnel_pkt.setType .heartbeat } sends
    | .failed error_code =>
        some { loop with status := .threw (throwTunnelError
          (ascii "Unable to read data from UDP socket " ++ to_string error_code)) }
    | .stop_requested => some { loop with status := .returned }

end ClientLoop

def runClient (build : Build) (order : ByteOrder) : Machine ClientLoop ClientEvent :=
  ⟨ClientLoop.step build order⟩

end DatagramTunneler
