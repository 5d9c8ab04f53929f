import DatagramTunneler.Foundation.Machine
import DatagramTunneler.Tunnel.Config
import DatagramTunneler.Tunnel.Protocol

/-! The server's receive loop. The peer's bytes that have not been received yet
are part of the state, and a label says how many of them one `recv` returns, so
a run is one segmentation of the stream. A store outside the packet is undefined
behaviour in the source; there the model stops. -/

set_option autoImplicit false

namespace DatagramTunneler

open Foundation

/-- One successful `recv`: how many bytes it returned, and the system clock in
microseconds in case this pass publishes. -/
structure Arrival where
  count : Nat
  now : Nat
  deriving DecidableEq, Repr

inductive ServerEvent where
  | recv (arrival : Arrival)
  | recvUnpublished (arrival : Arrival) (error_code : Nat)
  | closed
  | timeout
  | failed (error_code : Nat)
  | stop_requested
  deriving DecidableEq, Repr

/-- One call of `sendto`: the length argument, the bytes read and the destination. -/
structure Publication where
  length : Nat
  payload : List UInt8
  group : SockAddrIn
  deriving DecidableEq, Repr

structure ServerLoop where
  tunnel_pkt : TunnelPacket
  /-- The write pointer, as an offset into `tunnel_pkt`. -/
  p : Nat
  len_to_read : Nat
  pub_group : SockAddrIn
  /-- Bytes the peer has sent and this loop has not received. -/
  pending : List UInt8
  published : List Publication
  observations : List DatagramObservation
  status : LoopStatus

namespace ServerLoop

/-- The state in which `runServer` enters its loop, with the group it was set up
with and the whole byte stream of the peer still to come. -/
def start (pub_group : SockAddrIn) (stream : List UInt8) : ServerLoop where
  tunnel_pkt := .zero
  p := 0
  len_to_read := kTunnelPacketPreambleLength
  pub_group := pub_group
  pending := stream
  published := []
  observations := []
  status := .running

def fail (loop : ServerLoop) (message : Text) : ServerLoop :=
  { loop with status := .threw (throwTunnelError message) }

def unsupportedVersion (version : UInt8) : Text :=
  ascii "Unsupported DTEP protocol version " ++ to_string version.toNat ++
    ascii " (this server requires version " ++ to_string kDtepProtocolVersion.toNat ++ ascii ")"

def unsupportedType (type : UInt8) : Text :=
  ascii "Unsupported DTEP packet type " ++ to_string type.toNat

/-- Start over at the beginning of the packet; its bytes stay. -/
def reset (loop : ServerLoop) : ServerLoop :=
  { loop with p := 0, len_to_read := kTunnelPacketPreambleLength }

/-- The group encoded in the packet. -/
def clientGroup (order : ByteOrder) (packet : TunnelPacket) : SockAddrIn where
  sin_port := ByteOrder.big.toBytes 2 (packet.udp_dst_port_ order)
  sin_addr := packet.udp_dst_ip_

/-- The latency of a datagram, absent when the client's clock is ahead. -/
def latency (server_timestamp_us client_timestamp_us : Nat) : Option ℚ :=
  if server_timestamp_us < client_timestamp_us then none
  else some (((server_timestamp_us - client_timestamp_us : Nat) : ℚ) / 1000)

/-- Publish the complete datagram in the packet and report it. -/
def publish (order : ByteOrder) (use_clt_grp_ : Bool) (loop : ServerLoop) (now : Nat)
    (sendto_error : Option Nat) : ServerLoop :=
  let packet := loop.tunnel_pkt
  let length := packet.datalen_ order
  let pub_group := if use_clt_grp_ then clientGroup order packet else loop.pub_group
  let loop := { loop with
    pub_group := pub_group
    published := loop.published ++ [Publication.mk length (packet.databuf_ length) pub_group] }
  match sendto_error with
  | some error_code =>
      loop.fail (ascii "Unable to publish multicast data, sendto() error " ++ to_string error_code ++
        ascii "!")
  | none =>
      { loop with
        observations := loop.observations ++
          [DatagramObservation.mk length (latency now (packet.client_timestamp_us_ order))] }

/-- The rest of a pass, once the received bytes are in the packet and `p` has moved. -/
def afterRecv (order : ByteOrder) (use_clt_grp_ : Bool) (loop : ServerLoop) (now : Nat)
    (sendto_error : Option Nat) : ServerLoop :=
  let packet := loop.tunnel_pkt
  let data_len := loop.p
  if data_len < kTunnelPacketPreambleLength then
    { loop with len_to_read := kTunnelPacketPreambleLength - data_len }
  else if packet.protocol_version_ ≠ kDtepProtocolVersion then
    loop.fail (unsupportedVersion packet.protocol_version_)
  else if packet.type_ = TunnelPacketType.heartbeat.value then loop.reset
  else if packet.type_ ≠ TunnelPacketType.datagram.value then
    loop.fail (unsupportedType packet.type_)
  else if data_len < kTunnelPacketHeaderLength then
    { loop with len_to_read := kTunnelPacketHeaderLength - data_len }
  else if data_len < packet.size order then
    { loop with len_to_read := packet.size order - data_len }
  else if data_len ≠ packet.size order then { loop with status := .aborted }
  else loop.reset.publish order use_clt_grp_ now sendto_error

/-- Store the next `count` bytes of the stream at the write pointer. -/
def recv (loop : ServerLoop) (count : Nat) : ServerLoop :=
  match loop.tunnel_pkt.store loop.p (loop.pending.take count) with
  | none => { loop with status := .undefined }
  | some packet =>
      { loop with tunnel_pkt := packet, p := loop.p + count, pending := loop.pending.drop count }

/-- A `recv` that returns `count` bytes: some, and no more than asked for or there. -/
def CanRecv (loop : ServerLoop) (count : Nat) : Prop :=
  0 < count ∧ count ≤ loop.len_to_read ∧ count ≤ loop.pending.length

instance (loop : ServerLoop) (count : Nat) : Decidable (loop.CanRecv count) :=
  inferInstanceAs (Decidable (_ ∧ _ ∧ _))

/-- A pass whose `recv` returned `arrival.count` bytes. -/
def pass (order : ByteOrder) (use_clt_grp_ : Bool) (loop : ServerLoop) (arrival : Arrival)
    (sendto_error : Option Nat) : Option ServerLoop :=
  if loop.CanRecv arrival.count then
    let received := loop.recv arrival.count
    if received.status = .undefined then some received
    else some (received.afterRecv order use_clt_grp_ arrival.now sendto_error)
  else none

def step (order : ByteOrder) (use_clt_grp_ : Bool) (loop : ServerLoop) (event : ServerEvent) :
    Option ServerLoop :=
  if loop.status ≠ .running then none
  -- assert(len_to_read != 0) at the head of the loop.
  else if loop.len_to_read = 0 ∧ event ≠ .stop_requested then some { loop with status := .aborted }
  else match event with
    | .recv arrival => loop.pass order use_clt_grp_ arrival none
    | .recvUnpublished arrival error_code => loop.pass order use_clt_grp_ arrival (some error_code)
    | .closed => if loop.pending = [] then some { loop with status := .returned } else none
    | .timeout => some { loop with status := .returned }
    | .failed error_code =>
        some (loop.fail (ascii "Unable to read data from TCP socket, recv() error " ++
          to_string error_code ++ ascii "!"))
    | .stop_requested => some { loop with status := .returned }

end ServerLoop

def runServer (order : ByteOrder) (use_clt_grp_ : Bool) : Machine ServerLoop ServerEvent :=
  ⟨ServerLoop.step order use_clt_grp_⟩

end DatagramTunneler
