import DatagramTunneler.Control.Types
import DatagramTunneler.Foundation.Machine
import DatagramTunneler.Network
import DatagramTunneler.Tunnel.Server

/-! The producer of numbered test datagrams. Stop may be requested at any moment, also
between a test of the token and the datagram or the sleep behind it, so the tests, the
calls and the sleep of a pass are steps of their own. -/

set_option autoImplicit false

namespace DatagramTunneler

open Foundation

namespace DatagramProducer

/-- The constructor. -/
def create (config_ : Config) (options_ : ProducerOptions) : Except Text Unit :=
  if !config_.is_client_ then .error (ascii "producer requires a client tunnel")
  else if options_.interval_ms = 0 then .error (ascii "--interval-ms must be greater than zero")
  else if options_.payload_prefix.isEmpty then .error (ascii "--payload-prefix must not be empty")
  else .ok ()

/-- What the calls on the socket come to before the loop; a number is the error. -/
structure Environment where
  socket : Option Nat := none
  multicast_interface : Option Nat := none
  multicast_loop : Option Nat := none

def failedCall (what : String) (error_code : Nat) : Text :=
  ascii what ++ ascii " (error " ++ to_string error_code ++ ascii ")"

/-- `run` up to its loop: the destination of the datagrams. -/
def setUp (config_ : Config) (found : Environment) : Except Text SockAddrIn :=
  match found.socket with
  | some error_code => .error (failedCall "could not create UDP socket" error_code)
  | none =>
      match inet_pton config_.udp_iface_ip_ with
      | none => .error (ascii "producer has an invalid UDP interface address")
      | some _ =>
          match found.multicast_interface, found.multicast_loop with
          | some error_code, _ => .error (failedCall "could not set multicast producer interface" error_code)
          | none, some error_code => .error (failedCall "could not enable multicast loopback" error_code)
          | none, none =>
              match inet_pton config_.udp_dst_ip_ with
              | none => .error (ascii "producer has an invalid multicast group address")
              | some sin_addr => .ok ⟨ByteOrder.big.toBytes 2 config_.udp_dst_port_.toNat, sin_addr⟩

/-- The datagram with this number. -/
def payload (options_ : ProducerOptions) (number : UInt64) : Text :=
  options_.payload_prefix ++ ascii " #" ++ to_string number.toNat

end DatagramProducer

/-- What one call of `sendto` returned and the error of the socket after it. -/
structure SendtoAnswer where
  bytes_sent : Int
  error_code : Nat
  deriving DecidableEq, Repr

/-- What the loop does next. -/
inductive ProducerPoint where
  | test
  | send
  | record (bytes_sent : Nat)
  /-- The test in front of the sleep. -/
  | check
  | sleep
  deriving DecidableEq, Repr

inductive ProducerEvent where
  /-- Another thread requests stop. -/
  | request_stop
  | test
  | sendto (answer : SendtoAnswer)
  | record
  | check
  | sleep
  deriving DecidableEq, Repr

structure ProducerLoop where
  number : UInt64
  point : ProducerPoint
  stop_requested : Bool
  /-- The datagrams that went out whole. -/
  sent : List Publication
  /-- What `recordDatagram` was called with. -/
  recorded : List Nat
  /-- The milliseconds of each `sleep_for`. -/
  slept : List Nat
  status : LoopStatus

namespace ProducerLoop

def start : ProducerLoop where
  number := 1
  point := .test
  stop_requested := false
  sent := []
  recorded := []
  slept := []
  status := .running

def fail (loop : ProducerLoop) (message : Text) : ProducerLoop := { loop with status := .threw message }

/-- On to the next number. -/
def next (loop : ProducerLoop) : ProducerLoop := { loop with number := loop.number + 1, point := .test }

section

variable (options_ : ProducerOptions) (destination : SockAddrIn)

def sendto (loop : ProducerLoop) (answer : SendtoAnswer) : ProducerLoop :=
  let payload := DatagramProducer.payload options_ loop.number
  if kMaxDatagramLength < payload.length then
    loop.fail (ascii "producer payload exceeds the maximum datagram length")
  else if answer.bytes_sent < 0 ∨ answer.bytes_sent.toNat ≠ payload.length then
    loop.fail (DatagramProducer.failedCall "could not send dummy datagram" answer.error_code)
  else
    { loop with
      point := .record answer.bytes_sent.toNat
      sent := loop.sent ++ [⟨payload.length, payload, destination⟩] }

def step (loop : ProducerLoop) (event : ProducerEvent) : Option ProducerLoop :=
  if loop.status ≠ .running then none
  else match event, loop.point with
    | .request_stop, _ => some { loop with stop_requested := true }
    | .test, .test =>
        if !loop.stop_requested ∧ (options_.count = 0 ∨ loop.number ≤ options_.count) then
          some { loop with point := .send }
        else some { loop with status := .returned }
    | .sendto answer, .send => some (loop.sendto options_ destination answer)
    | .record, .record bytes_sent =>
        some { loop with recorded := loop.recorded ++ [bytes_sent], point := .check }
    | .check, .check =>
        if !loop.stop_requested ∧ (options_.count = 0 ∨ loop.number < options_.count) then
          some { loop with point := .sleep }
        else some loop.next
    | .sleep, .sleep => some { loop.next with slept := loop.slept ++ [options_.interval_ms.toNat] }
    | _, _ => none

end

end ProducerLoop

/-- The loop of `DatagramProducer::run`. -/
def runProducer (options_ : ProducerOptions) (destination : SockAddrIn) :
    Machine ProducerLoop ProducerEvent :=
  ⟨ProducerLoop.step options_ destination⟩

end DatagramTunneler
