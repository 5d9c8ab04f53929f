import DatagramTunneler.Tunnel.Config
import Mathlib.Data.Rat.Defs

/-! The lifecycle vocabulary of the control plane. Clock readings are plain
numbers: seconds for the steady clock, milliseconds for the system clock. -/

set_option autoImplicit false

namespace DatagramTunneler

inductive TunnelState where
  | stopped
  | starting
  | connecting
  | connected
  | running
  | stopping
  | failed
  deriving DecidableEq, Repr

inductive RuntimeKind where
  | tunnel
  | producer
  deriving DecidableEq, Repr

inductive EventKind where
  | lifecycle
  | log
  | metrics
  deriving DecidableEq, Repr

inductive EventSeverity where
  | info
  | warning
  | error
  deriving DecidableEq, Repr

structure TunnelMetrics where
  datagram_count : UInt64 := 0
  byte_count : UInt64 := 0
  throughput_bytes_per_second : ℚ := 0
  average_latency_milliseconds : Option ℚ := none
  p50_latency_milliseconds : Option ℚ := none
  p99_latency_milliseconds : Option ℚ := none
  maximum_latency_milliseconds : Option ℚ := none
  deriving DecidableEq

structure DatagramDetail where
  timestamp : Nat
  bytes : Nat
  latency_milliseconds : Option ℚ
  deriving DecidableEq

structure TunnelSnapshot where
  alias_ : Text := []
  kind : RuntimeKind := .tunnel
  state : TunnelState := .stopped
  metrics : TunnelMetrics := {}
  recent_datagrams : List DatagramDetail := []
  detail : Text := []
  deriving DecidableEq

structure ControlEvent where
  kind : EventKind := .lifecycle
  severity : EventSeverity := .info
  timestamp : Nat
  alias_ : Text
  message : Text
  snapshot : Option TunnelSnapshot
  deriving DecidableEq

/-- `DatagramProducer::Options`. -/
structure ProducerOptions where
  interval_ms : UInt32 := 1000
  count : UInt64 := 0
  payload_prefix : Text := ascii "Dummy datagram"
  deriving DecidableEq

/-- The system clock counts from an epoch that has passed, so its signed count is a number here,
as are the time stamps taken from it. -/
structure Clock where
  steady : ℚ := 0
  system : Nat := 0
  deriving DecidableEq

/-- The states a slot cannot be released in. -/
def TunnelState.active (state : TunnelState) : Bool :=
  state = .starting || state = .connecting || state = .connected || state = .running ||
    state = .stopping

/-- The states a worker ends in. -/
def TunnelState.finished (state : TunnelState) : Bool := state = .stopped || state = .failed

theorem TunnelState.active_eq_not_finished (state : TunnelState) :
    state.active = !state.finished := by
  cases state <;> rfl

end DatagramTunneler
