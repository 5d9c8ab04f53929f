import DatagramTunneler.Tunnel.OversizedDatagrams
import Mathlib.Algebra.Order.Ring.Rat
import Mathlib.Data.List.Induction
import Mathlib.Tactic.NormNum

/-! How long the client can be silent. The loop has no clock: the period is the
receive timeout of the UDP socket, which starts again at every `recv`, also at one
that follows a discarded datagram. A pass is therefore labelled with the time its
`recv` took, and the silence is measured beside the loop. -/

set_option autoImplicit false

namespace DatagramTunneler

open Foundation

def kHeartbeatPeriodSeconds : ℚ := 5

private theorem period_nonneg : 0 ≤ kHeartbeatPeriodSeconds := by norm_num [kHeartbeatPeriodSeconds]

/-- A pass of the loop and the time its `recv` took. -/
structure TimedEvent where
  event : ClientEvent
  seconds : ℚ

namespace TimedEvent

/-- A `recv` takes the whole period exactly when it times out; without a `recv` no
time passes. -/
def Possible (timed : TimedEvent) : Prop :=
  match timed.event with
  | .timeout _ => timed.seconds = kHeartbeatPeriodSeconds
  | .datagram _ _ _ | .failed _ => 0 ≤ timed.seconds ∧ timed.seconds < kHeartbeatPeriodSeconds
  | .stop_requested => timed.seconds = 0

instance (timed : TimedEvent) : Decidable timed.Possible := by
  unfold Possible
  split <;> infer_instance

end TimedEvent

structure TimedClient where
  loop : ClientLoop
  /-- The time from the last successful send, or from connecting, to the end of the pass. -/
  silence : ℚ
  /-- The same when the last `recv` returned, before anything was sent. -/
  reached : ℚ

namespace TimedClient

def start (order : ByteOrder) (cfg : Config) : TimedClient := ⟨ClientLoop.start order cfg, 0, 0⟩

/-- The pass has sent a whole frame: the loop goes on and the socket took bytes. -/
def Sent (before after : ClientLoop) : Prop :=
  after.status = .running ∧ before.tcp.length < after.tcp.length

instance (before after : ClientLoop) : Decidable (Sent before after) := by
  unfold Sent
  infer_instance

def step (build : Build) (order : ByteOrder) (client : TimedClient) (timed : TimedEvent) :
    Option TimedClient :=
  if timed.Possible then
    (client.loop.step build order timed.event).map fun next =>
      { loop := next
        silence := if Sent client.loop next then 0 else client.silence + timed.seconds
        reached := client.silence + timed.seconds }
  else none

end TimedClient

def timedClient (build : Build) (order : ByteOrder) : Machine TimedClient TimedEvent :=
  ⟨TimedClient.step build order⟩

namespace TimedClient

/-- At the end of a pass the client has been silent for at most the period, and
within a pass never long enough for the server to give up. -/
def Heard (client : TimedClient) : Prop :=
  (client.loop.status = .running → client.silence ≤ kHeartbeatPeriodSeconds) ∧
    client.reached < kHeartbeatPeriodSeconds + 1

/-- The time spent on the oversized datagrams that came last. -/
def discarding (events : List TimedEvent) : ℚ :=
  events.foldl (fun total timed => if timed.event.oversized then total + timed.seconds else 0) 0

/-- Oversized datagrams that follow one another take at most the period together,
and with the `recv` after them less than the server waits. -/
def Brief (events : List TimedEvent) : Prop :=
  ∀ passed timed, passed ++ [timed] <+: events →
    (timed.event.oversized = true → discarding passed + timed.seconds ≤ kHeartbeatPeriodSeconds) ∧
      discarding passed + timed.seconds < kHeartbeatPeriodSeconds + 1

variable {build : Build} {order : ByteOrder} {cfg : Config} {client next : TimedClient}
  {timed : TimedEvent}

private theorem discarding_snoc (passed : List TimedEvent) (timed : TimedEvent) :
    discarding (passed ++ [timed]) =
      if timed.event.oversized then discarding passed + timed.seconds else 0 := by
  simp [discarding, List.foldl_append]

theorem step_cases (stepped : client.step build order timed = some next) :
    client.loop.step build order timed.event = some next.loop ∧
      next.reached = client.silence + timed.seconds ∧
      next.silence = if Sent client.loop next.loop then 0 else client.silence + timed.seconds := by
  unfold step at stepped
  split_ifs at stepped with possible
  obtain ⟨loop, passed, rfl⟩ := Option.map_eq_some_iff.mp stepped
  exact ⟨passed, rfl, rfl⟩

private theorem running_of_step {event : ClientEvent} {loop onward : ClientLoop}
    (stepped : loop.step build order event = some onward) : loop.status = .running := by
  unfold ClientLoop.step at stepped
  split_ifs at stepped with running
  exact not_not.mp running

/-- The silence of a client whose last pass received `timed`. -/
theorem silence_of_step (stepped : client.step build order timed = some next) (running : next.loop.status = .running) :
    next.silence = if timed.event.oversized then client.silence + timed.seconds else 0 := by
  obtain ⟨passed, -, silence⟩ := step_cases stepped
  rw [silence]
  cases oversized : timed.event.oversized with
  | true =>
      obtain ⟨data, -, dropped⟩ := ClientLoop.step_oversized oversized passed
      have unsent : ¬ Sent client.loop next.loop := by
        rw [dropped]
        exact fun sent => absurd sent.2 (Nat.lt_irrefl _)
      rw [if_neg unsent]
      rfl
  | false =>
      rcases ClientLoop.step_fits oversized passed with sent | returned | ⟨message, threw⟩
      · have whole : Sent client.loop next.loop := sent
        rw [if_pos whole]
        rfl
      · rw [returned] at running
        cases running
      · rw [threw] at running
        cases running

private theorem silence_of_exec {events : List TimedEvent}
    (ran : (timedClient build order).exec (start order cfg) events = some client)
    (running : client.loop.status = .running) : client.silence = discarding events := by
  induction events using List.reverseRecOn generalizing client with
  | nil => cases ran; rfl
  | append_singleton passed timed ih =>
      obtain ⟨before, reaches, stepped⟩ := ((timedClient build order).exec_snoc_iff).mp ran
      have earlier := ih reaches (running_of_step (step_cases stepped).1)
      rw [discarding_snoc, ← earlier]
      exact silence_of_step stepped running

/-- What one pass adds to the condition on the events is what it takes to be heard. -/
theorem heard_iff (discards : build.discards = true) {passed : List TimedEvent}
    (reaches : (timedClient build order).exec (start order cfg) passed = some client)
    (stepped : client.step build order timed = some next) :
    next.Heard ↔
      (timed.event.oversized = true →
          discarding passed + timed.seconds ≤ kHeartbeatPeriodSeconds) ∧
        discarding passed + timed.seconds < kHeartbeatPeriodSeconds + 1 := by
  obtain ⟨pass, reached, -⟩ := step_cases stepped
  have earlier := silence_of_exec reaches (running_of_step pass)
  rw [Heard, reached, earlier]
  refine and_congr_left fun _ => ?_
  cases oversized : timed.event.oversized with
  | true =>
      obtain ⟨data, -, dropped⟩ := ClientLoop.step_oversized oversized pass
      have running : next.loop.status = .running := by rw [dropped]; exact if_pos discards
      have silence := silence_of_step stepped running
      rw [oversized, if_pos rfl, earlier] at silence
      simp [running, silence]
  | false =>
      have zero : next.loop.status = .running → next.silence ≤ kHeartbeatPeriodSeconds := by
        intro running
        have silence := silence_of_step stepped running
        rw [oversized] at silence
        exact silence.le.trans period_nonneg
      simpa using zero

/-- The client is heard throughout a run exactly when the oversized datagrams in it
are brief. -/
theorem heard_iff_brief (build : Build) (order : ByteOrder) (cfg : Config)
    (discards : build.discards = true) (events : List TimedEvent) (final : TimedClient)
    (ran : (timedClient build order).exec (start order cfg) events = some final) :
    (timedClient build order).Along Heard (start order cfg) events ↔ Brief events := by
  constructor
  · intro heard passed timed within
    obtain ⟨rest, rfl⟩ := within
    obtain ⟨next, through, -⟩ := ((timedClient build order).exec_append_iff).mp ran
    obtain ⟨client, reaches, stepped⟩ := ((timedClient build order).exec_snoc_iff).mp through
    exact (heard_iff discards reaches stepped).mp (heard _ (List.prefix_append _ _) next through)
  · intro brief passed within reached reaches
    rcases List.eq_nil_or_concat' passed with rfl | ⟨front, last, rfl⟩
    · cases reaches
      exact ⟨fun _ => period_nonneg, by norm_num [start, kHeartbeatPeriodSeconds]⟩
    · obtain ⟨before, earlier, stepped⟩ := ((timedClient build order).exec_snoc_iff).mp reaches
      exact (heard_iff discards earlier stepped).mpr (brief front last within)

private theorem start_running (order : ByteOrder) (cfg : Config) :
    (start order cfg).loop.status = .running := by
  rw [start, ClientLoop.start]

/-- An oversized datagram three seconds after the `recv` began. -/
def lateOversized : TimedEvent :=
  ⟨.datagram (List.replicate (kMaxDatagramLength + 1) 0) 0 [], 3⟩

private theorem step_lateOversized (order : ByteOrder) {client : TimedClient}
    (running : client.loop.status = .running) :
    ∃ next, (timedClient ⟨false, false⟩ order).step client lateOversized = some next ∧
      next.loop.status = .running ∧ next.silence = client.silence + 3 := by
  have possible : lateOversized.Possible := by
    norm_num [TimedEvent.Possible, lateOversized, kHeartbeatPeriodSeconds]
  have pass : client.loop.step ⟨false, false⟩ order lateOversized.event = some { client.loop with
      tunnel_pkt := ClientLoop.recvInto client.loop.tunnel_pkt
        (List.replicate (kMaxDatagramLength + 1) 0) } := by
    simp [lateOversized, ClientLoop.step, ClientLoop.onDatagram, running]
  simp only [timedClient, step, if_pos possible, pass, Option.map_some]
  exact ⟨_, rfl, running, by simp [Sent, lateOversized]⟩

/-- Two oversized datagrams, each three seconds after the `recv` before it began. -/
theorem oversized_silent : ¬ ∀ (build : Build) (order : ByteOrder) (cfg : Config)
    (events : List TimedEvent) (final : TimedClient), build.discards = true →
    (timedClient build order).exec (start order cfg) events = some final →
      (timedClient build order).Along Heard (start order cfg) events := by
  intro claimed
  obtain ⟨middle, first, running, once⟩ := step_lateOversized .little (start_running .little {})
  obtain ⟨final, second, still, twice⟩ := step_lateOversized .little running
  have ran : (timedClient ⟨false, false⟩ .little).exec (start .little {})
      [lateOversized, lateOversized] = some final :=
    (Machine.exec_cons_iff _).mpr ⟨middle, first, (Machine.exec_singleton_iff _).mpr second⟩
  have heard := claimed ⟨false, false⟩ .little {} _ final rfl ran _ List.prefix_rfl final ran
  have short := heard.1 still
  rw [twice, once] at short
  norm_num [start, kHeartbeatPeriodSeconds] at short

/-- One oversized datagram alone does not keep the client silent for too long. -/
theorem heard_iff_brief_once : ∃ final,
    (timedClient ⟨false, false⟩ .little).exec (start .little {}) [lateOversized] = some final ∧
      (timedClient ⟨false, false⟩ .little).Along Heard (start .little {}) [lateOversized] := by
  obtain ⟨final, stepped, -⟩ := step_lateOversized .little (start_running .little {})
  have ran : (timedClient ⟨false, false⟩ .little).exec (start .little {}) [lateOversized] =
      some final := (Machine.exec_singleton_iff _).mpr stepped
  refine ⟨final, ran,
    (heard_iff_brief ⟨false, false⟩ .little {} rfl [lateOversized] final ran).mpr ?_⟩
  intro passed timed within
  obtain ⟨rfl, rfl⟩ : passed = [] ∧ timed = lateOversized := by
    have short := within.length_le
    have empty : passed = [] := by simpa using short
    subst empty
    simpa using within
  norm_num [discarding, lateOversized, kHeartbeatPeriodSeconds]

end TimedClient

end DatagramTunneler
