import DatagramTunneler.Tunnel.ClientProperties

/-! Datagrams that do not fit the packet. The loop has a branch that discards them
and, in front of it, an assertion that there are none; an oversized datagram also
overwrites the buffer that the next one is sent from. -/

set_option autoImplicit false

namespace DatagramTunneler

open Foundation

namespace ClientEvent

/-- A datagram longer than the buffer. -/
def oversized : ClientEvent → Bool
  | .datagram data _ _ => decide (kMaxDatagramLength < data.length)
  | .timeout _ | .failed _ | .stop_requested => false

end ClientEvent

/-- The build gets as far as the branch that discards: assertions are off, or
`recv` itself refuses the datagram. -/
def Build.discards (build : Build) : Bool := build.windows || !build.assertions

/-- `sendTCPData` returns true only when the socket has accepted everything. -/
theorem sendTCPData_sent {data accepted : List UInt8} {sends : List SendResult}
    (done : sendTCPData data sends = some (accepted, .sent)) : accepted = data := by
  induction sends generalizing data accepted with
  | nil => cases done
  | cons result rest ih =>
      cases result with
      | failed error_code =>
          simp only [sendTCPData] at done
          split at done <;> cases done
      | accepted count =>
          simp only [sendTCPData] at done
          split_ifs at done with beyond none last all
          · cases done
          · cases done
            rfl
          · obtain ⟨⟨more, outcome⟩, onward, joined⟩ := Option.map_eq_some_iff.mp done
            cases joined
            rw [ih onward, List.take_append_drop]

private theorem TunnelPacket.size_pos (packet : TunnelPacket) (order : ByteOrder) :
    0 < packet.size order := by
  unfold TunnelPacket.size
  split <;> simp [kTunnelPacketPreambleLength, kTunnelPacketHeaderLength]

namespace ClientLoop

/-- What dropping an oversized datagram means in a run from `begin` to `final`. -/
structure DropsOversized (build : Build) (order : ByteOrder) (begin : ClientLoop)
    (events : List ClientEvent) (final : ClientLoop) : Prop where
  asserted : (runClient build order).Along (fun loop => loop.status ≠ .aborted) begin events
  /-- An oversized datagram contributes no byte and no observation. -/
  silent : ∀ passed event before after, passed ++ [event] <+: events → event.oversized = true →
    (runClient build order).exec begin passed = some before →
    (runClient build order).step before event = some after →
    after.tcp = before.tcp ∧ after.observations = before.observations
  /-- Everything else goes out as if it had not arrived. -/
  unnoticed : ∃ reduced,
    (runClient build order).exec begin (events.filter fun event => !event.oversized) = some reduced ∧
      reduced.tcp = final.tcp ∧ reduced.observations = final.observations ∧
      reduced.status = final.status

/-- Two loops that send the same frames from now on. -/
structure Alike (order : ByteOrder) (cfg : Config) (loop other : ClientLoop) : Prop where
  header : slice loop.tunnel_pkt.image 1 7 = constantHeader order cfg
  sameHeader : slice other.tunnel_pkt.image 1 7 = constantHeader order cfg
  tcp : other.tcp = loop.tcp
  observations : other.observations = loop.observations
  status : other.status = loop.status

variable {build : Build} {order : ByteOrder} {cfg : Config} {loop other next : ClientLoop}

theorem Alike.sendPacket (alike : Alike order cfg loop other) {sends : List SendResult}
    (frame : other.tunnel_pkt.image.take (other.tunnel_pkt.size order) =
      loop.tunnel_pkt.image.take (loop.tunnel_pkt.size order))
    (type : other.tunnel_pkt.type_ = loop.tunnel_pkt.type_)
    (length : loop.tunnel_pkt.type_ = TunnelPacketType.datagram.value →
      other.tunnel_pkt.datalen_ order = loop.tunnel_pkt.datalen_ order)
    (sent : ClientLoop.sendPacket order loop sends = some next) :
    ∃ onward, ClientLoop.sendPacket order other sends = some onward ∧
      Alike order cfg next onward := by
  obtain ⟨⟨accepted, outcome⟩, done, rfl⟩ := Option.map_eq_some_iff.mp sent
  refine ⟨_, by rw [ClientLoop.sendPacket, frame, done]; rfl, ?_⟩
  have bytes : other.tcp ++ accepted = loop.tcp ++ accepted := by rw [alike.tcp]
  cases outcome with
  | failed | stalled => exact { alike with tcp := bytes, status := rfl }
  | sent =>
      by_cases datagram : loop.tunnel_pkt.type_ = TunnelPacketType.datagram.value
      · simp only [type, datagram, if_true]
        exact { alike with
          tcp := bytes
          observations := by rw [alike.observations, length datagram] }
      · simp only [type, datagram, if_false]
        exact { alike with tcp := bytes }

/-- Both loops make the same pass. -/
theorem Alike.step (alike : Alike order cfg loop other) {event : ClientEvent}
    (fits : event.oversized = false)
    (stepped : ClientLoop.step build order loop event = some next) :
    ∃ onward, ClientLoop.step build order other event = some onward ∧
      Alike order cfg next onward := by
  unfold ClientLoop.step at stepped ⊢
  split_ifs at stepped with running
  rw [not_not] at running
  rw [if_neg (not_not.mpr (alike.status.trans running))]
  cases event with
  | failed error_code =>
      cases stepped
      exact ⟨_, rfl, { alike with status := rfl }⟩
  | stop_requested =>
      cases stepped
      exact ⟨_, rfl, { alike with status := rfl }⟩
  | timeout sends =>
      have heartbeat : ∀ packet : TunnelPacket,
          (packet.setType .heartbeat).type_ = TunnelPacketType.heartbeat.value :=
        fun packet => TunnelPacket.type_eq_of_slice TunnelPacket.type_setType
      have ready : Alike order cfg
          { loop with tunnel_pkt := loop.tunnel_pkt.setType .heartbeat }
          { other with tunnel_pkt := other.tunnel_pkt.setType .heartbeat } :=
        { alike with
          header := (TunnelPacket.slice_setType (Nat.le_refl 1)).trans alike.header
          sameHeader := (TunnelPacket.slice_setType (Nat.le_refl 1)).trans alike.sameHeader }
      refine ready.sendPacket ?_ ?_ ?_ stepped
      · rw [heartbeat_sent alike.header, heartbeat_sent alike.sameHeader]
      · rw [heartbeat, heartbeat]
      · intro datagram
        rw [heartbeat] at datagram
        cases datagram
  | datagram data now sends =>
      have short : ¬ kMaxDatagramLength < data.length := of_decide_eq_false fits
      simp only [onDatagram, if_neg short] at stepped ⊢
      have within := Nat.not_lt.mp short
      have ready : Alike order cfg
          { loop with tunnel_pkt := datagramPacket order loop.tunnel_pkt data now }
          { other with tunnel_pkt := datagramPacket order other.tunnel_pkt data now } :=
        { alike with
          header := datagram_header alike.header
          sameHeader := datagram_header alike.sameHeader }
      refine ready.sendPacket ?_ ?_ ?_ stepped
      · rw [datagram_sent alike.header within, datagram_sent alike.sameHeader within]
      · rw [datagram_type_, datagram_type_]
      · intro
        rw [datagram_length within, datagram_length within]

/-- A pass that sends either sends its whole frame or throws. -/
theorem sendPacket_cases {sends : List SendResult}
    (sent : ClientLoop.sendPacket order loop sends = some next) :
    (next.status = loop.status ∧
      next.tcp = loop.tcp ++ loop.tunnel_pkt.image.take (loop.tunnel_pkt.size order)) ∨
      ∃ message, next.status = .threw message := by
  obtain ⟨⟨accepted, outcome⟩, done, rfl⟩ := Option.map_eq_some_iff.mp sent
  cases outcome with
  | failed | stalled => exact .inr ⟨_, rfl⟩
  | sent =>
      rw [sendTCPData_sent done]
      left
      constructor <;> dsimp only <;> split <;> rfl

/-- What a pass that received anything else does. -/
theorem step_fits {event : ClientEvent} (fits : event.oversized = false)
    (stepped : ClientLoop.step build order loop event = some next) :
    (next.status = .running ∧ loop.tcp.length < next.tcp.length) ∨ next.status = .returned ∨
      ∃ message, next.status = .threw message := by
  unfold ClientLoop.step at stepped
  split_ifs at stepped with running
  rw [not_not] at running
  have whole : ∀ packet sends,
      ClientLoop.sendPacket order { loop with tunnel_pkt := packet } sends = some next →
      (next.status = .running ∧ loop.tcp.length < next.tcp.length) ∨ next.status = .returned ∨
        ∃ message, next.status = .threw message := by
    intro packet sends sent
    rcases sendPacket_cases sent with ⟨status, tcp⟩ | threw
    · refine .inl ⟨status.trans running, ?_⟩
      have some := packet.size_pos order
      have long := packet.sized
      rw [tcp, List.length_append, List.length_take, long]
      simp only [sizeofTunnelPacket]
      omega
    · exact .inr (.inr threw)
  cases event with
  | failed error_code =>
      cases stepped
      exact .inr (.inr ⟨_, rfl⟩)
  | stop_requested =>
      cases stepped
      exact .inr (.inl rfl)
  | timeout sends => exact whole _ _ stepped
  | datagram data now sends =>
      simp only [onDatagram, if_neg (of_decide_eq_false fits)] at stepped
      exact whole _ _ stepped

/-- What a pass that received an oversized datagram does. -/
theorem step_oversized {event : ClientEvent} (oversized : event.oversized = true)
    (stepped : ClientLoop.step build order loop event = some next) :
    ∃ data, loop.status = .running ∧
      next = { loop with
        tunnel_pkt := recvInto loop.tunnel_pkt data
        status := if build.discards then .running else .aborted } := by
  cases event with
  | timeout | failed | stop_requested => cases oversized
  | datagram data now sends =>
      have long : kMaxDatagramLength < data.length := of_decide_eq_true oversized
      unfold ClientLoop.step at stepped
      split_ifs at stepped with running
      rw [not_not] at running
      simp only [onDatagram, if_pos long] at stepped
      refine ⟨data, running, ?_⟩
      cases windows : build.windows <;> cases assertions : build.assertions <;>
        simp_all [Build.discards]

private theorem Alike.discard (discards : build.discards = true) (alike : Alike order cfg loop other)
    {event : ClientEvent} (oversized : event.oversized = true)
    (stepped : ClientLoop.step build order loop event = some next) :
    Alike order cfg next other := by
  obtain ⟨data, running, rfl⟩ := step_oversized oversized stepped
  exact { alike with
    header := recvInto_header.trans alike.header
    status := by rw [alike.status, running, if_pos discards] }

private theorem start_alike (order : ByteOrder) (cfg : Config) :
    Alike order cfg (start order cfg) (start order cfg) where
  header := start_header order cfg
  sameHeader := start_header order cfg
  tcp := rfl
  observations := rfl
  status := rfl

/-- Nothing but an oversized datagram makes an assertion of the loop fail. -/
theorem asserted_of_step {event : ClientEvent}
    (allowed : event.oversized = true → build.discards = true)
    (stepped : ClientLoop.step build order loop event = some next) : next.status ≠ .aborted := by
  cases oversized : event.oversized with
  | true =>
      obtain ⟨data, running, rfl⟩ := step_oversized oversized stepped
      simp [allowed oversized]
  | false =>
      rcases step_fits oversized stepped with ⟨running, -⟩ | returned | ⟨message, threw⟩
      · simp [running]
      · simp [returned]
      · simp [threw]

/-- The loop drops the oversized datagrams of a run exactly when there are none or
the build gets as far as discarding them. -/
theorem dropsOversized_iff (build : Build) (order : ByteOrder) (cfg : Config)
    (events : List ClientEvent) (final : ClientLoop)
    (ran : (runClient build order).exec (start order cfg) events = some final) :
    DropsOversized build order (start order cfg) events final ↔
      ∀ event ∈ events, event.oversized = true → build.discards = true := by
  constructor
  · intro drops event inside oversized
    obtain ⟨passed, rest, rfl⟩ := List.append_of_mem inside
    obtain ⟨before, reaches, ran⟩ := ((runClient build order).exec_append_iff).mp ran
    obtain ⟨after, stepped, -⟩ := ((runClient build order).exec_cons_iff).mp ran
    have reached : (runClient build order).exec (start order cfg) (passed ++ [event]) = some after :=
      ((runClient build order).exec_snoc_iff).mpr ⟨before, reaches, stepped⟩
    have asserted := drops.asserted (passed ++ [event]) ⟨rest, by simp⟩ after reached
    obtain ⟨data, running, rfl⟩ := step_oversized oversized stepped
    by_contra refused
    exact asserted (if_neg refused)
  · intro allowed
    exact {
      asserted := by
        intro passed within reached reaches
        rcases List.eq_nil_or_concat' passed with rfl | ⟨front, last, rfl⟩
        · cases reaches
          simp [start]
        · obtain ⟨before, -, stepped⟩ := ((runClient build order).exec_snoc_iff).mp reaches
          exact asserted_of_step (allowed last (within.subset (by simp))) stepped
      silent := by
        intro passed event before after within oversized reaches stepped
        obtain ⟨data, running, rfl⟩ := step_oversized oversized stepped
        exact ⟨rfl, rfl⟩
      unnoticed := by
        by_cases discards : build.discards = true
        · obtain ⟨reduced, along, alike⟩ := @Machine.exec_filter _ _ (runClient build order)
            (Alike order cfg) (fun event => !event.oversized)
            (fun alike dropped stepped => alike.discard discards (by simpa using dropped) stepped)
            (fun alike kept stepped => alike.step (by simpa using kept) stepped)
            _ _ _ _ ran (start_alike order cfg)
          exact ⟨reduced, along, alike.tcp, alike.observations, alike.status⟩
        · have all : (events.filter fun event => !event.oversized) = events := by
            apply List.filter_eq_self.mpr
            intro event inside
            rw [Bool.not_eq_true', Bool.eq_false_iff]
            exact fun oversized => discards (allowed event inside oversized)
          rw [all]
          exact ⟨final, ran, rfl, rfl, rfl⟩ }

/-- One datagram of a byte more than fits. -/
def oversizedArrival : List ClientEvent :=
  [.datagram (List.replicate (kMaxDatagramLength + 1) 0) 0 []]

private theorem oversizedArrival_aborts (order : ByteOrder) (cfg : Config) :
    (runClient ⟨true, false⟩ order).exec (start order cfg) oversizedArrival =
      some { start order cfg with
        tunnel_pkt := recvInto (start order cfg).tunnel_pkt
          (List.replicate (kMaxDatagramLength + 1) 0)
        status := .aborted } := by
  simp [oversizedArrival, runClient, Machine.exec, ClientLoop.step, onDatagram, start]

/-- With assertions on, an oversized datagram ends the process. -/
theorem oversized_aborts : ¬ ∀ (order : ByteOrder) (cfg : Config) (events : List ClientEvent)
    (final : ClientLoop),
    (runClient ⟨true, false⟩ order).exec (start order cfg) events = some final →
      DropsOversized ⟨true, false⟩ order (start order cfg) events final := by
  intro claimed
  have drops := claimed .little {} oversizedArrival _ (oversizedArrival_aborts .little {})
  exact drops.asserted oversizedArrival List.prefix_rfl _ (oversizedArrival_aborts .little {}) rfl

/-- Without assertions the same datagram is dropped. -/
theorem dropsOversized_iff_released : ∃ final,
    (runClient ⟨false, false⟩ .little).exec (start .little {}) oversizedArrival = some final ∧
      DropsOversized ⟨false, false⟩ .little (start .little {}) oversizedArrival final := by
  have ran : ((runClient ⟨false, false⟩ .little).exec (start .little {}) oversizedArrival).isSome =
      true := by
    simp [oversizedArrival, runClient, Machine.exec, ClientLoop.step, onDatagram, start]
  obtain ⟨final, ran⟩ := Option.isSome_iff_exists.mp ran
  exact ⟨final, ran, (dropsOversized_iff ⟨false, false⟩ .little {} oversizedArrival final ran).mpr
    fun _ _ _ => rfl⟩

end ClientLoop

end DatagramTunneler
