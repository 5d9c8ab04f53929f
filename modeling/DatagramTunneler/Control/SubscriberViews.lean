import DatagramTunneler.Control.Subscribers

/-! When a WebSocket client shows the workers as they are. Each change is published
when it is made, but by several threads, so a client agrees with the runtime as long
as no event overtakes another; and a client that connects misses what is broadcast
between its snapshots and its registration. -/

set_option autoImplicit false

namespace DatagramTunneler

open Foundation

namespace LocalControlServer

variable {server next : LocalControlServer} {label : ServerLabel} {client : ClientId}

/-! ## Settled states -/

/-- A broadcast is an old one, or one that has just begun. -/
theorem broadcasts_of_performed (performed : Performed server label next) {publisher : Publisher}
    {broadcast : Broadcast} (here : next.broadcasts publisher = some broadcast) :
    (∃ old, server.broadcasts publisher = some old ∧ old.event = broadcast.event ∧
        old.moment = broadcast.moment) ∨
      (broadcast.clients = none ∧
        ((broadcast.moment = server.moment ∧ (publisher = .request ∨
            ∃ worker event, publisher = .worker worker ∧ label = .worker worker event)) ∨
          (publisher = .metrics ∧
            ∃ remaining, server.metrics = .publishing remaining broadcast.moment))) := by
  cases performed with
  | quiet | checked | collected | skipped | collectedAll | upgrade | snapshotSent | dropped
  | registered => exact .inl ⟨broadcast, here, rfl, rfl⟩
  | advance =>
      rcases broadcasts_publish here with ⟨same, notice, -, rfl⟩ | old
      · exact .inr ⟨rfl, .inl ⟨rfl, .inl same⟩⟩
      · exact .inl ⟨broadcast, old, rfl, rfl⟩
  | worker =>
      rcases broadcasts_publish here with ⟨same, notice, -, rfl⟩ | old
      · exact .inr ⟨rfl, .inl ⟨rfl, .inr ⟨_, _, same, rfl⟩⟩⟩
      · exact .inl ⟨broadcast, old, rfl, rfl⟩
  | copied there | sent there =>
      rcases broadcasts_setBroadcast here with ⟨rfl, set⟩ | ⟨-, old⟩
      · cases set
        exact .inl ⟨_, there, rfl, rfl⟩
      · exact .inl ⟨broadcast, old, rfl, rfl⟩
  | finished =>
      rcases broadcasts_setBroadcast here with ⟨-, set⟩ | ⟨-, old⟩
      · cases set
      · exact .inl ⟨broadcast, old, rfl, rfl⟩
  | metric there =>
      rcases broadcasts_setBroadcast here with ⟨same, set⟩ | ⟨-, old⟩
      · cases set
        exact .inr ⟨rfl, .inr ⟨same, _, there⟩⟩
      · exact .inl ⟨broadcast, old, rfl, rfl⟩

private theorem made_of_performed (performed : Performed server label next) :
    server.runtime_.made ≤ next.runtime_.made := by
  cases performed with
  | quiet _ stepped => exact ManagedTunnelRuntime.made_of_step stepped
  | advance _ stepped | worker _ _ stepped =>
      rw [publish_runtime_]
      exact ManagedTunnelRuntime.made_of_step stepped
  | @finished publisher _ _ _ _ left =>
      cases publisher with
      | metrics =>
          cases left
          exact Nat.le_refl _
      | worker worker =>
          simp only [leaveBroadcast] at left
          exact ManagedTunnelRuntime.made_of_step left
      | request =>
          simp only [leaveBroadcast] at left
          split at left
          · exact ManagedTunnelRuntime.made_of_step left
          · cases left
  | copied | sent | checked | collected | metric | skipped | collectedAll | upgrade | snapshotSent
  | dropped | registered => exact Nat.le_refl _

private theorem unmade_silent {configuration : TunnelConfiguration} {clients : Nat}
    {labels : List ServerLabel}
    (ran : localControlServer.exec (start configuration clients) labels = some server) :
    ∀ worker, server.runtime_.made ≤ worker → server.broadcasts (.worker worker) = none := by
  have both := @Machine.invariant_of_exec _ _ localControlServer
    (fun server => Sound server ∧
      ∀ worker, server.runtime_.made ≤ worker → server.broadcasts (.worker worker) = none)
    (fun {before label after} holds stepped => by
      refine ⟨holds.1.step stepped, fun worker unmade => ?_⟩
      obtain ⟨next, performed, rfl⟩ := performed_of_step stepped
      have grown := Nat.le_trans (made_of_performed performed) unmade
      by_contra under
      obtain ⟨broadcast, here⟩ := Option.ne_none_iff_exists'.mp under
      rcases broadcasts_of_performed performed here with ⟨old, there, -⟩ | ⟨-, ⟨-, new⟩ | ⟨new, -⟩⟩
      · rw [holds.2 worker grown] at there
        cases there
      · rcases new with request | ⟨moving, event, same, rfl⟩
        · cases request
        · cases same
          cases performed with
          | quiet is => cases is
          | worker _ _ moved =>
              have made := ManagedTunnelRuntime.made_of_worker holds.1.runtime.sound moved
              exact absurd grown (Nat.not_le.mpr made)
      · cases new)
    _ _ _ ran ⟨sound_start configuration clients, fun _ _ => rfl⟩
  exact both.2

/-- `Settled`, for the workers there are. -/
def quiescent (server : LocalControlServer) : Bool :=
  server.broadcasts .request = none && server.broadcasts .metrics = none &&
    ((List.range server.runtime_.made).all fun worker => server.broadcasts (.worker worker) = none) &&
    match server.runtime_.callers requestThread with
    | .running _ (.announce _) => false
    | _ => true

private theorem settled_of_quiescent {configuration : TunnelConfiguration} {clients : Nat}
    {labels : List ServerLabel}
    (ran : localControlServer.exec (start configuration clients) labels = some server)
    (quiescent : server.quiescent = true) : server.Settled := by
  simp only [LocalControlServer.quiescent, Bool.and_eq_true, decide_eq_true_eq, List.all_eq_true,
    List.mem_range] at quiescent
  obtain ⟨⟨⟨request, metrics⟩, workers⟩, caller⟩ := quiescent
  constructor
  · intro publisher
    cases publisher with
    | request => exact request
    | metrics => exact metrics
    | worker worker =>
        rcases Nat.lt_or_ge worker server.runtime_.made with made | unmade
        · exact workers worker made
        · exact unmade_silent ran worker unmade
  · intro call worker announcing
    rw [announcing] at caller
    cases caller

instance (server : LocalControlServer) (client : ClientId) : Decidable (server.Agrees client) :=
  inferInstanceAs (Decidable (∀ snapshot ∈ server.runtime_.snapshots,
    (server.view client snapshot.key).map (·.state) = some snapshot.state))

/-! ## Clients that are connected throughout -/

/-- The first clients are not upgraded again. -/
def Connected (clients : Nat) (server : LocalControlServer) : Prop :=
  clients ≤ server.connections ∧ ∀ upgrade, server.upgrade = some upgrade → clients ≤ upgrade.client

private theorem connected_step {clients : Nat} (connected : Connected clients server)
    (stepped : server.step label = some next) : Connected clients next := by
  obtain ⟨next, performed, rfl⟩ := performed_of_step stepped
  obtain ⟨known, others⟩ := connected
  cases performed with
  | quiet | copied | sent | finished | checked | collected | metric | skipped | collectedAll =>
      exact ⟨known, others⟩
  | advance | worker =>
      refine ⟨?_, fun upgrade here => ?_⟩
      · rw [publish_connections]
        exact known
      · rw [publish_upgrade] at here
        exact others upgrade here
  | upgrade =>
      refine ⟨Nat.le_succ_of_le known, fun upgrade here => ?_⟩
      cases here
      exact known
  | snapshotSent there =>
      refine ⟨known, fun upgrade here => ?_⟩
      have old := others _ there
      cases here
      exact old
  | dropped | registered => exact ⟨known, by simp⟩

private theorem gapless_of_connected {clients : Nat} (connected : Connected clients server)
    (first : client < clients) : gapless client server label = true := by
  cases label with
  | copyClients publisher =>
      simp only [gapless]
      split
      · next broadcast upgrade here upgrading =>
          have other := connected.2 upgrade upgrading
          have ne : upgrade.client ≠ client := fun same => absurd first (Nat.not_lt.mpr (same ▸ other))
          simp [ne]
      · rfl
  | tick | configure | call | advance | threadFails | worker | send | finish | checkClients | collect
  | nextMetric | upgrade | sendSnapshot | register => rfl

private theorem tracks_start (configuration : TunnelConfiguration) (clients : Nat) (client : ClientId) :
    Tracks (start configuration clients) client where
  whole := by simp [start]
  follows := by simp [start]

/-- A client that stays connected agrees with the runtime in every settled state, if no
event about a runtime is sent to it after one that was taken later and shows another
state. -/
theorem subscriber_agrees_of_inOrder (configuration : TunnelConfiguration) (clients : Nat)
    (labels : List ServerLabel) (client : ClientId) (first : client < clients)
    (ordered : localControlServer.Guarded (fun server label => inOrder client server label = true)
      (start configuration clients) labels) :
    localControlServer.Along
      (fun server => server.Settled → client ∈ server.clients_ → server.Agrees client)
      (start configuration clients) labels := by
  have tracked := @Machine.along_of_guarded _ _ localControlServer
    (fun server label => inOrder client server label = true)
    (fun server => Sound server ∧ Connected clients server ∧
      (server.Served client → Tracks server client))
    (fun holds allowed stepped => ⟨holds.1.step stepped, connected_step holds.2.1 stepped,
      tracks_step holds.1 holds.2.2 allowed (gapless_of_connected holds.2.1 first) stepped⟩)
    (start configuration clients) labels ordered
    ⟨sound_start configuration clients, ⟨Nat.le_refl _, by simp [start]⟩,
      fun _ => tracks_start configuration clients client⟩
  intro passed within reached reaches settled here
  obtain ⟨sound, -, tracks⟩ := tracked passed within reached reaches
  exact (tracks (settled.served here)).agrees sound settled here

/-- One whole broadcast. -/
def broadcastAll (publisher : Publisher) : List ServerLabel :=
  [.copyClients publisher, .send publisher none, .finish publisher]

/-- `a` is started, and its thread announces that it runs. -/
def startAndRun : List ServerLabel :=
  [.call (.start (ascii "a"))] ++ List.replicate 4 .advance ++ broadcastAll .request ++
    [.advance, .advance, .worker 0 .begin] ++ broadcastAll (.worker 0)

/-- `a` is stopped: its thread stops and tells so before the stop is told. -/
def stopOvertaken : List ServerLabel :=
  [.call (.stop (ascii "a")), .advance, .worker 0 .finished, .worker 0 .conclude] ++
    broadcastAll (.worker 0) ++ broadcastAll .request

private theorem stopOvertaken_stale : ∃ server,
    localControlServer.exec (start ManagedTunnelRuntime.soleServer 1) (startAndRun ++ stopOvertaken) =
        some server ∧
      server.Settled ∧ 0 ∈ server.clients_ ∧ ¬ server.Agrees 0 := by
  have seen : (localControlServer.exec (start ManagedTunnelRuntime.soleServer 1)
      (startAndRun ++ stopOvertaken)).map (fun server =>
        (server.quiescent, decide (0 ∈ server.clients_), decide (server.Agrees 0))) =
      some (true, true, false) := by decide +kernel
  obtain ⟨server, ran, observed⟩ := Option.map_eq_some_iff.mp seen
  simp only [Prod.mk.injEq, decide_eq_true_eq, decide_eq_false_iff_not] at observed
  exact ⟨server, ran, settled_of_quiescent ran observed.1, observed.2⟩

theorem subscriber_disagrees : ¬ ∀ (configuration : TunnelConfiguration) (clients : Nat)
    (labels : List ServerLabel) (client : ClientId), client < clients →
    localControlServer.Along
      (fun server => server.Settled → client ∈ server.clients_ → server.Agrees client)
      (start configuration clients) labels := by
  intro claimed
  obtain ⟨server, ran, settled, here, stale⟩ := stopOvertaken_stale
  exact stale (claimed ManagedTunnelRuntime.soleServer 1 _ 0 Nat.one_pos _ List.prefix_rfl _ ran
    settled here)

/-- One client watches `a` start and run. -/
theorem subscriber_agrees_of_inOrder_startAndRun : localControlServer.Along
    (fun server => server.Settled → 0 ∈ server.clients_ → server.Agrees 0)
    (start ManagedTunnelRuntime.soleServer 1) startAndRun :=
  subscriber_agrees_of_inOrder ManagedTunnelRuntime.soleServer 1 startAndRun 0 Nat.one_pos
    (Machine.guarded_of_check (by decide +kernel))

/-! ## Clients that connect -/

/-- The event has been sent to the client, or its broadcast will be. -/
def Delivers (server : LocalControlServer) (client : ClientId) (event : ControlEvent)
    (moment : Nat) : Prop :=
  (∃ delivery ∈ server.written client, delivery.event = event ∧ delivery.moment = moment) ∨
    ∃ publisher broadcast, server.broadcasts publisher = some broadcast ∧
      broadcast.event = event ∧ broadcast.moment = moment ∧ server.Addressed client broadcast

private theorem written_of_performed (performed : Performed server label next) {delivery : Delivery}
    (sent : delivery ∈ server.written client) : delivery ∈ next.written client := by
  have grows : ∀ other written, delivery ∈ (server.write other written).written client := by
    intro other written
    rcases eq_or_ne client other with rfl | ne
    · rw [write_self]
      exact List.mem_append_left _ sent
    · rw [write_of_ne server _ ne]
      exact sent
  cases performed with
  | quiet | copied | finished | checked | collected | metric | skipped | collectedAll | upgrade
  | registered => exact sent
  | advance | worker =>
      rw [publish_written]
      exact sent
  | sent | snapshotSent | dropped => exact grows _ _

private theorem delivers_of_performed (sound : Sound server) (performed : Performed server label next)
    (noGap : gapless client server label = true) (served : next.Served client)
    {event : ControlEvent} {moment : Nat} (delivers : server.Delivers client event moment) :
    next.Delivers client event moment := by
  rcases delivers with ⟨delivery, sent, told⟩ | ⟨publisher, broadcast, here, rfl, rfl, reaches⟩
  · exact .inl ⟨delivery, written_of_performed performed sent, told⟩
  · rcases forwarded_of_performed sound performed noGap served here reaches with
      ⟨forwarded, there, same, when, still⟩ | ⟨cut, rest, rfl, copied⟩
    · exact .inr ⟨publisher, forwarded, there, same, when, still⟩
    · cases performed with
      | quiet is => cases is
      | sent there copies =>
          cases here.symm.trans there
          cases copied.symm.trans copies
          let delivery : Delivery := ⟨broadcast.event, broadcast.moment, cut⟩
          have sent : delivery ∈ (server.write client delivery).written client := by
            rw [write_self]
            exact List.mem_append_right _ (List.mem_singleton.mpr rfl)
          exact .inl ⟨delivery, sent, rfl, rfl⟩

private theorem served_before (performed : Performed server label next) (known : client < server.connections)
    (served : next.Served client) : server.Served client := by
  rcases served_of_performed performed served with was | ⟨-, same⟩
  · exact was
  · exact absurd known (Nat.not_lt.mpr (Nat.le_of_eq same.symm))

/-- The client has its snapshots of the moment `since`, or is about to be sent them, and
every broadcast of a later snapshot reaches it. -/
structure Covered (since : Nat) (client : ClientId) (server : LocalControlServer) : Prop where
  known : client < server.connections
  upgrade : ∀ upgrade, server.upgrade = some upgrade → upgrade.client = client →
    upgrade.moment = since
  delivers : server.Served client → ∀ publisher broadcast,
    server.broadcasts publisher = some broadcast → since < broadcast.moment →
      server.Delivers client broadcast.event broadcast.moment

private theorem covered_step {since : Nat} (sound : Sound server) (covered : Covered since client server)
    (noGap : gapless client server label = true) (stepped : server.step label = some next) :
    Covered since client next := by
  have later := sound.step stepped
  obtain ⟨next, performed, rfl⟩ := performed_of_step stepped
  have known : client < next.connections := by
    have kept := covered.known
    cases performed with
    | quiet | copied | sent | finished | checked | collected | metric | skipped | collectedAll
    | snapshotSent | dropped | registered => exact kept
    | advance | worker =>
        rw [publish_connections]
        exact kept
    | upgrade => exact Nat.lt_succ_of_lt kept
  have upgrades : ∀ upgrade, next.upgrade = some upgrade → upgrade.client = client →
      upgrade.moment = since := by
    intro upgrade here own
    have before := covered.upgrade
    cases performed with
    | quiet | copied | sent | finished | checked | collected | metric | skipped | collectedAll =>
        exact before upgrade here own
    | advance | worker =>
        rw [publish_upgrade] at here
        exact before upgrade here own
    | upgrade =>
        cases here
        exact absurd covered.known (Nat.not_lt.mpr (Nat.le_of_eq own))
    | snapshotSent there =>
        have old := before _ there
        cases here
        exact old own
    | dropped | registered => cases here
  refine { known := known, upgrade := upgrades, delivers := ?_ }
  intro served publisher broadcast here recent
  have was := served_before performed covered.known served
  rcases broadcasts_of_performed performed here with ⟨old, there, event, moment⟩ | ⟨uncopied, begun⟩
  · rw [← event, ← moment]
    rw [← moment] at recent
    exact delivers_of_performed sound performed noGap served
      (covered.delivers was publisher old there recent)
  · refine .inr ⟨publisher, broadcast, here, rfl, rfl, ?_⟩
    rw [Addressed, uncopied]
    rcases served with ⟨connected, -⟩ | ⟨upgrade, upgrading, own⟩
    · exact .inl connected
    · exact .inr ⟨upgrade, upgrading, own, upgrades upgrade upgrading own ▸ recent⟩

private theorem covered_upgrade (sound : Sound server) (stepped : server.step .upgrade = some next) :
    Covered server.moment server.connections next ∧ Tracks next server.connections := by
  obtain ⟨next, performed, rfl⟩ := performed_of_step stepped
  cases performed with
  | quiet is => cases is
  | upgrade idle =>
      refine ⟨{ known := Nat.lt_succ_self _, upgrade := ?_, delivers := ?_ }, tracks_upgraded sound⟩
      · intro upgrade here own
        cases here
        rfl
      · intro served publisher broadcast here recent
        have old : server.broadcasts publisher = some broadcast := here
        exact absurd (sound.stamped.broadcast publisher broadcast old) (Nat.not_lt.mpr (Nat.le_of_lt recent))

/-- No event overtakes another on its way to the client, and none is missed before the
client is registered. -/
def connects (client : ClientId) (server : LocalControlServer) (label : ServerLabel) : Bool :=
  inOrder client server label && gapless client server label

/-- What holds of a client from its snapshots on. -/
theorem tracked_of_upgrade (sound : Sound server) {labels : List ServerLabel}
    {after : LocalControlServer}
    (ran : localControlServer.exec server (.upgrade :: labels) = some after)
    (guarded : localControlServer.Guarded
      (fun state label => connects server.connections state label = true) server (.upgrade :: labels)) :
    Sound after ∧ Covered server.moment server.connections after ∧
      (after.Served server.connections → Tracks after server.connections) := by
  obtain ⟨begun, stepped, ran⟩ := (localControlServer.exec_cons_iff).mp ran
  have later := ((Machine.guarded_cons stepped).mp guarded).2
  obtain ⟨covered, tracks⟩ := covered_upgrade sound stepped
  refine @Machine.invariant_of_guarded _ _ localControlServer
    (fun state label => connects server.connections state label = true)
    (fun state => Sound state ∧ Covered server.moment server.connections state ∧
      (state.Served server.connections → Tracks state server.connections))
    (fun holds allowed stepped => ?_) begun after labels ran later
    ⟨sound.step stepped, covered, fun _ => tracks⟩
  obtain ⟨ordered, noGap⟩ := Bool.and_eq_true_iff.mp allowed
  exact ⟨holds.1.step stepped, covered_step holds.1 holds.2.1 noGap stepped,
    tracks_step holds.1 holds.2.2 ordered noGap stepped⟩

/-- A client that has asked for the events and is registered: if no event overtakes
another on its way to it, and no change made after its snapshots is broadcast before it
is registered, then whenever the server is settled it agrees with the runtime and has
been sent every event published since its snapshots were taken. -/
theorem upgrade_delivers_of_connects (configuration : TunnelConfiguration) (clients : Nat)
    (history labels : List ServerLabel) (before after : LocalControlServer)
    (reached : localControlServer.exec (start configuration clients) history = some before)
    (ran : localControlServer.exec before (.upgrade :: labels) = some after)
    (guarded : localControlServer.Guarded
      (fun server label => connects before.connections server label = true) before
      (.upgrade :: labels))
    (settled : after.Settled) (registered : before.connections ∈ after.clients_) :
    after.Agrees before.connections ∧
      ∀ first rest middle publisher broadcast, first ++ rest = labels →
        localControlServer.exec before (.upgrade :: first) = some middle →
        middle.broadcasts publisher = some broadcast → before.moment < broadcast.moment →
        ∃ delivery ∈ after.written before.connections, delivery.event = broadcast.event ∧
          delivery.moment = broadcast.moment ∧ delivery.cut = none := by
  have sound : Sound before := sound_of_exec reached
  have served := settled.served registered
  obtain ⟨soundAfter, -, tracks⟩ := tracked_of_upgrade sound ran guarded
  refine ⟨(tracks served).agrees soundAfter settled registered, ?_⟩
  intro first rest middle publisher broadcast whole begun under recent
  have split : ServerLabel.upgrade :: labels = (.upgrade :: first) ++ rest := by
    rw [← whole, List.cons_append]
  rw [split] at ran guarded
  obtain ⟨_, same, ran⟩ := (localControlServer.exec_append_iff).mp ran
  cases begun.symm.trans same
  obtain ⟨early, late⟩ := (Machine.guarded_append begun).mp guarded
  obtain ⟨soundMiddle, covered, -⟩ := tracked_of_upgrade sound begun early
  have kept := @Machine.invariant_of_guarded _ _ localControlServer
    (fun state label => connects before.connections state label = true)
    (fun state => Sound state ∧ Covered before.moment before.connections state ∧
      (state.Served before.connections →
        state.Delivers before.connections broadcast.event broadcast.moment))
    (fun {state label next} holds allowed stepped => by
      obtain ⟨-, noGap⟩ := Bool.and_eq_true_iff.mp allowed
      refine ⟨holds.1.step stepped, covered_step holds.1 holds.2.1 noGap stepped, ?_⟩
      obtain ⟨next, performed, rfl⟩ := performed_of_step stepped
      intro served
      have was := served_before performed holds.2.1.known served
      exact delivers_of_performed holds.1 performed noGap served (holds.2.2 was))
    middle after rest ran late
    ⟨soundMiddle, covered, fun served => covered.delivers served publisher broadcast under recent⟩
  rcases kept.2.2 served with ⟨delivery, sent, event, moment⟩ | ⟨other, open_, pending, -⟩
  · exact ⟨delivery, sent, event, moment, (tracks served).whole delivery sent⟩
  · rw [settled.1 other] at pending
    cases pending

/-- `a` is started with nobody connected. -/
def startUnwatched : List ServerLabel :=
  [.call (.start (ascii "a"))] ++ List.replicate 4 .advance ++
    [.copyClients .request, .finish .request, .advance, .advance]

/-- A client asks for the events; `a` announces that it runs before the client is registered. -/
def missedChange : List ServerLabel :=
  [.worker 0 .begin, .copyClients (.worker 0), .finish (.worker 0), .sendSnapshot none, .register]

private theorem missedChange_gap : ∃ before after,
    localControlServer.exec (start ManagedTunnelRuntime.soleServer 0) startUnwatched = some before ∧
      localControlServer.exec before (.upgrade :: missedChange) = some after ∧
      after.Settled ∧ before.connections ∈ after.clients_ ∧ ¬ after.Agrees before.connections := by
  have seen : (localControlServer.exec (start ManagedTunnelRuntime.soleServer 0)
      (startUnwatched ++ .upgrade :: missedChange)).map (fun server =>
        (server.quiescent, decide (0 ∈ server.clients_), decide (server.Agrees 0))) =
      some (true, true, false) := by decide +kernel
  have early : (localControlServer.exec (start ManagedTunnelRuntime.soleServer 0)
      startUnwatched).map (·.connections) = some 0 := by decide +kernel
  obtain ⟨after, ran, observed⟩ := Option.map_eq_some_iff.mp seen
  obtain ⟨before, reached, first⟩ := Option.map_eq_some_iff.mp early
  have settled := settled_of_quiescent ran (Prod.mk.inj observed).1
  obtain ⟨_, same, ran⟩ := (localControlServer.exec_append_iff).mp ran
  cases reached.symm.trans same
  simp only [Prod.mk.injEq, decide_eq_true_eq, decide_eq_false_iff_not] at observed
  refine ⟨before, after, reached, ran, settled, ?_⟩
  rw [first]
  exact observed.2

/-- The rest of the upgrade, and what the workers do meanwhile. -/
def duringUpgrade : ServerLabel → Bool
  | .tick _ | .worker _ _ | .copyClients (.worker _) | .send (.worker _) _ | .finish (.worker _)
  | .sendSnapshot _ | .register => true
  | _ => false

theorem upgrade_loses_change : ¬ ∀ (configuration : TunnelConfiguration) (clients : Nat)
    (history labels : List ServerLabel) (before after : LocalControlServer),
    localControlServer.exec (start configuration clients) history = some before →
    (∀ label ∈ labels, duringUpgrade label = true) →
    localControlServer.exec before (.upgrade :: labels) = some after →
    after.Settled → before.connections ∈ after.clients_ → after.Agrees before.connections := by
  intro claimed
  obtain ⟨before, after, reached, ran, settled, registered, stale⟩ := missedChange_gap
  exact stale (claimed _ _ _ _ before after reached (by decide) ran settled registered)

/-- The same change, made when the client is registered. -/
def seenChange : List ServerLabel :=
  [.sendSnapshot none, .register, .worker 0 .begin] ++ broadcastAll (.worker 0)

theorem upgrade_delivers_of_connects_seenChange : ∃ before after,
    localControlServer.exec (start ManagedTunnelRuntime.soleServer 0) startUnwatched = some before ∧
      localControlServer.exec before (.upgrade :: seenChange) = some after ∧
      after.Agrees before.connections := by
  have early : (localControlServer.exec (start ManagedTunnelRuntime.soleServer 0)
      startUnwatched).map (fun server => (server.connections,
        localControlServer.check (connects 0) server (.upgrade :: seenChange))) = some (0, true) := by
    decide +kernel
  have seen : (localControlServer.exec (start ManagedTunnelRuntime.soleServer 0)
      (startUnwatched ++ .upgrade :: seenChange)).map (fun server =>
        (server.quiescent, decide (0 ∈ server.clients_))) = some (true, true) := by decide +kernel
  obtain ⟨before, reached, checked⟩ := Option.map_eq_some_iff.mp early
  obtain ⟨after, ran, observed⟩ := Option.map_eq_some_iff.mp seen
  simp only [Prod.mk.injEq, decide_eq_true_eq] at observed checked
  have settled := settled_of_quiescent ran observed.1
  obtain ⟨_, same, ran⟩ := (localControlServer.exec_append_iff).mp ran
  cases reached.symm.trans same
  have guarded := Machine.guarded_of_check checked.2
  rw [← checked.1] at guarded observed
  exact ⟨before, after, reached, ran, (upgrade_delivers_of_connects _ 0 startUnwatched seenChange
    before after reached ran guarded settled observed.2).1⟩

end LocalControlServer

end DatagramTunneler
