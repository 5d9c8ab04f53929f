import DatagramTunneler.Control.LocalControlServer
import DatagramTunneler.Control.SoleCaller

/-! What one step of the control server can do, and what holds in all its runs: the
runtime has one caller, snapshots are older than the present, and a client that is
being upgraded is in no copy of `clients_`. -/

set_option autoImplicit false

namespace DatagramTunneler

open Foundation

/-- The steps of the runtime in which nothing is published and no worker changes. -/
def ServerLabel.quiet? : ServerLabel → Option RuntimeLabel
  | .tick clock => some (.tick clock)
  | .configure configuration => some (.configure configuration)
  | .call control => some (.call LocalControlServer.requestThread control)
  | .threadFails what => some (.threadFails LocalControlServer.requestThread what)
  | _ => none

namespace LocalControlServer

/-- One step of the server. -/
inductive Performed (server : LocalControlServer) : ServerLabel → LocalControlServer → Prop where
  | quiet {label : ServerLabel} {quiet : RuntimeLabel} {runtime : ManagedTunnelRuntime} :
      label.quiet? = some quiet → server.runtime_.step quiet = some runtime →
      (∀ call, label = .call call → server.requestIdle = true) →
      Performed server label { server with runtime_ := runtime }
  | advance {runtime : ManagedTunnelRuntime} : server.broadcasts .request = none →
      server.runtime_.step (.advance requestThread) = some runtime →
      Performed server .advance
        (server.publish runtime .request (runtime.callers requestThread).notice?)
  | worker {worker : WorkerPtr} {event : WorkerEvent} {runtime : ManagedTunnelRuntime} :
      event ≠ .published → server.broadcasts (.worker worker) = none →
      server.runtime_.step (.worker worker event) = some runtime →
      Performed server (.worker worker event)
        (server.publish runtime (.worker worker) (runtime.heap worker).body.notice?)
  | copied {publisher : Publisher} {broadcast : Broadcast} :
      server.broadcasts publisher = some broadcast → broadcast.clients = none →
      Performed server (.copyClients publisher)
        (server.setBroadcast publisher (some { broadcast with clients := some server.clients_ }))
  | sent {publisher : Publisher} {broadcast : Broadcast} {client : ClientId} {rest : List ClientId}
      {cut : Option Nat} : server.broadcasts publisher = some broadcast →
      broadcast.clients = some (client :: rest) →
      Performed server (.send publisher cut)
        ((server.write client ⟨broadcast.event, broadcast.moment, cut⟩).setBroadcast publisher
          (some { broadcast with
            clients := some rest
            failed := if cut.isSome then broadcast.failed ++ [client] else broadcast.failed }))
  | finished {publisher : Publisher} {broadcast : Broadcast} {runtime : ManagedTunnelRuntime} :
      server.broadcasts publisher = some broadcast → broadcast.clients = some [] →
      leaveBroadcast server.runtime_ publisher = some runtime →
      Performed server (.finish publisher)
        (({ server with
            runtime_ := runtime
            clients_ := server.clients_.filter (· ∉ broadcast.failed) } :
          LocalControlServer).setBroadcast publisher none)
  | checked {metrics : MetricsPoint} : (∀ remaining moment, metrics ≠ .publishing remaining moment) →
      Performed server .checkClients { server with metrics := metrics }
  | collected :
      Performed server .collect
        { server with metrics := .publishing server.runtime_.snapshots server.moment }
  | metric {snapshot : TunnelSnapshot} {rest : List TunnelSnapshot} {moment : Nat} :
      server.metrics = .publishing (snapshot :: rest) moment → server.broadcasts .metrics = none →
      Performed server .nextMetric
        (({ server with metrics := .publishing rest moment } : LocalControlServer).setBroadcast
          .metrics (some { event := metricsEvent server.runtime_.clock snapshot, moment }))
  | skipped {snapshot : TunnelSnapshot} {rest : List TunnelSnapshot} {moment : Nat} :
      server.metrics = .publishing (snapshot :: rest) moment →
      Performed server .nextMetric { server with metrics := .publishing rest moment }
  | collectedAll : Performed server .nextMetric { server with metrics := .waiting }
  | upgrade : server.requestIdle = true →
      Performed server .upgrade { server with
        upgrade := some ⟨server.connections, server.runtime_.snapshots, server.moment⟩
        connections := server.connections + 1 }
  | snapshotSent {upgrade : Upgrade} {snapshot : TunnelSnapshot} {rest : List TunnelSnapshot}
      {event : ControlEvent} : server.upgrade = some upgrade →
      upgrade.remaining = snapshot :: rest → event.snapshot = some snapshot →
      Performed server (.sendSnapshot none)
        { server.write upgrade.client ⟨event, upgrade.moment, none⟩ with
          upgrade := some { upgrade with remaining := rest } }
  | dropped {upgrade : Upgrade} {event : ControlEvent} {bytes : Nat} :
      server.upgrade = some upgrade →
      Performed server (.sendSnapshot (some bytes))
        { server.write upgrade.client ⟨event, upgrade.moment, some bytes⟩ with upgrade := none }
  | registered {upgrade : Upgrade} : server.upgrade = some upgrade → upgrade.remaining = [] →
      Performed server .register
        { server with clients_ := server.clients_ ++ [upgrade.client], upgrade := none }

private theorem performed_of_perform {server next : LocalControlServer} {label : ServerLabel}
    (performed : server.perform label = some next) : Performed server label next := by
  cases label with
  | tick clock =>
      simp only [perform] at performed
      obtain ⟨runtime, stepped, rfl⟩ := Option.map_eq_some_iff.mp performed
      exact .quiet rfl stepped (by simp)
  | configure configuration =>
      simp only [perform] at performed
      split at performed
      · obtain ⟨runtime, stepped, rfl⟩ := Option.map_eq_some_iff.mp performed
        exact .quiet rfl stepped (by simp)
      · cases performed
  | call call =>
      simp only [perform] at performed
      split at performed
      · next idle =>
          obtain ⟨runtime, stepped, rfl⟩ := Option.map_eq_some_iff.mp performed
          exact .quiet rfl stepped fun _ _ => idle
      · cases performed
  | threadFails what =>
      simp only [perform] at performed
      obtain ⟨runtime, stepped, rfl⟩ := Option.map_eq_some_iff.mp performed
      exact .quiet rfl stepped (by simp)
  | advance =>
      simp only [perform] at performed
      split at performed
      · next free =>
          obtain ⟨runtime, stepped, rfl⟩ := Option.map_eq_some_iff.mp performed
          exact .advance free stepped
      · cases performed
  | worker worker event =>
      simp only [perform] at performed
      split at performed
      · next free =>
          obtain ⟨runtime, stepped, rfl⟩ := Option.map_eq_some_iff.mp performed
          exact .worker free.1 free.2 stepped
      · cases performed
  | copyClients publisher =>
      simp only [perform] at performed
      split at performed
      · next here =>
          cases performed
          exact .copied here rfl
      · cases performed
  | send publisher cut =>
      simp only [perform] at performed
      split at performed
      · next here =>
          cases performed
          exact .sent here rfl
      · cases performed
  | finish publisher =>
      simp only [perform] at performed
      split at performed
      · next here =>
          obtain ⟨runtime, left, rfl⟩ := Option.map_eq_some_iff.mp performed
          exact .finished here rfl left
      · cases performed
  | checkClients =>
      simp only [perform] at performed
      split at performed
      · cases performed
        refine .checked fun remaining moment => ?_
        split <;> simp
      · cases performed
  | collect =>
      simp only [perform] at performed
      split at performed
      · cases performed
        exact .collected
      · cases performed
  | nextMetric =>
      simp only [perform] at performed
      split at performed
      · next here free =>
          split at performed
          · cases performed
            exact .metric here free
          · cases performed
            exact .skipped here
      · cases performed
        exact .collectedAll
      · cases performed
  | upgrade =>
      simp only [perform] at performed
      split at performed
      · next idle =>
          cases performed
          exact .upgrade idle
      · cases performed
  | sendSnapshot cut =>
      simp only [perform] at performed
      split at performed
      · next here =>
          cases performed
          cases cut with
          | none => exact .snapshotSent here rfl rfl
          | some bytes => exact .dropped here
      · cases performed
  | register =>
      simp only [perform] at performed
      split at performed
      · next here =>
          cases performed
          exact .registered here rfl
      · cases performed

theorem performed_of_step {server next : LocalControlServer} {label : ServerLabel}
    (stepped : server.step label = some next) :
    ∃ performed, Performed server label performed ∧
      next = { performed with moment := server.moment + 1 } := by
  obtain ⟨performed, done, rfl⟩ := Option.map_eq_some_iff.mp stepped
  exact ⟨performed, performed_of_perform done, rfl⟩

section Updates

variable (server : LocalControlServer)

@[simp] theorem setBroadcast_self (publisher : Publisher) (broadcast : Option Broadcast) :
    (server.setBroadcast publisher broadcast).broadcasts publisher = broadcast := by
  simp [setBroadcast]

theorem setBroadcast_of_ne {publisher other : Publisher} (broadcast : Option Broadcast)
    (ne : other ≠ publisher) :
    (server.setBroadcast publisher broadcast).broadcasts other = server.broadcasts other := by
  simp [setBroadcast, ne]

@[simp] theorem write_self (client : ClientId) (delivery : Delivery) :
    (server.write client delivery).written client = server.written client ++ [delivery] := by
  simp [write]

theorem write_of_ne {client other : ClientId} (delivery : Delivery) (ne : other ≠ client) :
    (server.write client delivery).written other = server.written other := by
  simp [write, ne]

end Updates

/-! ## The runtime -/

/-- The runtime under the request thread. -/
structure RuntimeSound (server : LocalControlServer) : Prop where
  sound : server.runtime_.Sound
  sole : server.runtime_.SoleCaller (server.runtime_.callers requestThread)

variable {server next : LocalControlServer} {label : ServerLabel}

private theorem runtimeSound_start (configuration : TunnelConfiguration) (clients : Nat) :
    RuntimeSound (start configuration clients) where
  sound := ManagedTunnelRuntime.sound_start configuration
  sole := ManagedTunnelRuntime.soleCaller_start configuration

/-- The steps of the runtime that the server takes are those of one caller. -/
theorem RuntimeSound.runtime {runtime : ManagedTunnelRuntime} {step : RuntimeLabel}
    (good : RuntimeSound server) (stepped : server.runtime_.step step = some runtime)
    (alone : ∀ other, (step = .advance other ∨ (∃ call, step = .call other call) ∨
      ∃ what, step = .threadFails other what) → other = requestThread) :
    runtime.Sound ∧ runtime.SoleCaller (runtime.callers requestThread) :=
  ⟨good.sound.step stepped, good.sole.step good.sound alone stepped⟩

theorem RuntimeSound.step (good : RuntimeSound server) (performed : Performed server label next) :
    RuntimeSound next := by
  cases performed with
  | @quiet _ quiet runtime is stepped _ =>
      obtain ⟨sound, sole⟩ := good.runtime stepped (by
        intro other own
        cases label <;> simp_all [ServerLabel.quiet?] <;> subst is <;> simp_all)
      exact ⟨sound, sole⟩
  | advance free stepped =>
      obtain ⟨sound, sole⟩ := good.runtime stepped (by simp)
      unfold publish
      split <;> exact ⟨sound, sole⟩
  | worker _ free stepped =>
      obtain ⟨sound, sole⟩ := good.runtime stepped (by simp)
      unfold publish
      split <;> exact ⟨sound, sole⟩
  | @finished publisher broadcast runtime here copied left =>
      cases publisher with
      | metrics =>
          cases left
          exact ⟨good.sound, good.sole⟩
      | worker worker =>
          simp only [leaveBroadcast] at left
          obtain ⟨sound, sole⟩ := good.runtime left (by simp)
          exact ⟨sound, sole⟩
      | request =>
          simp only [leaveBroadcast] at left
          split at left
          · obtain ⟨sound, sole⟩ := good.runtime left (by simp)
            exact ⟨sound, sole⟩
          · cases left
  | copied | sent | checked | collected | metric | skipped | collectedAll | upgrade | snapshotSent
  | dropped | registered => exact ⟨good.sound, good.sole⟩

/-! ## The moments of snapshots -/

/-- Snapshots are older than the present. -/
structure Stamped (server : LocalControlServer) : Prop where
  broadcast : ∀ publisher broadcast, server.broadcasts publisher = some broadcast →
    broadcast.moment < server.moment
  metrics : ∀ remaining moment, server.metrics = .publishing remaining moment →
    moment < server.moment
  upgrade : ∀ upgrade, server.upgrade = some upgrade → upgrade.moment < server.moment

private theorem stamped_start (configuration : TunnelConfiguration) (clients : Nat) :
    Stamped (start configuration clients) where
  broadcast := by simp [start]
  metrics := by simp [start]
  upgrade := by simp [start]

theorem Stamped.later (stamped : Stamped server)
    (broadcast : ∀ publisher broadcast, next.broadcasts publisher = some broadcast →
      server.broadcasts publisher = some broadcast ∨ broadcast.moment ≤ server.moment)
    (metrics : ∀ remaining moment, next.metrics = .publishing remaining moment →
      (∃ queue, server.metrics = .publishing queue moment) ∨ moment ≤ server.moment)
    (upgrade : ∀ upgrade, next.upgrade = some upgrade →
      (∃ before, server.upgrade = some before ∧ before.moment = upgrade.moment) ∨
        upgrade.moment ≤ server.moment) :
    Stamped { next with moment := server.moment + 1 } where
  broadcast := by
    intro publisher under here
    refine Nat.lt_succ_of_le ?_
    rcases broadcast publisher under here with old | recent
    · exact Nat.le_of_lt (stamped.broadcast publisher under old)
    · exact recent
  metrics := by
    intro remaining moment here
    refine Nat.lt_succ_of_le ?_
    rcases metrics remaining moment here with ⟨queue, old⟩ | recent
    · exact Nat.le_of_lt (stamped.metrics queue moment old)
    · exact recent
  upgrade := by
    intro under here
    refine Nat.lt_succ_of_le ?_
    rcases upgrade under here with ⟨before, old, same⟩ | recent
    · exact same ▸ Nat.le_of_lt (stamped.upgrade before old)
    · exact recent

/-- Where one broadcast is set, the others are the old ones. -/
theorem broadcasts_setBroadcast {base : LocalControlServer} {publisher other : Publisher}
    {set : Option Broadcast} {broadcast : Broadcast}
    (here : (base.setBroadcast publisher set).broadcasts other = some broadcast) :
    (other = publisher ∧ set = some broadcast) ∨
      (other ≠ publisher ∧ base.broadcasts other = some broadcast) := by
  rcases eq_or_ne other publisher with rfl | ne
  · rw [setBroadcast_self] at here
    exact .inl ⟨rfl, here⟩
  · rw [setBroadcast_of_ne _ _ ne] at here
    exact .inr ⟨ne, here⟩

/-- The broadcasts when the runtime has moved on. -/
theorem broadcasts_publish {runtime : ManagedTunnelRuntime} {publisher other : Publisher}
    {notice? : Option Notice} {broadcast : Broadcast}
    (here : (server.publish runtime publisher notice?).broadcasts other = some broadcast) :
    (other = publisher ∧ ∃ notice, notice? = some notice ∧
        broadcast = { event := notice.event runtime.clock, moment := server.moment }) ∨
      server.broadcasts other = some broadcast := by
  cases notice? with
  | none => exact .inr here
  | some notice =>
      rcases broadcasts_setBroadcast here with ⟨same, set⟩ | ⟨-, old⟩
      · exact .inl ⟨same, notice, rfl, (Option.some.inj set).symm⟩
      · exact .inr old

/-- A publisher whose turn it is disturbs no other broadcast. -/
theorem setBroadcast_kept {base : LocalControlServer} {publisher other : Publisher}
    {set : Option Broadcast} {broadcast : Broadcast} (free : base.broadcasts publisher = none)
    (here : base.broadcasts other = some broadcast) :
    (base.setBroadcast publisher set).broadcasts other = some broadcast := by
  have ne : other ≠ publisher := by
    intro same
    rw [same, free] at here
    cases here
  exact (setBroadcast_of_ne _ _ ne).trans here

theorem publish_kept {runtime : ManagedTunnelRuntime} {publisher other : Publisher}
    {notice? : Option Notice} {broadcast : Broadcast} (free : server.broadcasts publisher = none)
    (here : server.broadcasts other = some broadcast) :
    (server.publish runtime publisher notice?).broadcasts other = some broadcast := by
  cases notice? with
  | none => exact here
  | some notice => exact @setBroadcast_kept { server with runtime_ := runtime } _ _ _ _ free here

@[simp] theorem publish_metrics (runtime : ManagedTunnelRuntime) (publisher : Publisher)
    (notice? : Option Notice) : (server.publish runtime publisher notice?).metrics = server.metrics := by
  cases notice? <;> rfl

@[simp] theorem publish_upgrade (runtime : ManagedTunnelRuntime) (publisher : Publisher)
    (notice? : Option Notice) : (server.publish runtime publisher notice?).upgrade = server.upgrade := by
  cases notice? <;> rfl

@[simp] theorem publish_clients_ (runtime : ManagedTunnelRuntime) (publisher : Publisher)
    (notice? : Option Notice) :
    (server.publish runtime publisher notice?).clients_ = server.clients_ := by
  cases notice? <;> rfl

@[simp] theorem publish_written (runtime : ManagedTunnelRuntime) (publisher : Publisher)
    (notice? : Option Notice) : (server.publish runtime publisher notice?).written = server.written := by
  cases notice? <;> rfl

@[simp] theorem publish_connections (runtime : ManagedTunnelRuntime) (publisher : Publisher)
    (notice? : Option Notice) :
    (server.publish runtime publisher notice?).connections = server.connections := by
  cases notice? <;> rfl

@[simp] theorem publish_runtime_ (runtime : ManagedTunnelRuntime) (publisher : Publisher)
    (notice? : Option Notice) : (server.publish runtime publisher notice?).runtime_ = runtime := by
  cases notice? <;> rfl

theorem Stamped.step (stamped : Stamped server) (performed : Performed server label next) :
    Stamped { next with moment := server.moment + 1 } := by
  have sameMetrics : ∀ remaining moment, server.metrics = .publishing remaining moment →
      (∃ queue, server.metrics = .publishing queue moment) ∨ moment ≤ server.moment :=
    fun remaining moment here => .inl ⟨remaining, here⟩
  have sameUpgrade : ∀ upgrade, server.upgrade = some upgrade →
      (∃ before, server.upgrade = some before ∧ before.moment = upgrade.moment) ∨
        upgrade.moment ≤ server.moment :=
    fun upgrade here => .inl ⟨upgrade, here, rfl⟩
  cases performed with
  | quiet => exact stamped.later (fun _ _ here => .inl here) sameMetrics sameUpgrade
  | advance | worker =>
      refine stamped.later (fun publisher broadcast here => ?_) ?_ ?_
      · rcases broadcasts_publish here with ⟨-, notice, -, rfl⟩ | old
        · exact .inr (Nat.le_refl _)
        · exact .inl old
      · rw [publish_metrics]
        exact sameMetrics
      · rw [publish_upgrade]
        exact sameUpgrade
  | copied there | sent there =>
      refine stamped.later (fun publisher broadcast here => ?_) sameMetrics sameUpgrade
      have older := stamped.broadcast _ _ there
      rcases broadcasts_setBroadcast here with ⟨-, set⟩ | ⟨-, old⟩
      · cases set
        exact .inr (Nat.le_of_lt older)
      · exact .inl old
  | finished =>
      refine stamped.later (fun publisher broadcast here => ?_) sameMetrics sameUpgrade
      rcases broadcasts_setBroadcast here with ⟨-, set⟩ | ⟨-, old⟩
      · cases set
      · exact .inl old
  | checked notPublishing =>
      refine stamped.later (fun _ _ here => .inl here) ?_ sameUpgrade
      exact fun remaining moment here => absurd here (notPublishing remaining moment)
  | collected =>
      refine stamped.later (fun _ _ here => .inl here) ?_ sameUpgrade
      intro remaining moment here
      cases here
      exact .inr (Nat.le_refl _)
  | metric there free =>
      refine stamped.later (fun publisher broadcast here => ?_) ?_ sameUpgrade
      · rcases broadcasts_setBroadcast here with ⟨-, set⟩ | ⟨-, old⟩
        · cases set
          exact .inr (Nat.le_of_lt (stamped.metrics _ _ there))
        · exact .inl old
      · intro remaining moment here
        cases here
        exact .inl ⟨_, there⟩
  | skipped there =>
      refine stamped.later (fun _ _ here => .inl here) ?_ sameUpgrade
      intro remaining moment here
      cases here
      exact .inl ⟨_, there⟩
  | collectedAll => exact stamped.later (fun _ _ here => .inl here) (by simp) sameUpgrade
  | upgrade idle =>
      refine stamped.later (fun _ _ here => .inl here) sameMetrics ?_
      intro upgrade here
      cases here
      exact .inr (Nat.le_refl _)
  | snapshotSent there =>
      refine stamped.later (fun _ _ here => .inl here) sameMetrics ?_
      intro upgrade here
      cases here
      exact .inl ⟨_, there, rfl⟩
  | dropped | registered =>
      exact stamped.later (fun _ _ here => .inl here) sameMetrics (by simp)

/-! ## The clients -/

/-- Not connected yet, or being upgraded. -/
def Unregistered (server : LocalControlServer) (client : ClientId) : Prop :=
  server.connections ≤ client ∨ ∃ upgrade, server.upgrade = some upgrade ∧ upgrade.client = client

/-- A client is in `clients_` and its copies only when its upgrade is complete. -/
structure Numbered (server : LocalControlServer) : Prop where
  clients : ∀ client, server.Unregistered client → client ∉ server.clients_
  copied : ∀ client, server.Unregistered client → ∀ publisher broadcast clients,
    server.broadcasts publisher = some broadcast → broadcast.clients = some clients →
    client ∉ clients
  unsent : ∀ client, server.connections ≤ client → server.written client = []
  upgrading : ∀ upgrade, server.upgrade = some upgrade → upgrade.client < server.connections ∧
    ∀ delivery ∈ server.written upgrade.client, delivery.moment ≤ upgrade.moment
  exclusive : ∀ upgrade call point, server.upgrade = some upgrade →
    server.runtime_.callers requestThread ≠ .running call point

private theorem numbered_start (configuration : TunnelConfiguration) (clients : Nat) :
    Numbered (start configuration clients) where
  clients := by
    intro client unregistered
    rcases unregistered with beyond | ⟨upgrade, here, -⟩
    · simpa [start] using beyond
    · cases here
  copied := by simp [start]
  unsent := by simp [start]
  upgrading := by simp [start]
  exclusive := by simp [start]

theorem idle_of_step {runtime after : ManagedTunnelRuntime} {step : RuntimeLabel} {caller : Nat}
    (idle : ∀ call point, runtime.callers caller ≠ .running call point)
    (stepped : runtime.step step = some after) (uncalled : ∀ call, step ≠ .call caller call) :
    ∀ call point, after.callers caller ≠ .running call point := by
  cases ManagedTunnelRuntime.stepped_of_step stepped with
  | tick | configure | worker => exact idle
  | @call other begun =>
      have ne : caller ≠ other := fun same => uncalled begun (same ▸ rfl)
      rw [ManagedTunnelRuntime.setCaller_callers_of_ne _ _ ne]
      exact idle
  | @advance other running point shared state there advanced =>
      have ne : caller ≠ other := fun same => idle running point (same ▸ there)
      rw [ManagedTunnelRuntime.setCaller_callers_of_ne _ _ ne,
        ManagedTunnelRuntime.callers_of_callStep advanced]
      exact idle
  | @threadFails other running worker what there =>
      have ne : caller ≠ other := fun same => idle running _ (same ▸ there)
      rw [ManagedTunnelRuntime.setCaller_callers_of_ne _ _ ne]
      exact idle

private theorem running_of_notice {state : CallerState} (publishing : state.notice?.isSome = true) :
    ∃ call point, state = .running call point := by
  cases state with
  | idle | returned | threw => cases publishing
  | running call point => exact ⟨call, point, rfl⟩

private theorem uncalled_of_idle {upgrade : Upgrade} (here : server.upgrade = some upgrade)
    (call : ControlCall) {quiet : RuntimeLabel} (is : label.quiet? = some quiet)
    (idle : ∀ call, label = .call call → server.requestIdle = true) :
    quiet ≠ .call requestThread call := by
  intro same
  subst same
  cases label with
  | call called =>
      have free := idle called rfl
      simp [requestIdle, here] at free
  | tick | configure | threadFails => simp [ServerLabel.quiet?] at is
  | advance | worker | copyClients | send | finish | checkClients | collect | nextMetric | upgrade
  | sendSnapshot | register => cases is

/-- Broadcasts begin without a copy of the clients. -/
theorem Numbered.publish (numbered : Numbered server) {runtime : ManagedTunnelRuntime}
    {step : RuntimeLabel} {publisher : Publisher} {notice? : Option Notice}
    (stepped : server.runtime_.step step = some runtime)
    (uncalled : ∀ call, step ≠ .call requestThread call) :
    Numbered (server.publish runtime publisher notice?) where
  clients := by simpa [Unregistered] using numbered.clients
  copied := by
    intro client unregistered other broadcast clients here copies
    rcases broadcasts_publish here with ⟨-, notice, -, rfl⟩ | old
    · cases copies
    · exact numbered.copied client (by simpa [Unregistered] using unregistered) _ _ _ old copies
  unsent := by simpa using numbered.unsent
  upgrading := by simpa using numbered.upgrading
  exclusive := by
    intro upgrade call point here
    rw [publish_upgrade] at here
    rw [publish_runtime_]
    exact idle_of_step (numbered.exclusive upgrade · · here) stepped uncalled call point

theorem Numbered.setBroadcast (numbered : Numbered server) {publisher : Publisher}
    {set : Option Broadcast}
    (absent : ∀ client, server.Unregistered client → ∀ broadcast clients, set = some broadcast →
      broadcast.clients = some clients → client ∉ clients) :
    Numbered (server.setBroadcast publisher set) := by
  refine { numbered with copied := ?_ }
  intro client unregistered other broadcast clients here copies
  rcases broadcasts_setBroadcast here with ⟨-, set⟩ | ⟨-, old⟩
  · exact absent client unregistered broadcast clients set copies
  · exact numbered.copied client unregistered _ _ _ old copies

/-- What a registered client is sent is nothing to the others. -/
theorem Numbered.write (numbered : Numbered server) {client : ClientId}
    (registered : ∀ other, server.Unregistered other → other ≠ client) (delivery : Delivery) :
    Numbered (server.write client delivery) where
  clients := numbered.clients
  copied := numbered.copied
  unsent := by
    intro other beyond
    exact (write_of_ne server _ (registered other (.inl beyond))).trans (numbered.unsent other beyond)
  upgrading := by
    intro upgrade here
    have same : (server.write client delivery).written upgrade.client =
        server.written upgrade.client :=
      write_of_ne server _ (registered upgrade.client (.inr ⟨upgrade, here, rfl⟩))
    obtain ⟨known, older⟩ := numbered.upgrading upgrade here
    refine ⟨known, ?_⟩
    intro delivery inside
    exact older delivery (same ▸ inside)
  exclusive := numbered.exclusive

/-- Only the request thread leaves a call, and it makes none during an upgrade. -/
theorem Numbered.idle_of_leaveBroadcast (numbered : Numbered server) {publisher : Publisher}
    {runtime : ManagedTunnelRuntime} (left : leaveBroadcast server.runtime_ publisher = some runtime)
    {upgrade : Upgrade} (here : server.upgrade = some upgrade) (call : ControlCall)
    (point : CallPoint) : runtime.callers requestThread ≠ .running call point := by
  have idle := fun call point => numbered.exclusive upgrade call point here
  cases publisher with
  | metrics =>
      cases left
      exact idle call point
  | worker worker =>
      simp only [leaveBroadcast] at left
      exact idle_of_step idle left (by simp) call point
  | request =>
      simp only [leaveBroadcast] at left
      split at left
      · next publishing =>
          obtain ⟨called, place, running⟩ := running_of_notice publishing
          exact absurd running (idle called place)
      · cases left

theorem Numbered.leave (numbered : Numbered server) {publisher : Publisher}
    {runtime : ManagedTunnelRuntime} (left : leaveBroadcast server.runtime_ publisher = some runtime)
    (failed : List ClientId) :
    Numbered { server with
      runtime_ := runtime, clients_ := server.clients_.filter (· ∉ failed) } where
  clients := by
    intro client unregistered inside
    exact numbered.clients client unregistered (List.mem_filter.mp inside).1
  copied := numbered.copied
  unsent := numbered.unsent
  upgrading := numbered.upgrading
  exclusive := by
    intro upgrade call point here
    exact numbered.idle_of_leaveBroadcast left here call point

theorem Numbered.upgrade (numbered : Numbered server) (idle : server.requestIdle = true)
    (remaining : List TunnelSnapshot) (moment : Nat) :
    Numbered { server with
      upgrade := some ⟨server.connections, remaining, moment⟩
      connections := server.connections + 1 } := by
  have before : ∀ client, Unregistered { server with
      upgrade := some ⟨server.connections, remaining, moment⟩
      connections := server.connections + 1 } client → server.Unregistered client := by
    intro client unregistered
    rcases unregistered with beyond | ⟨upgrade, here, same⟩
    · exact .inl (Nat.le_of_succ_le beyond)
    · cases here
      exact .inl (Nat.le_of_eq same)
  exact {
    clients := fun client unregistered => numbered.clients client (before client unregistered)
    copied := fun client unregistered => numbered.copied client (before client unregistered)
    unsent := fun client beyond => numbered.unsent client (Nat.le_of_succ_le beyond)
    upgrading := by
      intro upgrade here
      cases here
      refine ⟨Nat.lt_succ_self _, ?_⟩
      intro delivery inside
      dsimp only at inside
      rw [numbered.unsent _ (Nat.le_refl _)] at inside
      cases inside
    exclusive := by
      intro upgrade call point here running
      dsimp only at running
      simp [requestIdle, running] at idle }

/-- The client being upgraded is sent a snapshot, whether it stays or is dropped. -/
theorem Numbered.unsent_write (numbered : Numbered server) {upgrade : Upgrade}
    (there : server.upgrade = some upgrade) (delivery : Delivery) {client : ClientId}
    (beyond : server.connections ≤ client) :
    (server.write upgrade.client delivery).written client = [] := by
  have known := (numbered.upgrading upgrade there).1
  have ne : client ≠ upgrade.client := by
    intro same
    subst same
    exact absurd known (Nat.not_lt.mpr beyond)
  exact (write_of_ne server _ ne).trans (numbered.unsent client beyond)

theorem Numbered.sendSnapshot (numbered : Numbered server) {upgrade : Upgrade}
    (there : server.upgrade = some upgrade) (event : ControlEvent) (rest : List TunnelSnapshot) :
    Numbered { server.write upgrade.client ⟨event, upgrade.moment, none⟩ with
      upgrade := some { upgrade with remaining := rest } } := by
  have before : ∀ client, Unregistered { server.write upgrade.client ⟨event, upgrade.moment, none⟩ with
      upgrade := some { upgrade with remaining := rest } } client → server.Unregistered client := by
    intro client unregistered
    rcases unregistered with beyond | ⟨under, here, same⟩
    · exact .inl beyond
    · cases here
      exact .inr ⟨upgrade, there, same⟩
  obtain ⟨known, older⟩ := numbered.upgrading upgrade there
  exact {
    clients := fun client unregistered => numbered.clients client (before client unregistered)
    copied := fun client unregistered => numbered.copied client (before client unregistered)
    unsent := fun client beyond => numbered.unsent_write there _ beyond
    upgrading := by
      intro under here
      cases here
      refine ⟨known, ?_⟩
      intro delivery inside
      dsimp only at inside
      rw [write_self] at inside
      rcases List.mem_append.mp inside with old | new
      · exact older delivery old
      · rw [List.mem_singleton.mp new]
    exclusive := by
      intro under call point here
      exact numbered.exclusive upgrade call point there }

theorem Numbered.drop (numbered : Numbered server) {upgrade : Upgrade}
    (there : server.upgrade = some upgrade) (delivery : Delivery) :
    Numbered { server.write upgrade.client delivery with upgrade := none } := by
  have before : ∀ client,
      Unregistered { server.write upgrade.client delivery with upgrade := none } client →
      server.Unregistered client := by
    intro client unregistered
    rcases unregistered with beyond | ⟨under, here, same⟩
    · exact .inl beyond
    · cases here
  exact {
    clients := fun client unregistered => numbered.clients client (before client unregistered)
    copied := fun client unregistered => numbered.copied client (before client unregistered)
    unsent := fun client beyond => numbered.unsent_write there _ beyond
    upgrading := by simp
    exclusive := by simp }

theorem Numbered.register (numbered : Numbered server) {upgrade : Upgrade}
    (there : server.upgrade = some upgrade) :
    Numbered { server with clients_ := server.clients_ ++ [upgrade.client], upgrade := none } := by
  have known := (numbered.upgrading upgrade there).1
  have beyond : ∀ client, Unregistered { server with
      clients_ := server.clients_ ++ [upgrade.client], upgrade := none } client →
      server.connections ≤ client := by
    intro client unregistered
    rcases unregistered with beyond | ⟨under, here, -⟩
    · exact beyond
    · cases here
  exact {
    clients := by
      intro client unregistered inside
      have far := beyond client unregistered
      rcases List.mem_append.mp inside with old | new
      · exact numbered.clients client (.inl far) old
      · rw [List.mem_singleton.mp new] at far
        exact absurd known (Nat.not_lt.mpr far)
    copied := fun client unregistered => numbered.copied client (.inl (beyond client unregistered))
    unsent := numbered.unsent
    upgrading := by simp
    exclusive := by simp }

theorem Numbered.step (numbered : Numbered server) (performed : Performed server label next) :
    Numbered { next with moment := server.moment + 1 } := by
  cases performed with
  | quiet is stepped idle =>
      refine { numbered with exclusive := ?_ }
      intro upgrade call point here
      have before : server.upgrade = some upgrade := here
      refine idle_of_step (numbered.exclusive upgrade · · before) stepped ?_ call point
      intro called
      exact uncalled_of_idle before called is idle
  | advance free stepped => exact { numbered.publish stepped (by simp) with }
  | worker other free stepped => exact { numbered.publish stepped (by simp) with }
  | copied there uncopied =>
      refine { numbered.setBroadcast ?_ with }
      intro client unregistered broadcast clients set copies
      cases set
      cases copies
      exact numbered.clients client unregistered
  | @sent publisher broadcast client rest cut there copies =>
      have registered : ∀ other, server.Unregistered other → other ≠ client := by
        intro other unregistered same
        exact numbered.copied other unregistered _ _ _ there copies (same ▸ List.mem_cons_self)
      refine { (numbered.write registered _).setBroadcast ?_ with }
      intro other unregistered broadcast clients set still
      cases set
      cases still
      have outside := numbered.copied other unregistered _ _ _ there copies
      exact fun inside => outside (List.mem_cons_of_mem _ inside)
  | finished there copies left =>
      exact { (numbered.leave left _).setBroadcast (by simp) with }
  | checked | collected | skipped | collectedAll => exact { numbered with }
  | @metric snapshot rest moment there free =>
      have without : Numbered { server with metrics := .publishing rest moment } := { numbered with }
      refine { without.setBroadcast ?_ with }
      intro client unregistered broadcast clients set copies
      cases set
      cases copies
  | upgrade idle => exact { numbered.upgrade idle _ _ with }
  | snapshotSent there => exact { numbered.sendSnapshot there _ _ with }
  | dropped there => exact { numbered.drop there _ with }
  | registered there => exact { numbered.register there with }

/-! ## All of it -/

structure Sound (server : LocalControlServer) : Prop where
  runtime : RuntimeSound server
  stamped : Stamped server
  numbered : Numbered server

theorem sound_start (configuration : TunnelConfiguration) (clients : Nat) :
    Sound (start configuration clients) where
  runtime := runtimeSound_start configuration clients
  stamped := stamped_start configuration clients
  numbered := numbered_start configuration clients

theorem Sound.step (sound : Sound server) (stepped : server.step label = some next) : Sound next := by
  obtain ⟨performed, done, rfl⟩ := performed_of_step stepped
  have runtime := sound.runtime.step done
  exact {
    runtime := ⟨runtime.sound, runtime.sole⟩
    stamped := sound.stamped.step done
    numbered := sound.numbered.step done }

theorem sound_of_exec {configuration : TunnelConfiguration} {clients : Nat}
    {labels : List ServerLabel}
    (ran : localControlServer.exec (start configuration clients) labels = some server) :
    Sound server :=
  Machine.invariant_of_exec (fun sound stepped => sound.step stepped) ran
    (sound_start configuration clients)

end LocalControlServer

end DatagramTunneler
