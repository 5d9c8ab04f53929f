import DatagramTunneler.Control.PublishedStates
import DatagramTunneler.Foundation.Feed
import Mathlib.Data.List.Induction
import Mathlib.Data.List.TakeWhile

/-! What a WebSocket client sees of the workers. For one client and one runtime the
broadcasts are announcements of the worker's state that arrive some time after they
were made: a client that is connected, or being upgraded, is sure to be sent some of
them, and others may reach it as well. -/

set_option autoImplicit false

namespace DatagramTunneler

open Foundation

/-- What an event says about the runtime with this key. -/
def ControlEvent.announced? (event : ControlEvent) (key : Text) (moment : Nat) :
    Option (Announcement TunnelState) :=
  match event.snapshot with
  | some snapshot => if snapshot.key = key then some ⟨moment, snapshot.state⟩ else none
  | none => none

theorem ControlEvent.announced?_eq_some_iff {event : ControlEvent} {key : Text} {moment : Nat}
    {announcement : Announcement TunnelState} :
    event.announced? key moment = some announcement ↔ ∃ snapshot, event.snapshot = some snapshot ∧
      snapshot.key = key ∧ announcement = ⟨moment, snapshot.state⟩ := by
  unfold announced?
  cases event.snapshot with
  | none => simp
  | some snapshot =>
      simp only [Option.some.injEq, exists_eq_left']
      split
      · next same => simp [same, eq_comm]
      · next different => simp [different]

/-- The runtime an event is about. -/
def ControlEvent.runtime? (event : ControlEvent) : Option Text := event.snapshot.map (·.key)

def ControlEvent.state? (event : ControlEvent) : Option TunnelState := event.snapshot.map (·.state)

/-- The steps in which the runtime may publish. -/
def ServerLabel.publishes : ServerLabel → Bool
  | .advance | .worker _ _ => true
  | _ => false

namespace LocalControlServer

variable {server next : LocalControlServer} {label : ServerLabel} {client : ClientId} {key : Text}

/-! ## Announcements to one client about one runtime -/

/-- The client is connected or being upgraded, and no send to it has failed. -/
def Served (server : LocalControlServer) (client : ClientId) : Prop :=
  (client ∈ server.clients_ ∧ ∀ publisher broadcast,
    server.broadcasts publisher = some broadcast → client ∉ broadcast.failed) ∨
  ∃ upgrade, server.upgrade = some upgrade ∧ upgrade.client = client

/-- The broadcast is going to be sent to the client, if its upgrade is done in time. -/
def Addressed (server : LocalControlServer) (client : ClientId) (broadcast : Broadcast) : Prop :=
  match broadcast.clients with
  | some clients => client ∈ clients
  | none => client ∈ server.clients_ ∨ ∃ upgrade, server.upgrade = some upgrade ∧
      upgrade.client = client ∧ upgrade.moment < broadcast.moment

/-- What the client has been sent about the runtime. -/
def delivered (server : LocalControlServer) (client : ClientId) (key : Text) :
    List (Announcement TunnelState) :=
  (server.written client).filterMap fun delivery => delivery.event.announced? key delivery.moment

/-- What may still reach the client about the runtime. -/
inductive MayArrive (server : LocalControlServer) (client : ClientId) (key : Text) :
    Announcement TunnelState → Prop where
  | broadcast {publisher : Publisher} {broadcast : Broadcast} {announcement : Announcement TunnelState} :
      server.broadcasts publisher = some broadcast →
      (∀ clients, broadcast.clients = some clients → client ∈ clients) →
      broadcast.event.announced? key broadcast.moment = some announcement →
      MayArrive server client key announcement
  | metrics {remaining : List TunnelSnapshot} {moment : Nat} {snapshot : TunnelSnapshot} :
      server.metrics = .publishing remaining moment → snapshot ∈ remaining → snapshot.key = key →
      MayArrive server client key ⟨moment, snapshot.state⟩
  | upgrade {upgrade : Upgrade} {snapshot : TunnelSnapshot} : server.upgrade = some upgrade →
      upgrade.client = client → snapshot ∈ upgrade.remaining → snapshot.key = key →
      MayArrive server client key ⟨upgrade.moment, snapshot.state⟩

/-- When what is sure to reach the client about the runtime was announced. -/
inductive WillArrive (server : LocalControlServer) (client : ClientId) (key : Text) : Nat → Prop where
  | broadcast {publisher : Publisher} {broadcast : Broadcast} {announcement : Announcement TunnelState} :
      server.broadcasts publisher = some broadcast → server.Addressed client broadcast →
      broadcast.event.announced? key broadcast.moment = some announcement →
      WillArrive server client key broadcast.moment
  | upgrade {upgrade : Upgrade} {snapshot : TunnelSnapshot} : server.upgrade = some upgrade →
      upgrade.client = client → snapshot ∈ upgrade.remaining → snapshot.key = key →
      WillArrive server client key upgrade.moment
  /-- A worker has been registered, and its first snapshot is about to be published. -/
  | initial {call : ControlCall} {worker : WorkerPtr} :
      server.runtime_.callers requestThread = .running call (.announce worker) → call.key = key →
      client ∈ server.clients_ → WillArrive server client key server.moment

/-- The client follows every registered worker, as long as it is served. -/
structure Tracks (server : LocalControlServer) (client : ClientId) : Prop where
  whole : ∀ delivery ∈ server.written client, delivery.cut = none
  follows : ∀ key worker, server.runtime_.workers_[key]? = some worker →
    Followed (server.runtime_.heap worker).snapshot.state (server.MayArrive client key)
      (server.WillArrive client key) (server.delivered client key)

private theorem moment_of_mayArrive (stamped : Stamped server) {announcement : Announcement TunnelState}
    (may : server.MayArrive client key announcement) : announcement.moment < server.moment := by
  cases may with
  | @broadcast publisher broadcast _ here _ tells =>
      obtain ⟨snapshot, -, -, rfl⟩ := ControlEvent.announced?_eq_some_iff.mp tells
      exact stamped.broadcast publisher broadcast here
  | metrics here => exact stamped.metrics _ _ here
  | upgrade here => exact stamped.upgrade _ here

/-- After a step a broadcast is still going to be sent to the client. -/
def Forwarded (next : LocalControlServer) (client : ClientId) (publisher : Publisher)
    (broadcast : Broadcast) : Prop :=
  ∃ forwarded, next.broadcasts publisher = some forwarded ∧ forwarded.event = broadcast.event ∧
    forwarded.moment = broadcast.moment ∧ next.Addressed client forwarded

private theorem Forwarded.willArrive {publisher : Publisher} {broadcast : Broadcast}
    {announcement : Announcement TunnelState} (forwarded : next.Forwarded client publisher broadcast)
    (tells : broadcast.event.announced? key broadcast.moment = some announcement) :
    ∃ later, next.WillArrive client key later ∧ broadcast.moment ≤ later := by
  obtain ⟨under, there, event, moment, reaches⟩ := forwarded
  rw [← event, ← moment] at tells
  exact ⟨_, .broadcast there reaches tells, Nat.le_of_eq moment.symm⟩

private theorem foldl_eventFromWire (deliveries : List Delivery) (key : Text) :
    (((deliveries.map (·.event)).foldl eventFromWire fun _ => none) key).map (·.state) =
      latest (deliveries.filterMap fun delivery => delivery.event.announced? key delivery.moment) := by
  induction deliveries using List.reverseRecOn with
  | nil => rfl
  | append_singleton deliveries delivery ih =>
      rw [List.map_append, List.foldl_append, List.filterMap_append]
      simp only [List.map_cons, List.map_nil, List.foldl_cons, List.foldl_nil, List.filterMap_cons,
        List.filterMap_nil]
      cases carries : delivery.event.snapshot with
      | none =>
          have told : delivery.event.announced? key delivery.moment = none := by
            simp [ControlEvent.announced?, carries]
          simpa [eventFromWire, carries, told] using ih
      | some snapshot =>
          by_cases same : snapshot.key = key
          · have told : delivery.event.announced? key delivery.moment =
                some ⟨delivery.moment, snapshot.state⟩ := by
              simp [ControlEvent.announced?, carries, same]
            simp [eventFromWire, carries, told, same]
          · have told : delivery.event.announced? key delivery.moment = none := by
              simp [ControlEvent.announced?, carries, same]
            simpa [eventFromWire, carries, told, Ne.symm same] using ih

private theorem view_state (whole : ∀ delivery ∈ server.written client, delivery.cut = none) (key : Text) :
    (server.view client key).map (·.state) = latest (server.delivered client key) := by
  unfold view received delivered
  have all : (server.written client).takeWhile (·.cut.isNone) = server.written client := by
    rw [List.takeWhile_eq_self_iff]
    intro delivery inside
    rw [whole delivery inside]
    rfl
  rw [all]
  exact foldl_eventFromWire _ key

theorem Settled.served (settled : server.Settled) (here : client ∈ server.clients_) :
    server.Served client := by
  refine .inl ⟨here, fun publisher broadcast under => ?_⟩
  rw [settled.1 publisher] at under
  cases under

/-- In a settled state a client that follows the workers agrees with the runtime. -/
theorem Tracks.agrees (tracks : Tracks server client) (sound : Sound server)
    (settled : server.Settled) (here : client ∈ server.clients_) : server.Agrees client := by
  intro snapshot inside
  obtain ⟨key, worker, present, rfl⟩ := (ManagedTunnelRuntime.mem_snapshots_iff snapshot).mp inside
  rw [ManagedTunnelRuntime.key_of_registered sound.runtime.sound present, view_state tracks.whole]
  refine (tracks.follows key worker present).settled fun moment will => ?_
  cases will with
  | broadcast under =>
      rw [settled.1] at under
      cases under
  | upgrade under same =>
      exact sound.numbered.clients client (.inr ⟨_, under, same⟩) here
  | initial announcing => exact settled.2 _ _ announcing

/-! ## What a step must not do -/

/-- A send to the client does not overtake: nothing it has been sent about the same
runtime was taken later and shows another state. -/
def inOrder (client : ClientId) (server : LocalControlServer) : ServerLabel → Bool
  | .send publisher _ =>
      match server.broadcasts publisher with
      | some broadcast =>
          broadcast.clients.bind List.head? ≠ some client ||
            (server.written client).all fun delivery =>
              delivery.event.runtime? ≠ broadcast.event.runtime? ||
                delivery.moment ≤ broadcast.moment ||
                delivery.event.state? = broadcast.event.state?
      | none => true
  | _ => true

/-- While the client is being upgraded, no broadcast of a change made after its
snapshots were taken copies `clients_`. -/
def gapless (client : ClientId) (server : LocalControlServer) : ServerLabel → Bool
  | .copyClients publisher =>
      match server.broadcasts publisher, server.upgrade with
      | some broadcast, some upgrade =>
          upgrade.client ≠ client || broadcast.moment ≤ upgrade.moment
      | _, _ => true
  | _ => true

/-! ## What a step does to the announcements -/

/-- A client that is served has been served so far, unless it is just connecting. -/
theorem served_of_performed (performed : Performed server label next)
    (served : next.Served client) :
    server.Served client ∨ (label = .upgrade ∧ client = server.connections) := by
  cases performed with
  | quiet | checked | collected | skipped | collectedAll => exact .inl served
  | advance free | worker other free =>
      refine .inl ?_
      rcases served with ⟨here, intact⟩ | ⟨upgrade, upgrading, same⟩
      · rw [publish_clients_] at here
        refine .inl ⟨here, fun publisher broadcast under => ?_⟩
        exact intact publisher broadcast (publish_kept free under)
      · rw [publish_upgrade] at upgrading
        exact .inr ⟨upgrade, upgrading, same⟩
  | @copied publisher broadcast here uncopied =>
      refine .inl (served.imp_left fun connected => ⟨connected.1, fun other under there => ?_⟩)
      rcases eq_or_ne other publisher with rfl | ne
      · cases here.symm.trans there
        have intact := connected.2 other _ (setBroadcast_self _ _ _)
        exact intact
      · exact connected.2 other under ((setBroadcast_of_ne _ _ ne).trans there)
  | @sent publisher broadcast head rest cut here copied =>
      refine .inl (served.imp_left fun connected => ⟨connected.1, fun other under there => ?_⟩)
      rcases eq_or_ne other publisher with rfl | ne
      · cases here.symm.trans there
        have intact := connected.2 other _ (setBroadcast_self _ _ _)
        intro failed
        apply intact
        dsimp only
        split
        · exact List.mem_append_left _ failed
        · exact failed
      · exact connected.2 other under ((setBroadcast_of_ne _ _ ne).trans there)
  | @finished publisher broadcast runtime here sentAll left =>
      refine .inl (served.imp_left fun connected => ?_)
      obtain ⟨inside, kept⟩ := List.mem_filter.mp connected.1
      refine ⟨inside, fun other under there => ?_⟩
      rcases eq_or_ne other publisher with rfl | ne
      · cases here.symm.trans there
        simpa using kept
      · exact connected.2 other under ((setBroadcast_of_ne _ _ ne).trans there)
  | metric there free =>
      refine .inl (served.imp_left fun connected => ⟨connected.1, fun other under here => ?_⟩)
      exact connected.2 other under (setBroadcast_kept free here)
  | upgrade idle =>
      rcases served with connected | ⟨upgrade, upgrading, same⟩
      · exact .inl (.inl connected)
      · cases upgrading
        exact .inr ⟨rfl, same.symm⟩
  | snapshotSent there =>
      refine .inl (served.imp_right fun upgrading => ?_)
      obtain ⟨upgrade, here, same⟩ := upgrading
      cases here
      exact ⟨_, there, same⟩
  | dropped there =>
      rcases served with connected | ⟨upgrade, upgrading, -⟩
      · exact .inl (.inl connected)
      · cases upgrading
  | @registered upgrade there =>
      rcases served with ⟨inside, intact⟩ | ⟨under, upgrading, -⟩
      · rcases List.mem_append.mp inside with old | new
        · exact .inl (.inl ⟨old, intact⟩)
        · exact .inl (.inr ⟨upgrade, there, (List.mem_singleton.mp new).symm⟩)
      · cases upgrading

/-- What is going to be sent to a client is sent, or still going to be. -/
theorem forwarded_of_performed (sound : Sound server) (performed : Performed server label next)
    (noGap : gapless client server label = true) (served : next.Served client)
    {publisher : Publisher} {broadcast : Broadcast}
    (here : server.broadcasts publisher = some broadcast)
    (reaches : server.Addressed client broadcast) :
    next.Forwarded client publisher broadcast ∨ ∃ cut rest, label = .send publisher cut ∧
      broadcast.clients = some (client :: rest) := by
  cases performed with
  | quiet | checked | collected | skipped | collectedAll => exact .inl ⟨_, here, rfl, rfl, reaches⟩
  | advance free | worker other free =>
      refine .inl ⟨broadcast, publish_kept free here, rfl, rfl, ?_⟩
      unfold Addressed at reaches ⊢
      rw [publish_clients_, publish_upgrade]
      exact reaches
  | @copied other under there uncopied =>
      rcases eq_or_ne publisher other with rfl | ne
      · cases here.symm.trans there
        refine .inl ⟨_, setBroadcast_self _ _ _, rfl, rfl, ?_⟩
        rw [Addressed, uncopied] at reaches
        rcases reaches with connected | ⟨upgrade, upgrading, same, before⟩
        · exact connected
        · have inTime : upgrade.client ≠ client ∨ broadcast.moment ≤ upgrade.moment := by
            simpa [gapless, here, upgrading] using noGap
          rcases inTime with other | late
          · exact absurd same other
          · exact absurd before (Nat.not_lt.mpr late)
      · exact .inl ⟨_, (setBroadcast_of_ne _ _ ne).trans here, rfl, rfl, reaches⟩
  | @sent other under head rest cut there copied =>
      rcases eq_or_ne publisher other with rfl | ne
      · cases here.symm.trans there
        have listed : client ∈ head :: rest := by
          rw [Addressed, copied] at reaches
          exact reaches
        rcases List.mem_cons.mp listed with rfl | later
        · exact .inr ⟨cut, rest, rfl, copied⟩
        · exact .inl ⟨_, setBroadcast_self _ _ _, rfl, rfl, later⟩
      · exact .inl ⟨_, (setBroadcast_of_ne _ _ ne).trans here, rfl, rfl, reaches⟩
  | @finished other under runtime there sentAll left =>
      rcases eq_or_ne publisher other with rfl | ne
      · cases here.symm.trans there
        rw [Addressed, sentAll] at reaches
        cases reaches
      · refine .inl ⟨_, (setBroadcast_of_ne _ _ ne).trans here, rfl, rfl, ?_⟩
        unfold Addressed at reaches ⊢
        split at reaches
        · exact reaches
        · refine reaches.imp_left fun connected => ?_
          rcases served with ⟨kept, -⟩ | ⟨upgrade, upgrading, same⟩
          · exact kept
          · exact absurd connected (sound.numbered.clients client (.inr ⟨upgrade, upgrading, same⟩))
  | metric there free => exact .inl ⟨_, setBroadcast_kept free here, rfl, rfl, reaches⟩
  | upgrade idle =>
      refine .inl ⟨_, here, rfl, rfl, ?_⟩
      unfold Addressed at reaches ⊢
      split at reaches
      · exact reaches
      · refine reaches.imp_right fun upgrading => ?_
        obtain ⟨upgrade, upgrading, -⟩ := upgrading
        simp [requestIdle, upgrading] at idle
  | snapshotSent there =>
      refine .inl ⟨_, here, rfl, rfl, ?_⟩
      unfold Addressed at reaches ⊢
      split at reaches
      · exact reaches
      · refine reaches.imp_right fun upgrading => ?_
        obtain ⟨upgrade, upgrading, same, before⟩ := upgrading
        cases there.symm.trans upgrading
        exact ⟨_, rfl, same, before⟩
  | dropped there =>
      refine .inl ⟨_, here, rfl, rfl, ?_⟩
      unfold Addressed at reaches ⊢
      split at reaches
      · exact reaches
      · rcases served with ⟨connected, -⟩ | ⟨upgrade, upgrading, -⟩
        · exact .inl connected
        · cases upgrading
  | @registered upgrade there complete =>
      refine .inl ⟨_, here, rfl, rfl, ?_⟩
      unfold Addressed at reaches ⊢
      split at reaches
      · exact reaches
      · refine .inl ?_
        rcases reaches with connected | ⟨under, upgrading, same, -⟩
        · exact List.mem_append_left _ connected
        · cases there.symm.trans upgrading
          exact List.mem_append_right _ (List.mem_singleton.mpr same.symm)

section Arrivals

variable {base : LocalControlServer} {publisher : Publisher} {announcement : Announcement TunnelState}

private theorem MayArrive.of_same (arrives : next.MayArrive client key announcement)
    (broadcasts : next.broadcasts = server.broadcasts) (metrics : next.metrics = server.metrics)
    (upgrade : next.upgrade = server.upgrade) : server.MayArrive client key announcement := by
  cases arrives with
  | broadcast here reaches tells => exact .broadcast (broadcasts ▸ here) reaches tells
  | metrics here inside same => exact .metrics (metrics ▸ here) inside same
  | upgrade here own inside same => exact .upgrade (upgrade ▸ here) own inside same

/-- Where one broadcast is set, it tells what arrives, or the rest of the server does. -/
theorem MayArrive.setBroadcast {set : Option Broadcast}
    (arrives : (base.setBroadcast publisher set).MayArrive client key announcement) :
    base.MayArrive client key announcement ∨ ∃ broadcast, set = some broadcast ∧
      (∀ clients, broadcast.clients = some clients → client ∈ clients) ∧
      broadcast.event.announced? key broadcast.moment = some announcement := by
  cases arrives with
  | broadcast here reaches tells =>
      rcases broadcasts_setBroadcast here with ⟨-, set⟩ | ⟨-, old⟩
      · exact .inr ⟨_, set, reaches, tells⟩
      · exact .inl (.broadcast old reaches tells)
  | metrics here inside same => exact .inl (.metrics here inside same)
  | upgrade here own inside same => exact .inl (.upgrade here own inside same)

theorem MayArrive.nextMetric {snapshot : TunnelSnapshot} {rest : List TunnelSnapshot} {moment : Nat}
    (there : server.metrics = .publishing (snapshot :: rest) moment)
    (arrives : MayArrive { server with metrics := .publishing rest moment } client key announcement) :
    server.MayArrive client key announcement := by
  cases arrives with
  | broadcast here reaches tells => exact .broadcast here reaches tells
  | metrics here inside same =>
      cases here
      exact .metrics there (List.mem_cons_of_mem _ inside) same
  | upgrade here own inside same => exact .upgrade here own inside same

theorem MayArrive.sendSnapshot {upgrade : Upgrade} {snapshot : TunnelSnapshot}
    {rest : List TunnelSnapshot} {delivery : Delivery} (there : server.upgrade = some upgrade)
    (queue : upgrade.remaining = snapshot :: rest)
    (arrives : MayArrive { server.write upgrade.client delivery with
      upgrade := some { upgrade with remaining := rest } } client key announcement) :
    server.MayArrive client key announcement := by
  cases arrives with
  | broadcast here reaches tells => exact .broadcast here reaches tells
  | metrics here inside same => exact .metrics here inside same
  | @upgrade _ told here own inside same =>
      cases here
      have listed : told ∈ upgrade.remaining := queue ▸ List.mem_cons_of_mem _ inside
      exact @MayArrive.upgrade server client key upgrade told there own listed same

/-- Where the runtime publishes nothing, what may arrive could arrive before or is a
snapshot of the present. -/
theorem arrives_of_performed (performed : Performed server label next)
    (silent : label.publishes = false) (arrives : next.MayArrive client key announcement) :
    server.MayArrive client key announcement ∨ ∃ snapshot ∈ server.runtime_.snapshots,
      snapshot.key = key ∧ announcement.value = snapshot.state := by
  cases performed with
  | advance | worker => cases silent
  | quiet => exact .inl (arrives.of_same rfl rfl rfl)
  | copied there uncopied =>
      rcases arrives.setBroadcast with old | ⟨_, set, -, tells⟩
      · exact .inl old
      · cases set
        exact .inl (.broadcast there (by simp [uncopied]) tells)
  | @sent publisher broadcast head rest cut there copied =>
      rcases arrives.setBroadcast with old | ⟨_, set, reaches, tells⟩
      · exact .inl (old.of_same rfl rfl rfl)
      · cases set
        refine .inl (.broadcast there ?_ tells)
        intro clients same
        cases copied.symm.trans same
        exact List.mem_cons_of_mem _ (reaches rest rfl)
  | finished =>
      rcases arrives.setBroadcast with old | ⟨_, set, -⟩
      · exact .inl (old.of_same rfl rfl rfl)
      · cases set
  | checked notPublishing =>
      cases arrives with
      | broadcast here reaches tells => exact .inl (.broadcast here reaches tells)
      | metrics here => exact absurd here (notPublishing _ _)
      | upgrade here own inside same => exact .inl (.upgrade here own inside same)
  | collected =>
      cases arrives with
      | broadcast here reaches tells => exact .inl (.broadcast here reaches tells)
      | metrics here inside same =>
          cases here
          exact .inr ⟨_, inside, same, rfl⟩
      | upgrade here own inside same => exact .inl (.upgrade here own inside same)
  | metric there free =>
      rcases arrives.setBroadcast with old | ⟨_, set, -, tells⟩
      · exact .inl (old.nextMetric there)
      · cases set
        obtain ⟨told, carries, same, rfl⟩ := ControlEvent.announced?_eq_some_iff.mp tells
        cases carries
        exact .inl (.metrics there List.mem_cons_self same)
  | skipped there => exact .inl (arrives.nextMetric there)
  | collectedAll =>
      cases arrives with
      | broadcast here reaches tells => exact .inl (.broadcast here reaches tells)
      | metrics here => cases here
      | upgrade here own inside same => exact .inl (.upgrade here own inside same)
  | upgrade =>
      cases arrives with
      | broadcast here reaches tells => exact .inl (.broadcast here reaches tells)
      | metrics here inside same => exact .inl (.metrics here inside same)
      | upgrade here own inside same =>
          cases here
          exact .inr ⟨_, inside, same, rfl⟩
  | snapshotSent there queue => exact .inl (arrives.sendSnapshot there queue)
  | dropped | registered =>
      cases arrives with
      | broadcast here reaches tells => exact .inl (.broadcast here reaches tells)
      | metrics here inside same => exact .inl (.metrics here inside same)
      | upgrade here => cases here

end Arrivals

/-- Where the runtime publishes nothing, registry, states and announcements stay. -/
theorem still_of_performed (performed : Performed server label next)
    (silent : label.publishes = false) :
    next.runtime_.workers_ = server.runtime_.workers_ ∧
      (∀ worker, (next.runtime_.heap worker).snapshot.state =
        (server.runtime_.heap worker).snapshot.state) ∧
      ∀ call worker, server.runtime_.callers requestThread = .running call (.announce worker) →
        next.runtime_.callers requestThread = .running call (.announce worker) := by
  cases performed with
  | advance | worker => cases silent
  | quiet is stepped =>
      obtain ⟨registry, heap, stays⟩ := ManagedTunnelRuntime.quiet_frame is stepped
      exact ⟨registry, fun worker => by rw [heap], stays⟩
  | @finished publisher broadcast runtime here sentAll left =>
      have same : ∀ worker, (runtime.heap worker).snapshot = (server.runtime_.heap worker).snapshot →
          (runtime.heap worker).snapshot.state = (server.runtime_.heap worker).snapshot.state :=
        fun worker snapshots => by rw [snapshots]
      cases publisher with
      | metrics =>
          cases left
          exact ⟨rfl, fun _ => rfl, fun _ _ announcing => announcing⟩
      | worker moving =>
          simp only [leaveBroadcast] at left
          obtain ⟨registry, snapshots, stays⟩ := ManagedTunnelRuntime.leave_frame left
            (.inl ⟨moving, rfl⟩)
          exact ⟨registry, fun worker => same worker (snapshots worker), stays⟩
      | request =>
          simp only [leaveBroadcast] at left
          split at left
          · next publishing =>
              obtain ⟨registry, snapshots, stays⟩ := ManagedTunnelRuntime.leave_frame left
                (.inr ⟨rfl, publishing⟩)
              exact ⟨registry, fun worker => same worker (snapshots worker), stays⟩
          · cases left
  | copied | sent | checked | collected | metric | skipped | collectedAll | upgrade | snapshotSent
  | dropped | registered => exact ⟨rfl, fun _ => rfl, fun _ _ announcing => announcing⟩

/-- A snapshot that is queued for a client being upgraded is sent or stays queued. -/
theorem queued_of_performed (sound : Sound server) (performed : Performed server label next)
    (served : next.Served client) {upgrade : Upgrade} (there : server.upgrade = some upgrade)
    (own : upgrade.client = client) {snapshot : TunnelSnapshot}
    (queued : snapshot ∈ upgrade.remaining) :
    (∃ after, next.upgrade = some after ∧ after.client = client ∧
        after.moment = upgrade.moment ∧ snapshot ∈ after.remaining) ∨
      ∃ rest, label = .sendSnapshot none ∧ upgrade.remaining = snapshot :: rest := by
  cases performed with
  | quiet | copied | sent | finished | checked | collected | metric | skipped | collectedAll =>
      exact .inl ⟨upgrade, there, own, rfl, queued⟩
  | advance | worker =>
      refine .inl ⟨upgrade, ?_, own, rfl, queued⟩
      rw [publish_upgrade]
      exact there
  | upgrade idle => simp [requestIdle, there] at idle
  | @snapshotSent _ first rest _ here queue =>
      cases there.symm.trans here
      rw [queue] at queued
      rcases List.mem_cons.mp queued with rfl | later
      · exact .inr ⟨rest, rfl, queue⟩
      · exact .inl ⟨_, rfl, own, rfl, later⟩
  | dropped here =>
      rcases served with ⟨connected, -⟩ | ⟨under, upgrading, -⟩
      · exact absurd connected (sound.numbered.clients client (.inr ⟨upgrade, there, own⟩))
      · cases upgrading
  | registered here complete =>
      cases there.symm.trans here
      rw [complete] at queued
      cases queued

/-! ## One step -/

/-- What is sure to arrive is sent to the client, or still sure to arrive. -/
theorem willArrive_of_performed (sound : Sound server) (performed : Performed server label next)
    (silent : label.publishes = false) (noGap : gapless client server label = true)
    (served : next.Served client) {moment : Nat} (sure : server.WillArrive client key moment) :
    (∃ later, WillArrive { next with moment := server.moment + 1 } client key later ∧
        moment ≤ later) ∨
      (∃ publisher cut broadcast rest, label = .send publisher cut ∧
        server.broadcasts publisher = some broadcast ∧ broadcast.clients = some (client :: rest) ∧
        broadcast.moment = moment ∧ broadcast.event.runtime? = some key) ∨
      ∃ upgrade snapshot rest, label = .sendSnapshot none ∧ server.upgrade = some upgrade ∧
        upgrade.client = client ∧ upgrade.remaining = snapshot :: rest ∧
        upgrade.moment = moment ∧ snapshot.key = key := by
  cases sure with
  | broadcast here reaches tells =>
      rcases forwarded_of_performed sound performed noGap served here reaches with
        forwarded | ⟨cut, rest, send, copied⟩
      · have kept : Forwarded { next with moment := server.moment + 1 } client _ _ := forwarded
        exact .inl (kept.willArrive tells)
      · obtain ⟨snapshot, carries, same, -⟩ := ControlEvent.announced?_eq_some_iff.mp tells
        refine .inr (.inl ⟨_, cut, _, rest, send, here, copied, rfl, ?_⟩)
        simp [ControlEvent.runtime?, carries, same]
  | upgrade there own inside same =>
      rcases queued_of_performed sound performed served there own inside with
        ⟨after, upgrading, still, moment, queued⟩ | ⟨rest, send, queue⟩
      · rw [← moment]
        exact .inl ⟨_, .upgrade upgrading still queued same, Nat.le_refl _⟩
      · exact .inr (.inr ⟨_, _, rest, send, there, own, queue, rfl, same⟩)
  | initial announcing same connected =>
      obtain ⟨-, -, stays⟩ := still_of_performed performed silent
      have kept : client ∈ next.clients_ := by
        rcases served with ⟨kept, -⟩ | ⟨upgrade, upgrading, own⟩
        · exact kept
        · have later := sound.numbered.step performed
          exact absurd (stays _ _ announcing) (later.exclusive upgrade _ _ upgrading)
      exact .inl ⟨_, .initial (stays _ _ announcing) same kept, Nat.le_succ _⟩

/-- Steps in which the runtime publishes nothing and the client is sent nothing. -/
theorem tracks_silent (sound : Sound server) (tracks : Tracks server client)
    (performed : Performed server label next) (silent : label.publishes = false)
    (noGap : gapless client server label = true) (served : next.Served client)
    (written : next.written client = server.written client) :
    Tracks { next with moment := server.moment + 1 } client where
  whole := by
    dsimp only
    rw [written]
    exact tracks.whole
  follows := by
    intro key worker present
    obtain ⟨registry, states, -⟩ := still_of_performed performed silent
    dsimp only at present ⊢
    rw [registry] at present
    have sent : delivered { next with moment := server.moment + 1 } client key =
        server.delivered client key := by
      unfold delivered
      rw [written]
    rw [sent, states]
    refine (tracks.follows key worker present).mono (fun announcement here => ?_) fun moment sure => ?_
    · have arrives : next.MayArrive client key announcement := here.of_same rfl rfl rfl
      rcases arrives_of_performed performed silent arrives with old | ⟨snapshot, inside, same, value⟩
      · exact .inl old
      · refine .inr (value.trans ?_)
        refine ManagedTunnelRuntime.state_of_mem_snapshots sound.runtime.sound inside ?_
        rw [same]
        exact present
    · rcases willArrive_of_performed sound performed silent noGap served sure with
        later | ⟨publisher, cut, broadcast, rest, rfl, here, copied, -⟩ |
        ⟨upgrade, snapshot, rest, rfl, there, own, -⟩
      · exact later
      · cases performed with
        | quiet is => cases is
        | sent there copies =>
            cases here.symm.trans there
            cases copied.symm.trans copies
            have grown : (server.write client _).written client = server.written client := written
            simp at grown
      · cases performed with
        | quiet is => cases is
        | snapshotSent here =>
            cases there.symm.trans here
            subst own
            have grown : (server.write upgrade.client _).written upgrade.client =
              server.written upgrade.client := written
            simp at grown

private theorem tracks_received (tracks : Tracks server client) {delivery : Delivery}
    (written : next.written client = server.written client ++ [delivery])
    (uncut : delivery.cut = none) (runtime : next.runtime_ = server.runtime_)
    (ordered : ∀ before ∈ server.written client,
      before.event.runtime? = delivery.event.runtime? →
      before.moment ≤ delivery.moment ∨ before.event.state? = delivery.event.state?)
    (here : ∀ key announcement, delivery.event.announced? key delivery.moment = some announcement →
      server.MayArrive client key announcement)
    (may : ∀ key announcement, next.MayArrive client key announcement →
      server.MayArrive client key announcement)
    (will : ∀ key moment, server.WillArrive client key moment →
      (∃ later, next.WillArrive client key later ∧ moment ≤ later) ∨
        (moment = delivery.moment ∧ delivery.event.runtime? = some key)) :
    Tracks next client where
  whole := by
    intro other inside
    rw [written] at inside
    rcases List.mem_append.mp inside with old | new
    · exact tracks.whole other old
    · rw [List.mem_singleton.mp new]
      exact uncut
  follows := by
    intro key worker present
    rw [runtime] at present ⊢
    have followed := tracks.follows key worker present
    have sent : next.delivered client key = server.delivered client key ++
        (delivery.event.announced? key delivery.moment).toList := by
      unfold delivered
      rw [written, List.filterMap_append]
      cases told : delivery.event.announced? key delivery.moment <;> simp [told]
    rw [sent]
    cases told : delivery.event.announced? key delivery.moment with
    | none =>
        rw [Option.toList_none, List.append_nil]
        refine followed.mono (fun announcement there => .inl (may key announcement there)) ?_
        intro moment sure
        rcases will key moment sure with later | ⟨-, about⟩
        · exact later
        · obtain ⟨snapshot, carries, same⟩ := Option.map_eq_some_iff.mp about
          have tells := ControlEvent.announced?_eq_some_iff.mpr
            ⟨snapshot, carries, same, Eq.refl (⟨delivery.moment, snapshot.state⟩ : Announcement _)⟩
          rw [told] at tells
          cases tells
    | some arriving =>
        rw [Option.toList_some]
        obtain ⟨snapshot, carries, same, stamp⟩ := ControlEvent.announced?_eq_some_iff.mp told
        refine followed.deliver (here key arriving told) ?_ (may key) ?_
        · intro announcement inside
          obtain ⟨before, sent, tells⟩ := List.mem_filterMap.mp inside
          obtain ⟨older, carried, about, rfl⟩ := ControlEvent.announced?_eq_some_iff.mp tells
          subst stamp
          have runtimes : before.event.runtime? = delivery.event.runtime? := by
            simp [ControlEvent.runtime?, carries, carried, same, about]
          rcases ordered before sent runtimes with earlier | states
          · exact .inl earlier
          · refine .inr ?_
            simpa [ControlEvent.state?, carries, carried] using states
        · intro moment sure
          subst stamp
          rcases will key moment sure with later | ⟨rfl, -⟩
          · exact .inl later
          · exact .inr (Nat.le_refl _)

/-- The runtime moves on, and what becomes of the worker under each key is published. -/
theorem Tracks.publish (tracks : Tracks server client) (sound : Sound server)
    (served : server.Served client) {runtime : ManagedTunnelRuntime} {publisher : Publisher}
    {notice? : Option Notice} (free : server.broadcasts publisher = none)
    (exclusive : ∀ upgrade call point, server.upgrade = some upgrade →
      runtime.callers requestThread ≠ .running call point)
    (steps : ∀ (key : Text) (worker : WorkerPtr), runtime.workers_[key]? = some worker →
      ManagedTunnelRuntime.KeyStep requestThread server.runtime_ runtime notice? key worker) :
    Tracks { server.publish runtime publisher notice? with moment := server.moment + 1 } client := by
  have may : ∀ key announcement,
      MayArrive { server.publish runtime publisher notice? with moment := server.moment + 1 }
        client key announcement →
      server.MayArrive client key announcement ∨ ∃ notice, notice? = some notice ∧
        notice.snapshot.key = key ∧ announcement.value = notice.snapshot.state := by
    intro key announcement arrives
    cases arrives with
    | broadcast here reaches tells =>
        rcases broadcasts_publish here with ⟨-, notice, published, rfl⟩ | old
        · obtain ⟨snapshot, carries, same, rfl⟩ := ControlEvent.announced?_eq_some_iff.mp tells
          cases carries
          exact .inr ⟨notice, published, same, rfl⟩
        · exact .inl (.broadcast old reaches tells)
    | metrics here inside same =>
        rw [publish_metrics] at here
        exact .inl (.metrics here inside same)
    | upgrade here same inside about =>
        rw [publish_upgrade] at here
        exact .inl (.upgrade here same inside about)
  have addressed : ∀ key notice, notice? = some notice → notice.snapshot.key = key →
      WillArrive { server.publish runtime publisher notice? with moment := server.moment + 1 }
        client key server.moment := by
    intro key notice published same
    subst published
    let broadcast : Broadcast := { event := notice.event runtime.clock, moment := server.moment }
    have put : ({ server.publish runtime publisher (some notice) with moment := server.moment + 1 } :
        LocalControlServer).broadcasts publisher = some broadcast := setBroadcast_self _ _ _
    refine @WillArrive.broadcast _ client key publisher broadcast
      ⟨server.moment, notice.snapshot.state⟩ put ?_ ?_
    · rcases served with ⟨here, -⟩ | ⟨upgrade, here, same⟩
      · exact .inl here
      · exact .inr ⟨upgrade, here, same, sound.stamped.upgrade upgrade here⟩
    · exact ControlEvent.announced?_eq_some_iff.mpr ⟨notice.snapshot, rfl, same, rfl⟩
  have stillConnected : client ∈ server.clients_ →
      client ∈ (server.publish runtime publisher notice?).clients_ := by
    rw [publish_clients_]
    exact id
  refine { whole := ?_, follows := ?_ }
  · rw [publish_written]
    exact tracks.whole
  · intro key worker present
    rw [publish_runtime_] at present ⊢
    have sent : delivered { server.publish runtime publisher notice? with
        moment := server.moment + 1 } client key = server.delivered client key := by
      unfold delivered
      rw [publish_written]
    rw [sent]
    cases steps key worker present with
    | same before still tells announces =>
        rw [still] at tells ⊢
        refine (tracks.follows key worker before).mono ?_ ?_
        · intro announcement arrives
          rcases may key announcement arrives with old | ⟨notice, published, about, value⟩
          · exact .inl old
          · exact .inr (value.trans (tells notice published about))
        · intro moment sure
          cases sure with
          | broadcast here reaches told =>
              refine ⟨_, .broadcast (publish_kept free here) ?_ told, Nat.le_refl _⟩
              unfold Addressed at reaches ⊢
              rw [publish_clients_, publish_upgrade]
              exact reaches
          | upgrade here same inside about =>
              refine ⟨_, .upgrade ?_ same inside about, Nat.le_refl _⟩
              rw [publish_upgrade]
              exact here
          | initial announcing same connected =>
              rcases announces _ _ announcing same with still | ⟨notice, published, about⟩
              · rw [← @publish_runtime_ server runtime publisher notice?] at still
                exact ⟨_, .initial still same (stillConnected connected), Nat.le_succ _⟩
              · exact ⟨_, addressed key notice published about, Nat.le_refl _⟩
    | @announced notice published about tells =>
        refine .changed ?_ ⟨_, addressed key notice published about, Nat.le_refl _⟩
        intro announcement arrives
        rcases may key announcement arrives with old | ⟨other, same, -, value⟩
        · exact .inl (moment_of_mayArrive sound.stamped old)
        · cases published.symm.trans same
          exact .inr (value.trans tells)
    | due silent announcing same =>
        have connected : client ∈ server.clients_ := by
          rcases served with ⟨here, -⟩ | ⟨upgrade, here, -⟩
          · exact here
          · exact absurd announcing (exclusive upgrade _ _ here)
        rw [← @publish_runtime_ server runtime publisher notice?] at announcing
        refine @Followed.changed _ _ _ _ _ server.moment ?_
          ⟨_, .initial announcing same (stillConnected connected), Nat.le_succ _⟩
        intro announcement arrives
        rcases may key announcement arrives with old | ⟨other, published, -⟩
        · exact .inl (moment_of_mayArrive sound.stamped old)
        · rw [silent] at published
          cases published

private theorem tracks_sent (sound : Sound server) (tracks : Tracks server client) {publisher : Publisher}
    {broadcast : Broadcast} {rest failed : List ClientId}
    (here : server.broadcasts publisher = some broadcast)
    (copied : broadcast.clients = some (client :: rest))
    (performed : Performed server (.send publisher none)
      ((server.write client ⟨broadcast.event, broadcast.moment, none⟩).setBroadcast publisher
        (some { broadcast with clients := some rest, failed := failed })))
    (served : Served ((server.write client ⟨broadcast.event, broadcast.moment, none⟩).setBroadcast
      publisher (some { broadcast with clients := some rest, failed := failed })) client)
    (ordered : inOrder client server (.send publisher none) = true) :
    Tracks { (server.write client ⟨broadcast.event, broadcast.moment, none⟩).setBroadcast publisher
        (some { broadcast with clients := some rest, failed := failed }) with
      moment := server.moment + 1 } client := by
  have addressed : ∀ clients, broadcast.clients = some clients → client ∈ clients := by
    intro clients same
    cases copied.symm.trans same
    exact List.mem_cons_self
  refine @tracks_received server _ client tracks ⟨broadcast.event, broadcast.moment, none⟩
    (write_self server client _) rfl rfl ?_ ?_ ?_ ?_
  · intro before inside about
    have each : ∀ delivery ∈ server.written client,
        (delivery.event.runtime? = broadcast.event.runtime? → broadcast.moment < delivery.moment →
          delivery.event.state? = broadcast.event.state?) := by
      simpa [inOrder, here, copied, or_iff_not_imp_left] using ordered
    rcases Nat.lt_or_ge broadcast.moment before.moment with late | early
    · exact .inr (each before inside about late)
    · exact .inl early
  · exact fun key announcement tells => .broadcast here addressed tells
  · intro key announcement arrives
    have arriving : ((server.write client ⟨broadcast.event, broadcast.moment, none⟩).setBroadcast
        publisher (some { broadcast with clients := some rest, failed := failed })).MayArrive client
        key announcement := arrives.of_same rfl rfl rfl
    rcases arriving.setBroadcast with old | ⟨_, set, -, tells⟩
    · exact old.of_same rfl rfl rfl
    · cases set
      exact .broadcast here addressed tells
  · intro key moment sure
    rcases willArrive_of_performed sound performed rfl rfl served sure with
      later | ⟨other, cut, under, rest, send, there, -, same, about⟩ | ⟨_, _, _, send, -⟩
    · exact .inl later
    · cases send
      cases here.symm.trans there
      exact .inr ⟨same.symm, about⟩
    · cases send

private theorem tracks_snapshotSent (sound : Sound server) (tracks : Tracks server client)
    {upgrade : Upgrade} {snapshot : TunnelSnapshot} {rest : List TunnelSnapshot}
    {event : ControlEvent} (there : server.upgrade = some upgrade) (own : upgrade.client = client)
    (queue : upgrade.remaining = snapshot :: rest) (carries : event.snapshot = some snapshot)
    (performed : Performed server (.sendSnapshot none)
      { server.write upgrade.client ⟨event, upgrade.moment, none⟩ with
        upgrade := some { upgrade with remaining := rest } })
    (served : Served { server.write upgrade.client ⟨event, upgrade.moment, none⟩ with
      upgrade := some { upgrade with remaining := rest } } client) :
    Tracks { server.write upgrade.client ⟨event, upgrade.moment, none⟩ with
      upgrade := some { upgrade with remaining := rest }
      moment := server.moment + 1 } client := by
  subst own
  refine @tracks_received server _ upgrade.client tracks ⟨event, upgrade.moment, none⟩
    (write_self server upgrade.client _) rfl rfl ?_ ?_ ?_ ?_
  · intro before inside _
    exact .inl ((sound.numbered.upgrading upgrade there).2 before inside)
  · intro key announcement tells
    obtain ⟨told, carried, same, rfl⟩ := ControlEvent.announced?_eq_some_iff.mp tells
    cases carries.symm.trans carried
    exact .upgrade there rfl (queue ▸ List.mem_cons_self) same
  · intro key announcement arrives
    have arriving : MayArrive { server.write upgrade.client ⟨event, upgrade.moment, none⟩ with
        upgrade := some { upgrade with remaining := rest } } upgrade.client key announcement :=
      arrives.of_same rfl rfl rfl
    exact arriving.sendSnapshot there queue
  · intro key moment sure
    rcases willArrive_of_performed sound performed rfl rfl served sure with
      later | ⟨_, _, _, _, send, -⟩ | ⟨under, first, tail, -, upgrading, -, listed, same, about⟩
    · exact .inl later
    · cases send
    · cases there.symm.trans upgrading
      cases queue.symm.trans listed
      exact .inr ⟨same.symm, by simp [ControlEvent.runtime?, carries, about]⟩

/-- A client that has just asked for the events: its snapshots are up to date. -/
theorem tracks_upgraded (sound : Sound server) :
    Tracks { server with
      upgrade := some ⟨server.connections, server.runtime_.snapshots, server.moment⟩
      connections := server.connections + 1
      moment := server.moment + 1 } server.connections where
  whole := by
    dsimp only
    rw [sound.numbered.unsent _ (Nat.le_refl _)]
    simp
  follows := by
    intro key worker present
    have good := sound.runtime.sound
    have keyed := ManagedTunnelRuntime.key_of_registered good present
    refine @Followed.changed _ _ _ _ _ server.moment ?_ ⟨_, .upgrade rfl rfl ?_ keyed, Nat.le_refl _⟩
    · intro announcement arrives
      cases arrives with
      | broadcast here reaches tells =>
          exact .inl (moment_of_mayArrive sound.stamped (.broadcast here reaches tells))
      | metrics here inside same =>
          exact .inl (@moment_of_mayArrive server server.connections key sound.stamped _
            (.metrics here inside same))
      | upgrade here same inside about =>
          cases here
          refine .inr (ManagedTunnelRuntime.state_of_mem_snapshots good inside ?_)
          rw [about]
          exact present
    · exact (ManagedTunnelRuntime.mem_snapshots_iff _).mpr ⟨key, worker, present, rfl⟩

/-- One step of anyone, in order and without a gap. -/
theorem tracks_step (sound : Sound server) (tracks : server.Served client → Tracks server client)
    (ordered : inOrder client server label = true) (noGap : gapless client server label = true)
    (stepped : server.step label = some next) (served : next.Served client) :
    Tracks next client := by
  obtain ⟨next, performed, rfl⟩ := performed_of_step stepped
  have before := served_of_performed performed served
  have kept : label ≠ .upgrade → Tracks server client := fun other =>
    tracks (before.resolve_right fun both => other both.1)
  have again := performed
  cases performed with
  | quiet is =>
      refine tracks_silent sound (kept ?_) again ?_ noGap served rfl
      · intro same
        subst same
        cases is
      · cases label <;> first | rfl | cases is
  | advance free moved =>
      have was := before.resolve_right (by simp)
      refine (tracks was).publish sound was free ?_ fun key worker present =>
        ManagedTunnelRuntime.keyStep_of_advance sound.runtime.sound sound.runtime.sole moved present
      intro upgrade call point here
      exact idle_of_step (sound.numbered.exclusive upgrade · · here) moved (by simp) call point
  | worker inside free moved =>
      have was := before.resolve_right (by simp)
      refine (tracks was).publish sound was free ?_ fun key worker present =>
        ManagedTunnelRuntime.keyStep_of_worker sound.runtime.sound sound.runtime.sole moved inside
          present
      intro upgrade call point here
      exact idle_of_step (sound.numbered.exclusive upgrade · · here) moved (by simp) call point
  | @sent publisher broadcast head rest cut here copied =>
      by_cases own : client = head
      · subst own
        cases cut with
        | none => exact tracks_sent sound (kept (by simp)) here copied again served ordered
        | some bytes =>
            rcases served with ⟨-, intact⟩ | ⟨upgrade, upgrading, same⟩
            · have spared := intact publisher _ (setBroadcast_self _ _ _)
              simp at spared
            · have outside := sound.numbered.copied client (.inr ⟨upgrade, upgrading, same⟩)
                publisher broadcast _ here copied
              exact absurd List.mem_cons_self outside
      · exact tracks_silent sound (kept (by simp)) again rfl noGap served (write_of_ne server _ own)
  | copied | finished | checked | collected | metric | skipped | collectedAll | registered =>
      exact tracks_silent sound (kept (by simp)) again rfl noGap served rfl
  | upgrade idle =>
      rcases before with was | ⟨-, rfl⟩
      · exact tracks_silent sound (tracks was) again rfl noGap served rfl
      · exact tracks_upgraded sound
  | @snapshotSent upgrade snapshot rest event there queue carries =>
      by_cases own : upgrade.client = client
      · exact tracks_snapshotSent sound (kept (by simp)) there own queue carries again served
      · exact tracks_silent sound (kept (by simp)) again rfl noGap served
          (write_of_ne server _ (Ne.symm own))
  | @dropped upgrade event bytes there =>
      by_cases own : upgrade.client = client
      · rcases served with ⟨inside, -⟩ | ⟨under, upgrading, -⟩
        · exact absurd inside (sound.numbered.clients client (.inr ⟨upgrade, there, own⟩))
        · cases upgrading
      · exact tracks_silent sound (kept (by simp)) again rfl noGap served
          (write_of_ne server _ (Ne.symm own))

end LocalControlServer

end DatagramTunneler
