import DatagramTunneler.Control.FrameDecoding

/-! What the dashboard makes of the event stream: every frame is a message, a message
with a snapshot replaces the entry of its runtime, and the events that are no metrics
are listed, the newest first. From the bytes of the socket this gives the view that
the server's side speaks about. -/

set_option autoImplicit false

namespace DatagramTunneler

open Foundation

/-- A property of a parsed value; of several with one name the last one counts. -/
def property (value : JsonValue) (name : String) : Option JsonValue :=
  match value with
  | .object members => (members.reverse.find? (·.1 = ascii name)).map (·.2)
  | _ => none

def truthy : Option JsonValue → Bool
  | none | some .null => false
  | some (.boolean value) => value
  | some (.number value) => value ≠ 0
  | some (.string value) => !value.isEmpty
  | some (.array _) | some (.object _) => true

/-- A comparison with a string by `===`. -/
def isString (value : Option JsonValue) (expected : String) : Bool :=
  match value with
  | some (.string value) => value = ascii expected
  | _ => false

/-- The parts of `state` that the server tells the dashboard. -/
structure DashboardState where
  runtimes : Text → Option JsonValue := fun _ => none
  events : List JsonValue := []

namespace DashboardState

def addEvent (state : DashboardState) (event : JsonValue) : DashboardState :=
  { state with events := (event :: state.events).take 40 }

/-- The key that a snapshot is kept under. -/
def snapshotKey (snapshot : JsonValue) : Option Text :=
  match property snapshot "kind", property snapshot "alias" with
  | some (.string kind), some (.string alias_) => some (kind ++ ascii ":" ++ alias_)
  | _, _ => none

def keepSnapshot (state : DashboardState) (snapshot : JsonValue) : DashboardState :=
  match snapshotKey snapshot with
  | some key => { state with runtimes := Function.update state.runtimes key (some snapshot) }
  | none => state

def eventFromWire (state : DashboardState) (message : JsonValue) : DashboardState :=
  match property message "event" with
  | none => state
  | some event =>
      if !truthy (some event) then state
      else
        let kept := match property event "snapshot" with
          | some snapshot => if truthy (some snapshot) then state.keepSnapshot snapshot else state
          | none => state
        if !isString (property event "kind") "metrics" then kept.addEvent event else kept

/-- `socket.onmessage`; malformed telemetry is ignored. -/
def onmessage (state : DashboardState) (data : Text) : DashboardState :=
  match JsonReader.read data with
  | none => state
  | some message => state.eventFromWire message

/-- The bytes that have arrived on the socket, as the browser hands them over. -/
def receive (state : DashboardState) (bytes : List UInt8) : DashboardState :=
  (WebSocketFrame.readWhole bytes).foldl (fun state frame => state.onmessage frame.payload) state

end DashboardState

/-! ## One message -/

section

variable (rendering : NumberRendering)

/-- What the dashboard lists for an event. -/
def listedEvent (event : ControlEvent) : JsonValue :=
  .object ([(ascii "kind", .string (eventKindName event.kind)),
    (ascii "severity", .string (severityName event.severity)),
    (ascii "timestamp_unix_milliseconds", .number event.timestamp),
    (ascii "alias", .string event.alias_), (ascii "message", .string event.message)] ++
    event.snapshot.toList.map fun snapshot => (ascii "snapshot", snapshotValue rendering snapshot))

private theorem property_event (event : ControlEvent) :
    property (eventValue rendering event) "event" = some (listedEvent rendering event) := by
  rfl

private theorem property_snapshot (event : ControlEvent) : property (listedEvent rendering event) "snapshot" =
    event.snapshot.map (snapshotValue rendering) := by
  obtain ⟨kind, severity, timestamp, alias_, message, snapshot⟩ := event
  cases snapshot with
  | none => rfl
  | some snapshot => rfl

private theorem property_kind (event : ControlEvent) : property (listedEvent rendering event) "kind" =
    some (.string (eventKindName event.kind)) := by
  obtain ⟨kind, severity, timestamp, alias_, message, snapshot⟩ := event
  cases snapshot with
  | none => rfl
  | some snapshot => rfl

private theorem snapshotKey_value (snapshot : TunnelSnapshot) :
    DashboardState.snapshotKey (snapshotValue rendering snapshot) = some snapshot.key := by
  cases kind : snapshot.kind with
  | tunnel =>
      rw [TunnelSnapshot.key, kind]
      simp only [snapshotValue, kind]
      rfl
  | producer =>
      rw [TunnelSnapshot.key, kind]
      simp only [snapshotValue, kind]
      rfl

private theorem isString_metrics (kind : EventKind) :
    isString (some (.string (eventKindName kind))) "metrics" = decide (kind = .metrics) := by
  cases kind <;> decide

private theorem read_eventJson (event : ControlEvent) :
    JsonReader.read (eventJson rendering event) = some (eventValue rendering event) := by
  rw [← eventTree_text, JsonReader.read_tree, eventTree_value]

private theorem onmessage_eventJson (state : DashboardState) (event : ControlEvent) :
    state.onmessage (eventJson rendering event) = {
      runtimes := match event.snapshot with
        | some snapshot =>
            Function.update state.runtimes snapshot.key (some (snapshotValue rendering snapshot))
        | none => state.runtimes
      events := if event.kind = .metrics then state.events
        else (listedEvent rendering event :: state.events).take 40 } := by
  have present : truthy (some (listedEvent rendering event)) = true := rfl
  have held : ∀ snapshot, truthy (some (snapshotValue rendering snapshot)) = true := fun _ => rfl
  rw [DashboardState.onmessage, read_eventJson]
  simp only [DashboardState.eventFromWire, property_event, present, property_snapshot, property_kind,
    isString_metrics, Bool.not_true, Bool.false_eq_true, if_false]
  cases event.snapshot with
  | none => by_cases metrics : event.kind = .metrics <;> simp [metrics, DashboardState.addEvent]
  | some snapshot =>
      simp only [Option.map_some, held, if_true, DashboardState.keepSnapshot, snapshotKey_value]
      by_cases metrics : event.kind = .metrics <;> simp [metrics, DashboardState.addEvent]

/-- What the dashboard keeps of these events, in the order in which they arrive. -/
structure Shows (events : List ControlEvent) (state : DashboardState) : Prop where
  runtimes : ∀ key, state.runtimes key =
    (events.foldl eventFromWire (fun _ => none) key).map (snapshotValue rendering)
  events : state.events =
    ((events.filter (·.kind ≠ .metrics)).reverse.take 40).map (listedEvent rendering)

theorem Shows.onmessage {events : List ControlEvent} {state : DashboardState}
    (shows : Shows rendering events state) (event : ControlEvent) :
    Shows rendering (events ++ [event]) (state.onmessage (eventJson rendering event)) := by
  rw [onmessage_eventJson]
  constructor
  · intro key
    rw [List.foldl_append, List.foldl_cons, List.foldl_nil, eventFromWire]
    cases event.snapshot with
    | none => exact shows.runtimes key
    | some snapshot =>
        dsimp only
        by_cases same : key = snapshot.key
        · rw [same, Function.update_self, Function.update_self, Option.map_some]
        · rw [Function.update_of_ne same, Function.update_of_ne same]
          exact shows.runtimes key
  · rw [List.filter_append, List.reverse_append]
    by_cases metrics : event.kind = .metrics
    · have dropped : [event].filter (·.kind ≠ .metrics) = [] := by simp [metrics]
      rw [if_pos metrics, dropped]
      exact shows.events
    · have kept : [event].filter (·.kind ≠ .metrics) = [event] := by simp [metrics]
      rw [if_neg metrics, kept, List.reverse_singleton, List.singleton_append, List.take_succ_cons,
        List.take_succ_cons, List.map_cons, shows.events, ← List.map_take, List.take_take]
      rfl

theorem Shows.foldl {prior events : List ControlEvent} {state : DashboardState}
    (shows : Shows rendering prior state) : Shows rendering (prior ++ events)
      (events.foldl (fun state event => state.onmessage (eventJson rendering event)) state) := by
  induction events generalizing prior state with
  | nil =>
      rw [List.append_nil]
      exact shows
  | cons event events ih =>
      have layout : prior ++ event :: events = prior ++ [event] ++ events := by simp
      rw [List.foldl_cons, layout]
      exact ih (shows.onmessage rendering event)

/-! ## A whole stream -/

/-- The events whose frames a client has whole. -/
def arrived (deliveries : List Delivery) : List ControlEvent :=
  (deliveries.filter fun delivery => delivery.frame rendering = some (delivery.accepted rendering)).map (·.event)

variable {rendering}

private theorem length_of_frame {delivery : Delivery} {frame : Text}
    (built : delivery.frame rendering = some frame) : (eventJson rendering delivery.event).length ≤ 65535 := by
  unfold Delivery.frame webSocketFrame at built
  split_ifs at built with long
  · exact Nat.le_of_not_lt long
  · exact Nat.le_of_not_lt long

private theorem frame_eq_write {delivery : Delivery} {frame : Text} (built : delivery.frame rendering = some frame) :
    frame = WebSocketFrame.write 1 (eventJson rendering delivery.event) := by
  have written := webSocketFrame_eq_write (length_of_frame built)
  exact Option.some.inj (built.symm.trans written)

private theorem accepted_of_arrived {delivery : Delivery}
    (whole : delivery.frame rendering = some (delivery.accepted rendering)) :
    delivery.accepted rendering = WebSocketFrame.write 1 (eventJson rendering delivery.event) :=
  frame_eq_write whole

private theorem not_arrived_of_silent {delivery : Delivery} (silent : delivery.accepted rendering = []) :
    delivery.frame rendering ≠ some (delivery.accepted rendering) := by
  intro whole
  have written := accepted_of_arrived whole
  rw [silent] at written
  cases written

private theorem readFrame_of_truncated {delivery : Delivery} (truncated : delivery.Truncated rendering) :
    WebSocketFrame.readFrame (delivery.accepted rendering) = none := by
  obtain ⟨frame, built, more, whole⟩ := Delivery.accepted_prefix truncated.1
  have missing : more ≠ [] := by
    intro none
    rw [none, List.append_nil] at whole
    exact truncated.2 (by rw [built, whole])
  have reads := (reads_text (length_of_frame built)).1
  rw [← frame_eq_write built, ← whole] at reads
  exact reads.incomplete missing

/-- Where no frame is continued behind a truncated one, the bytes are the frames of the events that
arrived, and the beginning of one more. -/
theorem bytes_of_wholeFrames {deliveries : List Delivery} (whole : WholeFrames rendering deliveries) :
    ∃ front, WebSocketFrame.readFrame front = none ∧
      deliveries.flatMap (Delivery.accepted rendering) =
        (arrived rendering deliveries).flatMap
          (fun event => WebSocketFrame.write 1 (eventJson rendering event)) ++ front := by
  rw [wholeFrames_iff] at whole
  induction deliveries with
  | nil => exact ⟨[], rfl, rfl⟩
  | cons delivery deliveries ih =>
      obtain ⟨here, later⟩ := List.pairwise_cons.mp whole
      by_cases truncated : delivery.Truncated rendering
      · have silent : ∀ other ∈ deliveries, other.accepted rendering = [] :=
          fun other inside => here other inside truncated
        have nothing : arrived rendering (delivery :: deliveries) = [] := by
          rw [arrived, List.map_eq_nil_iff, List.filter_eq_nil_iff]
          intro other inside
          rw [decide_eq_true_eq]
          rcases List.mem_cons.mp inside with rfl | inside
          · exact truncated.2
          · exact not_arrived_of_silent (silent other inside)
        refine ⟨delivery.accepted rendering, readFrame_of_truncated truncated, ?_⟩
        rw [nothing, List.flatMap_cons, List.flatMap_eq_nil_iff.mpr silent, List.append_nil,
          List.flatMap_nil, List.nil_append]
      · obtain ⟨front, incomplete, bytes⟩ := ih later
        refine ⟨front, incomplete, ?_⟩
        rw [List.flatMap_cons, bytes]
        by_cases complete : delivery.frame rendering = some (delivery.accepted rendering)
        · have listed : arrived rendering (delivery :: deliveries) =
              delivery.event :: arrived rendering deliveries := by
            rw [arrived, List.filter_cons_of_pos (by simpa using complete), List.map_cons]
            rfl
          rw [listed, List.flatMap_cons, accepted_of_arrived complete, List.append_assoc]
        · have silent : delivery.accepted rendering = [] := by
            by_contra begun
            exact truncated ⟨begun, complete⟩
          have listed : arrived rendering (delivery :: deliveries) = arrived rendering deliveries := by
            rw [arrived, List.filter_cons_of_neg (by simpa using complete)]
            rfl
          rw [listed, silent, List.nil_append]

private theorem receive_of_wholeFrames {deliveries : List Delivery} (whole : WholeFrames rendering deliveries) :
    Shows rendering (arrived rendering deliveries)
      (DashboardState.receive {} (deliveries.flatMap (Delivery.accepted rendering))) := by
  obtain ⟨front, incomplete, bytes⟩ := bytes_of_wholeFrames whole
  have each : ∀ event ∈ arrived rendering deliveries,
      WebSocketFrame.Reads (WebSocketFrame.write 1 (eventJson rendering event))
          (.final 1 (eventJson rendering event)) ∧
        (WebSocketFrame.final 1 (eventJson rendering event)).Allowed := by
    intro event inside
    obtain ⟨delivery, listed, rfl⟩ := List.mem_map.mp inside
    obtain ⟨-, built⟩ := List.mem_filter.mp listed
    exact reads_text (length_of_frame (of_decide_eq_true built))
  have initial : Shows rendering [] {} := ⟨fun _ => rfl, rfl⟩
  rw [DashboardState.receive, bytes, WebSocketFrame.readWhole_flatMap each incomplete, List.foldl_map]
  exact initial.foldl rendering

/-! ## The socket of a client -/

namespace LocalControlServer

variable {server next : LocalControlServer} {client : ClientId}

/-- A delivery is cut exactly when its frame is not whole. -/
def CutsKnown (rendering : NumberRendering) (server : LocalControlServer) : Prop :=
  ∀ client, ∀ delivery ∈ server.written client,
    delivery.cut = none ↔ delivery.frame rendering = some (delivery.accepted rendering)

private theorem cut_of_sent {event : ControlEvent} {moment : Nat} {results : List Int} {sent : Sent}
    (returned : sendWebSocketText (eventJson rendering event) results = some sent) :
    (⟨event, moment, sent.cut⟩ : Delivery).cut = none ↔
      (⟨event, moment, sent.cut⟩ : Delivery).frame rendering =
        some ((⟨event, moment, sent.cut⟩ : Delivery).accepted rendering) := by
  rw [Delivery.accepted_of_sent returned]
  unfold sendWebSocketText at returned
  unfold Delivery.frame Sent.cut
  dsimp only
  cases built : webSocketFrame (eventJson rendering event) with
  | none =>
      rw [built] at returned
      cases returned
      simp
  | some frame =>
      rw [built] at returned
      rw [Option.some.injEq, @eq_comm _ frame, ← (sendAll_accepted returned).2]
      split_ifs with complete <;> simp [complete]

theorem CutsKnown.write (known : CutsKnown rendering server) {delivery : Delivery}
    (here : delivery.cut = none ↔ delivery.frame rendering = some (delivery.accepted rendering))
    (written : next.written = (server.write client delivery).written) : CutsKnown rendering next := by
  intro other earlier inside
  by_cases same : other = client
  · subst same
    rw [written, write_self] at inside
    rcases List.mem_append.mp inside with inside | inside
    · exact known other earlier inside
    · rw [List.mem_singleton.mp inside]
      exact here
  · rw [written, write_of_ne _ _ same] at inside
    exact known other earlier inside

theorem CutsKnown.step (known : CutsKnown rendering server) {label : SocketLabel}
    (stepped : server.socketStep rendering label = some next) : CutsKnown rendering next := by
  cases label with
  | server label =>
      simp only [socketStep] at stepped
      split at stepped
      · cases stepped
      · next silent =>
          intro other earlier inside
          rw [written_of_step stepped (by simpa using silent)] at inside
          exact known other earlier inside
  | send publisher results =>
      cases socketStepped_of_step stepped with
      | send _ _ _ returned written => exact known.write (cut_of_sent returned) written
  | sendSnapshot results =>
      simp only [socketStep, Option.bind_eq_bind, Option.bind_eq_some_iff] at stepped
      obtain ⟨upgrade, here, snapshot, first, sent, returned, stepped⟩ := stepped
      obtain ⟨client, remaining, moment⟩ := upgrade
      obtain ⟨rest, rfl⟩ : ∃ rest, remaining = snapshot :: rest := by
        cases remaining with
        | nil => cases first
        | cons other rest =>
            cases first
            exact ⟨rest, rfl⟩
      simp only [LocalControlServer.step, perform, here, Option.map_some, Option.some.injEq] at stepped
      subst stepped
      exact known.write (cut_of_sent returned) rfl

end LocalControlServer

/-- In every run in which no broadcast sends on to a client in whose frame another has failed, the
dashboard that has read what its socket accepted shows the last snapshot of every runtime and the
newest forty events of those whose send did not fail; if none has failed, this is the client's view. -/
theorem dashboard_follows_events (rendering : NumberRendering) (configuration : TunnelConfiguration)
    (clients : Nat) (labels : List SocketLabel) (final : LocalControlServer)
    (ran : (socketServer rendering).exec (.start configuration clients) labels = some final)
    (guarded : (socketServer rendering).Guarded (LocalControlServer.avoidsNoted rendering)
      (.start configuration clients) labels) (client : ClientId) :
    ∃ state, state = DashboardState.receive {}
        ((final.written client).flatMap (Delivery.accepted rendering)) ∧
      Shows rendering (((final.written client).filter (·.cut.isNone)).map (·.event)) state ∧
      ((∀ delivery ∈ final.written client, delivery.cut = none) →
        ∀ key, state.runtimes key = (final.view client key).map (snapshotValue rendering)) := by
  let sound := fun server => LocalControlServer.Tracked server ∧
    LocalControlServer.SendsWholeFrames rendering server ∧ LocalControlServer.CutsKnown rendering server
  have initial : sound (.start configuration clients) :=
    ⟨⟨LocalControlServer.sound_start configuration clients, LocalControlServer.marked_start configuration clients⟩,
      fun client => wholeFrames_iff.mpr .nil, fun client delivery inside => nomatch inside⟩
  have kept : sound final := by
    refine @Machine.invariant_of_guarded _ _ (socketServer rendering)
      (LocalControlServer.avoidsNoted rendering) sound (fun holds allowed stepped => ?_) _ _ _ ran guarded initial
    exact ⟨holds.1.step stepped,
      (LocalControlServer.sendsWholeFrames_step holds.1 holds.2.1 stepped).mpr allowed,
      holds.2.2.step stepped⟩
  obtain ⟨-, whole, known⟩ := kept
  have events : arrived rendering (final.written client) =
      ((final.written client).filter (·.cut.isNone)).map (·.event) := by
    rw [arrived]
    refine congrArg (List.map Delivery.event) (List.filter_congr fun delivery inside => ?_)
    rw [Bool.eq_iff_iff, decide_eq_true_eq, Option.isNone_iff_eq_none]
    exact (known client delivery inside).symm
  have shows := receive_of_wholeFrames (whole client)
  rw [events] at shows
  refine ⟨_, rfl, shows, fun uncut key => ?_⟩
  have all : ∀ delivery ∈ final.written client, delivery.cut.isNone = true :=
    fun delivery inside => Option.isNone_iff_eq_none.mpr (uncut delivery inside)
  rw [shows.runtimes key, LocalControlServer.view, LocalControlServer.received,
    List.filter_eq_self.mpr all, List.takeWhile_eq_self_iff.mpr all]

end

namespace LocalControlServer

/-- Nothing has been sent to the client that is sent to. -/
def sendsFirst (server : LocalControlServer) : SocketLabel → Bool
  | .send publisher _ =>
      match (server.broadcasts publisher).bind Broadcast.clients with
      | some (client :: _) => (server.written client).isEmpty
      | _ => true
  | _ => true

private theorem avoidsNoted_of_sendsFirst {rendering : NumberRendering} {server : LocalControlServer}
    {label : SocketLabel}
    (alone : server.sendsFirst label = true) : server.avoidsNoted rendering label := by
  cases label with
  | send publisher results =>
      intro broadcast client rest sent here copies _ _ _ delivery inside
      rw [sendsFirst, here, Option.bind_some, copies] at alone
      rw [List.isEmpty_iff.mp alone] at inside
      cases inside
  | _ => trivial

/-- `a` is started with a client connected, to which the socket takes the frame in two parts. -/
def startShown : List SocketLabel :=
  ([ServerLabel.call (.start (ascii "a"))] ++ List.replicate 4 ServerLabel.advance ++
    [ServerLabel.copyClients .request]).map .server ++ [.send .request [100, 352], .server (.finish .request)]

theorem dashboard_follows_events_startShown : ∃ final,
    (socketServer zeroRendering).exec (.start ManagedTunnelRuntime.soleServer 1) startShown = some final ∧
      ∃ state, state = DashboardState.receive {}
          ((final.written 0).flatMap (Delivery.accepted zeroRendering)) ∧
        Shows zeroRendering (((final.written 0).filter (·.cut.isNone)).map (·.event)) state ∧
        ((∀ delivery ∈ final.written 0, delivery.cut = none) →
          ∀ key, state.runtimes key = (final.view 0 key).map (snapshotValue zeroRendering)) := by
  have possible : ((socketServer zeroRendering).exec (.start ManagedTunnelRuntime.soleServer 1)
      startShown).isSome = true := by decide +kernel
  have checked : (socketServer zeroRendering).check LocalControlServer.sendsFirst
      (.start ManagedTunnelRuntime.soleServer 1) startShown = true := by decide +kernel
  obtain ⟨final, ran⟩ := Option.isSome_iff_exists.mp possible
  have guarded : (socketServer zeroRendering).Guarded (avoidsNoted zeroRendering)
      (.start ManagedTunnelRuntime.soleServer 1) startShown :=
    fun passed label within reached begun =>
      avoidsNoted_of_sendsFirst (Machine.guarded_of_check checked passed label within reached begun)
  exact ⟨final, ran, dashboard_follows_events zeroRendering _ 1 startShown final ran guarded 0⟩

end LocalControlServer

end DatagramTunneler
