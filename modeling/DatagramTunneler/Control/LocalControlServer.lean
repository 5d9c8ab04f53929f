import DatagramTunneler.Control.ManagedTunnelRuntime

/-! The publishing side of the control server: WebSocket clients, the threads that
broadcast to them, and the connection that is being upgraded to one. One thread
serves the connections one after the other, so control calls and upgrades exclude
each other; workers and the metrics publisher broadcast whenever they like. Every
section under a mutex and every send to one client is one step. -/

set_option autoImplicit false

namespace DatagramTunneler

/-- A `std::shared_ptr<WebSocketClient>`, by the order of connection. -/
abbrev ClientId := Nat

/-- One call of `sendWebSocketText`. -/
structure Delivery where
  event : ControlEvent
  /-- When the snapshot of the event was taken. -/
  moment : Nat
  /-- After how many bytes of the frame `send` failed. -/
  cut : Option Nat := none
  deriving DecidableEq

/-- One call of `broadcastEvent`. -/
structure Broadcast where
  event : ControlEvent
  moment : Nat
  /-- The copied clients that are still to be sent to, once they are copied. -/
  clients : Option (List ClientId) := none
  failed : List ClientId := []
  deriving DecidableEq

inductive Publisher where
  | request
  | worker (worker : WorkerPtr)
  | metrics
  deriving DecidableEq

/-- Where `broadcastMetricSnapshots` stands. -/
inductive MetricsPoint where
  | waiting
  /-- Some client is connected. -/
  | checked
  | publishing (remaining : List TunnelSnapshot) (moment : Nat)
  deriving DecidableEq

/-- A client that is being sent the snapshots and is not in `clients_` yet. -/
structure Upgrade where
  client : ClientId
  remaining : List TunnelSnapshot
  moment : Nat
  deriving DecidableEq

structure LocalControlServer where
  runtime_ : ManagedTunnelRuntime
  clients_ : List ClientId := []
  written : ClientId → List Delivery := fun _ => []
  broadcasts : Publisher → Option Broadcast := fun _ => none
  metrics : MetricsPoint := .waiting
  upgrade : Option Upgrade := none
  /-- How many clients there have been. -/
  connections : Nat := 0
  /-- How many steps there have been. -/
  moment : Nat := 0

inductive ServerLabel where
  | tick (clock : Clock)
  | configure (configuration : TunnelConfiguration)
  | call (call : ControlCall)
  | advance
  | threadFails (what : Text)
  | worker (worker : WorkerPtr) (event : WorkerEvent)
  | copyClients (publisher : Publisher)
  | send (publisher : Publisher) (cut : Option Nat)
  | finish (publisher : Publisher)
  | checkClients
  | collect
  | nextMetric
  | upgrade
  | sendSnapshot (cut : Option Nat)
  | register
  deriving DecidableEq

/-- The call is inside `publish`. -/
def CallerState.notice? : CallerState → Option Notice
  | .running _ (.publishStop notice) | .running _ (.publishInitial _ notice) => some notice
  | _ => none

/-- The thread function is inside `publish`. -/
def BodyPoint.notice? : BodyPoint → Option Notice
  | .announcing notice | .reporting notice => some notice
  | _ => none

namespace LocalControlServer

/-- The thread that runs `serveConnection`, the runtime's only caller. -/
def requestThread : Nat := 0

def setBroadcast (server : LocalControlServer) (publisher : Publisher)
    (broadcast : Option Broadcast) : LocalControlServer :=
  { server with broadcasts := Function.update server.broadcasts publisher broadcast }

def write (server : LocalControlServer) (client : ClientId) (delivery : Delivery) :
    LocalControlServer :=
  let written := server.written client ++ [delivery]
  { server with written := Function.update server.written client written }

/-- `serveConnection` is waiting for the next connection. -/
def requestIdle (server : LocalControlServer) : Bool :=
  server.upgrade.isNone &&
    match server.runtime_.callers requestThread with
    | .running _ _ => false
    | .idle | .returned | .threw _ => true

/-- The runtime has moved on; where that puts a thread inside `publish`, it broadcasts. -/
def publish (server : LocalControlServer) (runtime : ManagedTunnelRuntime) (publisher : Publisher)
    (notice? : Option Notice) : LocalControlServer :=
  match notice? with
  | none => { server with runtime_ := runtime }
  | some notice =>
      ({ server with runtime_ := runtime } : LocalControlServer).setBroadcast publisher
        (some { event := notice.event runtime.clock, moment := server.moment })

def metricsEvent (clock : Clock) (snapshot : TunnelSnapshot) : ControlEvent where
  kind := .metrics
  timestamp := clock.system
  alias_ := snapshot.alias_
  message := ascii "Runtime telemetry"
  snapshot := some snapshot

def snapshotEvent (clock : Clock) (snapshot : TunnelSnapshot) : ControlEvent where
  timestamp := clock.system
  alias_ := snapshot.alias_
  message := ascii "current runtime snapshot"
  snapshot := some snapshot

/-- What the publisher does when `broadcastEvent` returns. -/
def leaveBroadcast (runtime : ManagedTunnelRuntime) : Publisher → Option ManagedTunnelRuntime
  | .metrics => some runtime
  | .worker worker => runtime.step (.worker worker .published)
  | .request =>
      if (runtime.callers requestThread).notice?.isSome then runtime.step (.advance requestThread)
      else none

def perform (server : LocalControlServer) (label : ServerLabel) : Option LocalControlServer :=
  match label with
  | .tick clock =>
      (server.runtime_.step (.tick clock)).map fun runtime => { server with runtime_ := runtime }
  | .configure configuration =>
      if server.requestIdle then
        (server.runtime_.step (.configure configuration)).map fun runtime =>
          { server with runtime_ := runtime }
      else none
  | .call call =>
      if server.requestIdle then
        (server.runtime_.step (.call requestThread call)).map fun runtime =>
          { server with runtime_ := runtime }
      else none
  | .advance =>
      if server.broadcasts .request = none then
        (server.runtime_.step (.advance requestThread)).map fun runtime =>
          server.publish runtime .request (runtime.callers requestThread).notice?
      else none
  | .threadFails what =>
      (server.runtime_.step (.threadFails requestThread what)).map fun runtime =>
        { server with runtime_ := runtime }
  | .worker worker event =>
      if event ≠ .published ∧ server.broadcasts (.worker worker) = none then
        (server.runtime_.step (.worker worker event)).map fun runtime =>
          server.publish runtime (.worker worker) (runtime.heap worker).body.notice?
      else none
  | .copyClients publisher =>
      match server.broadcasts publisher with
      | some { event, moment, clients := none, failed } =>
          some (server.setBroadcast publisher
            (some { event, moment, clients := some server.clients_, failed }))
      | _ => none
  | .send publisher cut =>
      match server.broadcasts publisher with
      | some { event, moment, clients := some (client :: rest), failed } =>
          some ((server.write client { event, moment, cut }).setBroadcast publisher
            (some { event, moment, clients := some rest,
                    failed := if cut.isSome then failed ++ [client] else failed }))
      | _ => none
  | .finish publisher =>
      match server.broadcasts publisher with
      | some { clients := some [], failed, .. } =>
          (leaveBroadcast server.runtime_ publisher).map fun runtime =>
            ({ server with
                runtime_ := runtime
                clients_ := server.clients_.filter (· ∉ failed) } :
              LocalControlServer).setBroadcast publisher none
      | _ => none
  | .checkClients =>
      if server.metrics = .waiting then
        some { server with metrics := if server.clients_ = [] then .waiting else .checked }
      else none
  | .collect =>
      if server.metrics = .checked then
        some { server with metrics := .publishing server.runtime_.snapshots server.moment }
      else none
  | .nextMetric =>
      match server.metrics, server.broadcasts .metrics with
      | .publishing (snapshot :: rest) moment, none =>
          let left := { server with metrics := .publishing rest moment }
          if snapshot.state.active then
            some (left.setBroadcast .metrics
              (some { event := metricsEvent server.runtime_.clock snapshot, moment }))
          else some left
      | .publishing [] _, none => some { server with metrics := .waiting }
      | _, _ => none
  | .upgrade =>
      if server.requestIdle then
        some { server with
          upgrade := some ⟨server.connections, server.runtime_.snapshots, server.moment⟩
          connections := server.connections + 1 }
      else none
  | .sendSnapshot cut =>
      match server.upgrade with
      | some { client, remaining := snapshot :: rest, moment } =>
          let delivery := { event := snapshotEvent server.runtime_.clock snapshot, moment, cut }
          let upgrade := if cut.isSome then none else some ⟨client, rest, moment⟩
          some { server.write client delivery with upgrade }
      | _ => none
  | .register =>
      match server.upgrade with
      | some { client, remaining := [], .. } =>
          some { server with clients_ := server.clients_ ++ [client], upgrade := none }
      | _ => none

def step (server : LocalControlServer) (label : ServerLabel) : Option LocalControlServer :=
  (server.perform label).map fun next => { next with moment := server.moment + 1 }

/-- The server with so many clients connected before anything was started. -/
def start (configuration : TunnelConfiguration) (clients : Nat) : LocalControlServer where
  runtime_ := { configuration := configuration }
  clients_ := List.range clients
  connections := clients

end LocalControlServer

def localControlServer : Foundation.Machine LocalControlServer ServerLabel :=
  ⟨LocalControlServer.step⟩

/-! ## The dashboard -/

/-- The entry of `state.runtimes` a snapshot belongs to. -/
def TunnelSnapshot.key (snapshot : TunnelSnapshot) : Text := workerKey snapshot.kind snapshot.alias_

/-- The dashboard's `eventFromWire`: the snapshot overwrites the entry of its runtime. -/
def eventFromWire (runtimes : Text → Option TunnelSnapshot) (event : ControlEvent) :
    Text → Option TunnelSnapshot :=
  match event.snapshot with
  | none => runtimes
  | some snapshot => Function.update runtimes snapshot.key (some snapshot)

namespace LocalControlServer

/-- The events that reach a client, up to the first frame that is cut off. -/
def received (server : LocalControlServer) (client : ClientId) : List ControlEvent :=
  ((server.written client).takeWhile (·.cut.isNone)).map (·.event)

def view (server : LocalControlServer) (client : ClientId) : Text → Option TunnelSnapshot :=
  (server.received client).foldl eventFromWire fun _ => none

/-- No publish or broadcast is in progress, nor is one due for a worker just registered. -/
def Settled (server : LocalControlServer) : Prop :=
  (∀ publisher, server.broadcasts publisher = none) ∧
    ∀ call worker, server.runtime_.callers requestThread ≠ .running call (.announce worker)

/-- The client sees every worker in the state it is in. -/
def Agrees (server : LocalControlServer) (client : ClientId) : Prop :=
  ∀ snapshot ∈ server.runtime_.snapshots,
    (server.view client snapshot.key).map (·.state) = some snapshot.state

end LocalControlServer

end DatagramTunneler
