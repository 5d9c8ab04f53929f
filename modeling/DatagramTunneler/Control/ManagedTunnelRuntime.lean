import DatagramTunneler.Configuration
import DatagramTunneler.Control.Types
import DatagramTunneler.Foundation.Machine
import Mathlib.Algebra.Order.Floor.Defs
import Mathlib.Data.List.Sort
import Mathlib.Data.Rat.Floor
import Mathlib.Logic.Function.Basic

/-! The in-process supervisor. Every section under `mutex_` and every other access
to a worker that another thread can see is one step, so a run is one interleaving
of the calling threads and the workers' threads. A worker stays in the heap after
it has left the registry, as the threads that still hold it see it. -/

set_option autoImplicit false

namespace DatagramTunneler

open Foundation

/-- A `std::shared_ptr<Worker>`, by the order of creation. -/
abbrev WorkerPtr := Nat

/-- What `publish` is called with: a copied snapshot and its severity. -/
structure Notice where
  snapshot : TunnelSnapshot
  severity : EventSeverity
  deriving DecidableEq

/-- The `std::jthread` member of a worker. A default-constructed one has no stop state. -/
inductive ThreadHandle where
  | empty
  | joinable
  | joined
  deriving DecidableEq, Repr

/-- How far the thread function of a worker has got. -/
inductive BodyPoint where
  | absent
  | entry
  /-- Publishing that the worker runs or is connected. -/
  | announcing (notice : Notice)
  /-- Inside the tunneler or the producer; a client tunnel may not have connected yet. -/
  | working (connected : Bool)
  /-- The final transition is decided and not made yet. -/
  | leaving (state : TunnelState) (detail : Text)
  /-- Publishing the final transition. -/
  | reporting (notice : Notice)
  | ended
  deriving DecidableEq

structure Worker where
  key : Text := []
  snapshot : TunnelSnapshot := {}
  started_at : ℚ := 0
  latency_samples : List ℚ := []
  /-- What the thread function captures. -/
  config : Config := {}
  options : ProducerOptions := {}
  thread : ThreadHandle := .empty
  body : BodyPoint := .absent
  /-- The stop state of the thread, from its construction on. -/
  stop_token : Option Bool := none
  deriving DecidableEq

inductive Operation where
  | start
  | stop
  | restart
  deriving DecidableEq, Repr

/-- One call of the public interface. -/
structure ControlCall where
  operation : Operation
  kind : RuntimeKind
  alias_ : Text
  options : ProducerOptions := {}
  deriving DecidableEq

namespace ControlCall

def start (alias_ : Text) : ControlCall := ⟨.start, .tunnel, alias_, {}⟩
def stop (alias_ : Text) : ControlCall := ⟨.stop, .tunnel, alias_, {}⟩
def restart (alias_ : Text) : ControlCall := ⟨.restart, .tunnel, alias_, {}⟩
def startProducer (alias_ : Text) (options : ProducerOptions) : ControlCall :=
  ⟨.start, .producer, alias_, options⟩
def stopProducer (alias_ : Text) : ControlCall := ⟨.stop, .producer, alias_, {}⟩
def restartProducer (alias_ : Text) (options : ProducerOptions) : ControlCall :=
  ⟨.restart, .producer, alias_, options⟩

end ControlCall

def workerKey (kind : RuntimeKind) (alias_ : Text) : Text :=
  (match kind with
    | .tunnel => ascii "tunnel:"
    | .producer => ascii "producer:") ++ alias_

def ControlCall.key (call : ControlCall) : Text := workerKey call.kind call.alias_

/-- Where a call stands; each point is followed by one step. -/
inductive CallPoint where
  /-- `requestStop`, then its publish. -/
  | requestStop
  | publishStop (notice : Notice)
  /-- `joinAndRemove`: find, join, erase. -/
  | find
  | join (worker : WorkerPtr)
  | remove (worker : WorkerPtr)
  /-- `startTunnel` and `startProducerWorker`. -/
  | lookup
  | releaseFinishedSlot (config : Config)
  | joinFinished (config : Config) (worker : WorkerPtr)
  | emplace (config : Config)
  | announce (worker : WorkerPtr)
  | publishInitial (worker : WorkerPtr) (notice : Notice)
  | construct (worker : WorkerPtr)
  | assign (worker : WorkerPtr)
  | eraseFailed (what : Text)
  deriving DecidableEq

inductive CallerState where
  | idle
  | running (call : ControlCall) (point : CallPoint)
  | returned
  | threw (what : Text)
  deriving DecidableEq

structure ManagedTunnelRuntime where
  /-- What `control_service_` holds. -/
  configuration : TunnelConfiguration
  clock : Clock := {}
  workers_ : Std.ExtTreeMap Text WorkerPtr compare := ∅
  heap : WorkerPtr → Worker := fun _ => {}
  /-- How many workers have been made. -/
  made : Nat := 0
  callers : Nat → CallerState := fun _ => .idle

inductive WorkerEvent where
  | begin
  | connected
  | datagram (observation : DatagramObservation)
  | finished
  | failed (what : Text)
  | conclude
  | published
  deriving DecidableEq

inductive RuntimeLabel where
  | tick (clock : Clock)
  | configure (configuration : TunnelConfiguration)
  | call (caller : Nat) (call : ControlCall)
  | advance (caller : Nat)
  /-- Creating the thread throws. -/
  | threadFails (caller : Nat) (what : Text)
  | worker (worker : WorkerPtr) (event : WorkerEvent)
  deriving DecidableEq

/-- `DatagramTunneler` in client mode, the only body that connects. -/
def Worker.isClientTunnel (worker : Worker) : Bool :=
  worker.snapshot.kind = .tunnel && worker.config.is_client_

/-- The event `publish` makes. -/
def Notice.event (clock : Clock) (notice : Notice) : ControlEvent where
  kind := .lifecycle
  severity := notice.severity
  timestamp := clock.system
  alias_ := notice.snapshot.alias_
  message := notice.snapshot.detail
  snapshot := some notice.snapshot

def endpointDetail (verb : String) (config : Config) : Text :=
  ascii verb ++ ascii " to " ++ config.tcp_srv_ip_ ++ ascii ":" ++
    to_string config.tcp_srv_port_.toNat

/-- `samples[static_cast<std::size_t>(value * (samples.size() - 1))]`. -/
def percentile (samples : List ℚ) (value : ℚ) : Option ℚ :=
  samples[⌊value * ((samples.length - 1 : Nat) : ℚ)⌋.toNat]?

def Worker.recordLatency (worker : Worker) (latency : ℚ) : Worker :=
  let window := worker.latency_samples ++ [latency]
  let window := if 1024 < window.length then window.drop 1 else window
  let samples := window.insertionSort (· ≤ ·)
  { worker with
    latency_samples := window
    snapshot.metrics.average_latency_milliseconds := some (samples.sum / samples.length)
    snapshot.metrics.p50_latency_milliseconds := percentile samples (1 / 2)
    snapshot.metrics.p99_latency_milliseconds := percentile samples (99 / 100)
    snapshot.metrics.maximum_latency_milliseconds := samples.getLast? }

def Worker.recordDatagram (clock : Clock) (worker : Worker) (observation : DatagramObservation) :
    Worker :=
  let metrics := { worker.snapshot.metrics with
    datagram_count := worker.snapshot.metrics.datagram_count + 1
    byte_count := worker.snapshot.metrics.byte_count + UInt64.ofNat observation.bytes }
  let elapsed_seconds := clock.steady - worker.started_at
  let metrics :=
    if 0 < elapsed_seconds then
      { metrics with throughput_bytes_per_second := (metrics.byte_count.toNat : ℚ) / elapsed_seconds }
    else metrics
  let recent := worker.snapshot.recent_datagrams ++
    [⟨clock.system, observation.bytes, observation.latency_milliseconds⟩]
  let recent := if 10 < recent.length then recent.drop 1 else recent
  let worker := { worker with snapshot.metrics := metrics, snapshot.recent_datagrams := recent }
  match observation.latency_milliseconds with
  | none => worker
  | some latency => worker.recordLatency latency

/-- `thread.request_stop()`: without a stop state it does nothing. -/
def Worker.request_stop (worker : Worker) : Worker :=
  if worker.thread = .empty then worker
  else { worker with stop_token := worker.stop_token.map fun _ => true }

def Worker.stop_requested (worker : Worker) : Bool := worker.stop_token = some true

/-- Whether `run` can return by itself: a client tunnel only stops when asked to, a
producer also when it has sent as many datagrams as it should. -/
def Worker.canFinish (worker : Worker) : Bool :=
  match worker.snapshot.kind with
  | .tunnel => !worker.config.is_client_ || worker.stop_requested
  | .producer => worker.options.count ≠ 0 || worker.stop_requested

namespace ManagedTunnelRuntime

def setWorker (runtime : ManagedTunnelRuntime) (worker : WorkerPtr) (value : Worker) :
    ManagedTunnelRuntime :=
  { runtime with heap := Function.update runtime.heap worker value }

def setCaller (runtime : ManagedTunnelRuntime) (caller : Nat) (state : CallerState) :
    ManagedTunnelRuntime :=
  { runtime with callers := Function.update runtime.callers caller state }

/-! ## Workers -/

/-- A worker after the section of `transition`. -/
def transition (worker : Worker) (state : TunnelState) (detail : Text) : Worker :=
  { worker with snapshot.state := state, snapshot.detail := detail }

/-- What `transition` publishes after its section. -/
def transitionNotice (worker : Worker) : Notice :=
  ⟨worker.snapshot, if worker.snapshot.state = .failed then .error else .info⟩

/-- The next step of the thread function, as far as the body decides it. -/
def stepBody (clock : Clock) (worker : Worker) (event : WorkerEvent) : Option Worker :=
  match worker.body, event with
  | .entry, .begin =>
      if worker.isClientTunnel then
        some { worker with started_at := clock.steady, body := .working false }
      else
        let started := if worker.snapshot.kind = .tunnel then clock.steady else worker.started_at
        let running := transition { worker with started_at := started } .running (ascii "Running")
        some { running with body := .announcing (transitionNotice running) }
  | .working false, .connected =>
      let connected := transition worker .connected (endpointDetail "Connected" worker.config)
      some { connected with body := .announcing (transitionNotice connected) }
  | .working true, .datagram observation =>
      if worker.snapshot.kind = .tunnel then some (worker.recordDatagram clock observation) else none
  | .working _, .finished =>
      if worker.canFinish then
        let detail :=
          if worker.stop_requested then ascii "Stopped by request"
          else match worker.snapshot.kind with
            | .tunnel => ascii "Tunnel finished"
            | .producer => ascii "Producer finished"
        some { worker with body := .leaving .stopped detail }
      else none
  | .working _, .failed what => some { worker with body := .leaving .failed what }
  | .leaving state detail, .conclude =>
      let left := transition worker state detail
      some { left with body := .reporting (transitionNotice left) }
  | .announcing _, .published => some { worker with body := .working true }
  | .reporting _, .published => some { worker with body := .ended }
  | _, _ => none

/-! ## Calls -/

def notManaged (call : ControlCall) : Text :=
  ascii "runtime '" ++ call.alias_ ++ ascii "' is not managed"

def alreadyActive (call : ControlCall) : Text :=
  ascii "runtime '" ++ call.alias_ ++ ascii "' is already active"

def needsClient (call : ControlCall) : Text :=
  ascii "producer alias '" ++ call.alias_ ++ ascii "' must name a client tunnel"

/-- Where a call goes after `requestStop`. -/
def afterStop (call : ControlCall) : CallerState :=
  match call.operation with
  | .restart => .running call .find
  | .start | .stop => .returned

/-- `worker->thread.join()` where the thread is joinable; `none` while it runs. -/
def joinThread (runtime : ManagedTunnelRuntime) (worker : WorkerPtr) : Option ManagedTunnelRuntime :=
  if (runtime.heap worker).thread = .joinable then
    if (runtime.heap worker).body = .ended then
      some (runtime.setWorker worker { runtime.heap worker with thread := .joined })
    else none
  else some runtime

/-- A worker as `startTunnel` and `startProducerWorker` make it. -/
def makeWorker (clock : Clock) (call : ControlCall) (config : Config) : Worker where
  key := call.key
  snapshot :=
    if call.kind = .tunnel ∧ config.is_client_ then
      { alias_ := call.alias_, kind := call.kind, state := .connecting,
        detail := endpointDetail "Connecting" config }
    else
      { alias_ := call.alias_, kind := call.kind, state := .starting, detail := ascii "Starting" }
  started_at := clock.steady
  config := config
  options := call.options

def advance (runtime : ManagedTunnelRuntime) (caller : Nat) (call : ControlCall) (point : CallPoint) :
    Option ManagedTunnelRuntime :=
  let goto (point : CallPoint) (runtime : ManagedTunnelRuntime) :=
    runtime.setCaller caller (.running call point)
  let throws (what : Text) := runtime.setCaller caller (.threw what)
  match point with
  | .requestStop =>
      match runtime.workers_[call.key]? with
      | none => some (throws (notManaged call))
      | some worker =>
          if (runtime.heap worker).snapshot.state.finished then
            some (runtime.setCaller caller (afterStop call))
          else
            let stopping := transition (runtime.heap worker) .stopping (ascii "Stopping")
            some (goto (.publishStop ⟨stopping.snapshot, .info⟩)
              (runtime.setWorker worker stopping.request_stop))
  | .publishStop _ => some (runtime.setCaller caller (afterStop call))
  | .find =>
      match runtime.workers_[call.key]? with
      | none => some (throws (notManaged call))
      | some worker =>
          some (goto (.join worker) (runtime.setWorker worker (runtime.heap worker).request_stop))
  | .join worker => (runtime.joinThread worker).map (goto (.remove worker))
  | .remove worker =>
      if runtime.workers_[call.key]? = some worker then
        some (goto .lookup { runtime with workers_ := runtime.workers_.erase call.key })
      else some (goto .lookup runtime)
  | .lookup =>
      match findTunnel runtime.configuration call.alias_ with
      | .error what => some (throws what)
      | .ok definition =>
          if call.kind = .producer ∧ !definition.config.is_client_ then some (throws (needsClient call))
          else some (goto (.releaseFinishedSlot definition.config) runtime)
  | .releaseFinishedSlot config =>
      match runtime.workers_[call.key]? with
      | none => some (goto (.emplace config) runtime)
      | some worker =>
          if (runtime.heap worker).snapshot.state.active then some (throws (alreadyActive call))
          else some (goto (.joinFinished config worker)
            { runtime with workers_ := runtime.workers_.erase call.key })
  | .joinFinished config worker => (runtime.joinThread worker).map (goto (.emplace config))
  | .emplace config =>
      let worker := runtime.made
      let holding := runtime.setWorker worker (makeWorker runtime.clock call config)
      some (goto (.announce worker) { holding with
        made := runtime.made + 1
        workers_ := runtime.workers_.insertIfNew call.key worker })
  | .announce worker =>
      some (goto (.publishInitial worker ⟨(runtime.heap worker).snapshot, .info⟩) runtime)
  | .publishInitial worker _ => some (goto (.construct worker) runtime)
  | .construct worker =>
      some (goto (.assign worker) (runtime.setWorker worker
        { runtime.heap worker with body := .entry, stop_token := some false }))
  | .assign worker =>
      some ((runtime.setWorker worker { runtime.heap worker with thread := .joinable }).setCaller
        caller .returned)
  | .eraseFailed what =>
      some (({ runtime with workers_ := runtime.workers_.erase call.key } :
        ManagedTunnelRuntime).setCaller caller (.threw what))

def firstPoint (call : ControlCall) : CallPoint :=
  match call.operation with
  | .start => .lookup
  | .stop | .restart => .requestStop

def step (runtime : ManagedTunnelRuntime) (label : RuntimeLabel) : Option ManagedTunnelRuntime :=
  match label with
  | .tick clock => some { runtime with clock := clock }
  | .configure configuration => some { runtime with configuration := configuration }
  | .call caller call =>
      match runtime.callers caller with
      | .running _ _ => none
      | .idle | .returned | .threw _ =>
          some (runtime.setCaller caller (.running call (firstPoint call)))
  | .advance caller =>
      match runtime.callers caller with
      | .running call point => runtime.advance caller call point
      | .idle | .returned | .threw _ => none
  | .threadFails caller what =>
      match runtime.callers caller with
      | .running call (.construct _) =>
          some (runtime.setCaller caller (.running call (.eraseFailed what)))
      | _ => none
  | .worker worker event =>
      (stepBody runtime.clock (runtime.heap worker) event).map (runtime.setWorker worker)

/-- `snapshots()`: sorted by alias. Of a tunnel and a producer with one alias the source leaves
the order to its hash table; here it is that of the keys. -/
def snapshots (runtime : ManagedTunnelRuntime) : List TunnelSnapshot :=
  (runtime.workers_.toList.map fun (_, worker) => (runtime.heap worker).snapshot).insertionSort
    fun left right => (compare left.alias_ right.alias_).isLE

end ManagedTunnelRuntime

def managedTunnelRuntime : Machine ManagedTunnelRuntime RuntimeLabel := ⟨ManagedTunnelRuntime.step⟩

end DatagramTunneler
