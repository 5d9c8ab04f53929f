import DatagramTunneler.Control.DirectCommand
import DatagramTunneler.Control.ManagedTunnelRuntime
import DatagramTunneler.Producer
import DatagramTunneler.Tunnel.Client
import DatagramTunneler.Tunnel.ClientConnection

/-! The thread functions of the workers with the tunneler and the producer inside them,
where the runtime by itself only knows what they report. The threads share nothing with
the rest of the runtime but their worker, and of that they read the stop token. What a
pass has sent is out before the observer is told of it, so the callback is a step of its
own. -/

set_option autoImplicit false

namespace DatagramTunneler

open Foundation

/-- What the threads are built for and run on. -/
structure Platform where
  build : Build
  order : ByteOrder
  interfaces : List Interface
  inet_addr : Text → List UInt8

/-! ## Setting up -/

/-- The socket calls of `setupClient` and `setupServer`. -/
inductive SetupCall where
  | udp_socket
  | receive_timeout
  | bind_udp
  | multicast_interface
  | multicast_loop
  | tcp_socket
  /-- On macOS only. -/
  | no_sigpipe
  | bind_tcp
  deriving DecidableEq, Repr

def setupCalls (cfg : Config) : List SetupCall :=
  if cfg.is_client_ then [.udp_socket, .receive_timeout, .bind_udp, .tcp_socket, .no_sigpipe]
  else
    [.udp_socket, .multicast_interface] ++ (if cfg.use_clt_grp_ then [.multicast_loop] else []) ++
      [.tcp_socket, .bind_tcp]

def setupError (cfg : Config) (error_code : Nat) : SetupCall → Text
  | .udp_socket | .tcp_socket => ascii "Could not create socket! Error " ++ to_string error_code
  | .receive_timeout => throwTunnelError
      (ascii "Could not set receive timeout on UDP socket! Error " ++ to_string error_code)
  | .bind_udp => throwTunnelError (ascii "Could not bind UDP socket to port " ++
      to_string cfg.udp_dst_port_.toNat ++ ascii "! Error " ++ to_string error_code)
  | .multicast_interface => throwTunnelError (ascii "Could not set UDP publisher interface to " ++
      c_str cfg.udp_iface_ip_ ++ ascii "! Error " ++ to_string error_code)
  | .multicast_loop => throwTunnelError
      (ascii "Could not disable multicast loopback for client-group replication! Error " ++
        to_string error_code)
  | .no_sigpipe => throwTunnelError
      (ascii "Could not prevent TCP socket to send SIGPIPE on disconnect! Error " ++ to_string error_code)
  | .bind_tcp => throwTunnelError (ascii "Could not bind TCP socket to port " ++
      to_string cfg.tcp_srv_port_.toNat ++ ascii "! Error " ++ to_string error_code)

inductive ListenFailure where
  | listen (error_code : Nat)
  | timeout (error_code : Nat)
  deriving DecidableEq, Repr

def ListenFailure.what (cfg : Config) : ListenFailure → Text
  | .listen error_code => throwTunnelError (ascii "Unable to listen on TCP port " ++
      to_string cfg.tcp_srv_port_.toNat ++ ascii ", error " ++ to_string error_code ++ ascii "!")
  | .timeout error_code => throwTunnelError
      (ascii "Could not set TCP listen timeout! Error " ++ to_string error_code)

/-- One pass of the loop that waits for a client. -/
inductive Accepted where
  | timed_out
  | failed (error_code : Nat)
  /-- A client with all that it is going to send, and whether its timeout cannot be set. -/
  | connection (stream : List UInt8) (timeout_failure : Option Nat)
  | stop_requested
  deriving DecidableEq, Repr

def cannotJoin (cfg : Config) (error_code : Nat) : Text := throwTunnelError
  (ascii "Could not join multicast group " ++ c_str cfg.udp_dst_ip_ ++ ascii ":" ++
    to_string cfg.udp_dst_port_.toNat ++ ascii ". Error " ++ to_string error_code)

def cannotAccept (error_code : Nat) : Text := throwTunnelError
  (ascii "Unable to accept incoming TCP connection, accept() error " ++ to_string error_code ++ ascii "!")

def cannotTimeOut (error_code : Nat) : Text := throwTunnelError
  (ascii "Could not set receive timeout on TCP socket! Error " ++ to_string error_code)

/-- The group that `runServer` sets up before its loop. -/
def pubGroup (platform : Platform) (cfg : Config) : SockAddrIn :=
  if cfg.use_clt_grp_ then ⟨[0, 0], [0, 0, 0, 0]⟩
  else ⟨ByteOrder.big.toBytes 2 cfg.udp_dst_port_.toNat, platform.inet_addr cfg.udp_dst_ip_⟩

/-! ## The thread function -/

/-- The loop of the tunneler that a thread is in or has left. -/
inductive TunnelLoop where
  | none
  | client (cfg_ : Config) (loop : ClientLoop)
  | server (cfg_ : Config) (stream : List UInt8) (loop : ServerLoop)

def TunnelLoop.observations : TunnelLoop → List DatagramObservation
  | .none => []
  | .client _ loop => loop.observations
  | .server _ _ loop => loop.observations

/-- Where the thread function of a worker stands. Inside a loop `untold` is what the last
pass has observed and the observer has still to be told. -/
inductive ThreadPoint where
  | created
  | announcing (notice : Notice)
  | constructing
  | connecting (cfg_ : Config)
  | announcingConnected (cfg_ : Config) (notice : Notice)
  | joining (cfg_ : Config)
  | client (cfg_ : Config) (loop : ClientLoop) (untold : List DatagramObservation)
  | listening (cfg_ : Config)
  | accepting (cfg_ : Config)
  | server (cfg_ : Config) (stream : List UInt8) (loop : ServerLoop) (untold : List DatagramObservation)
  | opening
  | producing (destination : SockAddrIn) (loop : ProducerLoop)
  /-- `run` has returned from in front of its loop. -/
  | returned
  | leaving (state : TunnelState) (detail : Text) (left : TunnelLoop)
  | reporting (notice : Notice) (left : TunnelLoop)
  | ended (left : TunnelLoop)

/-- The loop that the thread is in or has left. -/
def ThreadPoint.tunnelLoop : ThreadPoint → TunnelLoop
  | .client cfg_ loop _ => .client cfg_ loop
  | .server cfg_ stream loop _ => .server cfg_ stream loop
  | .leaving _ _ left | .reporting _ left | .ended left => left
  | .created | .announcing _ | .constructing | .connecting _ | .announcingConnected _ _ | .joining _
  | .listening _ | .accepting _ | .opening | .producing _ _ | .returned => .none

def ThreadPoint.untold : ThreadPoint → List DatagramObservation
  | .client _ _ untold => untold
  | .server _ _ _ untold => untold
  | .created | .announcing _ | .constructing | .connecting _ | .announcingConnected _ _ | .joining _
  | .listening _ | .accepting _ | .opening | .producing _ _ | .returned | .leaving _ _ _ | .reporting _ _
  | .ended _ => []

/-- The body that the runtime sees. -/
def ThreadPoint.body (client : Bool) : ThreadPoint → BodyPoint
  | .created => .entry
  | .announcing notice | .announcingConnected _ notice => .announcing notice
  | .constructing | .connecting _ | .returned => .working (!client)
  | .joining _ | .client _ _ _ | .listening _ | .accepting _ | .server _ _ _ _ | .opening
  | .producing _ _ => .working true
  | .leaving state detail _ => .leaving state detail
  | .reporting notice _ => .reporting notice
  | .ended _ => .ended

inductive ThreadEvent where
  | begin
  | published
  | construct (failure : Option (SetupCall × Nat))
  | connect (found : ConnectEnvironment) (fuel : Nat)
  | join (failure : Option Nat)
  | client (event : ClientEvent)
  | listen (failure : Option ListenFailure)
  | accept (accepted : Accepted)
  | server (event : ServerEvent)
  | setUp (found : DatagramProducer.Environment)
  | producer (event : ProducerEvent)
  /-- `on_datagram` is called. -/
  | observe
  | leave
  | conclude

/-- What a pass has added to the observations. -/
def newObservations (before after : List DatagramObservation) : List DatagramObservation :=
  after.drop before.length

/-- The last transition when `run` has returned. -/
def Worker.farewell (worker : Worker) : Text :=
  if worker.stop_requested then ascii "Stopped by request"
  else match worker.snapshot.kind with
    | .tunnel => ascii "Tunnel finished"
    | .producer => ascii "Producer finished"

/-- What follows the end of a loop; a process that aborts takes no further step. -/
def afterLoop (worker : Worker) (left : TunnelLoop) : LoopStatus → Option ThreadPoint
  | .returned => some (.leaving .stopped worker.farewell left)
  | .threw what => some (.leaving .failed what left)
  | .running | .aborted | .undefined => none

section

variable (platform : Platform) (clock : Clock) (worker : Worker)

/-- The tunneler and the producer are constructed inside the `try` block. -/
def constructBody (failure : Option (SetupCall × Nat)) : Option ThreadPoint :=
  match worker.snapshot.kind with
  | .producer =>
      match DatagramProducer.create worker.config worker.options with
      | .error what => some (.leaving .failed what .none)
      | .ok _ => some .opening
  | .tunnel =>
      match resolveInterface platform.interfaces worker.config with
      | .error what => some (.leaving .failed what .none)
      | .ok cfg_ =>
          match failure with
          | some (call, error_code) =>
              if call ∈ setupCalls cfg_ then
                some (.leaving .failed (setupError cfg_ error_code call) .none)
              else none
          | none => some (if cfg_.is_client_ then .connecting cfg_ else .listening cfg_)

/-- The step of a thread. A pass of a loop that has begun finishes, so a stop request rules
no pass out; but only a stop request makes a test of the token end the loop. The observer is
told of a pass before the next one begins. -/
def threadStep (point : ThreadPoint) (event : ThreadEvent) : Option (Worker × ThreadPoint) :=
  open ManagedTunnelRuntime in
  match point, event with
  | .created, .begin =>
      if worker.snapshot.kind = .tunnel ∧ worker.config.is_client_ then
        some ({ worker with started_at := clock.steady }, .constructing)
      else
        let started := if worker.snapshot.kind = .tunnel then clock.steady else worker.started_at
        let running := transition { worker with started_at := started } .running (ascii "Running")
        some (running, .announcing (transitionNotice running))
  | .announcing _, .published => some (worker, .constructing)
  | .constructing, .construct failure => (constructBody platform worker failure).map (worker, ·)
  | .connecting cfg_, .connect found fuel =>
      match (connectClientWithTimeout cfg_ found fuel).2 with
      | none => none
      | some (.error what) => some (worker, .leaving .failed what .none)
      | some (.ok true) =>
          let connected := transition worker .connected (endpointDetail "Connected" worker.config)
          some (connected, .announcingConnected cfg_ (transitionNotice connected))
      | some (.ok false) => if worker.stop_requested then some (worker, .returned) else none
  | .announcingConnected cfg_ _, .published => some (worker, .joining cfg_)
  | .joining cfg_, .join failure =>
      match failure with
      | some error_code => some (worker, .leaving .failed (cannotJoin cfg_ error_code) .none)
      | none => some (worker, .client cfg_ (.start platform.order cfg_) [])
  | .client cfg_ loop [], .client event =>
      if event = .stop_requested ∧ !worker.stop_requested then none
      else
        ((runClient platform.build platform.order).step loop event).map fun next =>
          (worker, .client cfg_ next (newObservations loop.observations next.observations))
  | .client cfg_ loop (observation :: untold), .observe =>
      some (worker.recordDatagram clock observation, .client cfg_ loop untold)
  | .listening cfg_, .listen failure =>
      match failure with
      | some failure => some (worker, .leaving .failed (failure.what cfg_) .none)
      | none => some (worker, .accepting cfg_)
  | .accepting cfg_, .accept accepted =>
      match accepted with
      | .timed_out => some (worker, .accepting cfg_)
      | .failed error_code => some (worker, .leaving .failed (cannotAccept error_code) .none)
      | .connection _ (some error_code) => some (worker, .leaving .failed (cannotTimeOut error_code) .none)
      | .connection stream none =>
          some (worker, .server cfg_ stream (.start (pubGroup platform cfg_) stream) [])
      | .stop_requested => if worker.stop_requested then some (worker, .returned) else none
  | .server cfg_ stream loop [], .server event =>
      if event = .stop_requested ∧ !worker.stop_requested then none
      else
        ((runServer platform.order cfg_.use_clt_grp_).step loop event).map fun next =>
          (worker, .server cfg_ stream next (newObservations loop.observations next.observations))
  | .server cfg_ stream loop (observation :: untold), .observe =>
      some (worker.recordDatagram clock observation, .server cfg_ stream loop untold)
  | .opening, .setUp found =>
      match DatagramProducer.setUp worker.config found with
      | .error what => some (worker, .leaving .failed what .none)
      | .ok destination => some (worker, .producing destination .start)
  | .producing destination loop, .producer event =>
      if event = .request_stop then none
      else
        ((runProducer worker.options destination).step
          { loop with stop_requested := worker.stop_requested } event).map fun next =>
            (worker, .producing destination next)
  | .client cfg_ loop [], .leave => (afterLoop worker (.client cfg_ loop) loop.status).map (worker, ·)
  | .server cfg_ stream loop [], .leave =>
      (afterLoop worker (.server cfg_ stream loop) loop.status).map (worker, ·)
  | .producing _ loop, .leave => (afterLoop worker .none loop.status).map (worker, ·)
  | .returned, .leave => some (worker, .leaving .stopped worker.farewell .none)
  | .leaving state detail left, .conclude =>
      let last := transition worker state detail
      some (last, .reporting (transitionNotice last) left)
  | .reporting _ left, .published => some (worker, .ended left)
  | _, _ => none

end

/-! ## All threads together -/

structure Supervised where
  runtime : ManagedTunnelRuntime
  threads : WorkerPtr → ThreadPoint := fun _ => .created

inductive SupervisedLabel where
  | runtime (label : RuntimeLabel)
  | thread (worker : WorkerPtr) (event : ThreadEvent)

/-- A label that is not a worker's. -/
def RuntimeLabel.isWorker : RuntimeLabel → Bool
  | .worker _ _ => true
  | .tick _ | .configure _ | .call _ _ | .advance _ | .threadFails _ _ => false

namespace Supervised

def setThread (system : Supervised) (worker : WorkerPtr) (value : Worker) (point : ThreadPoint) :
    Supervised where
  runtime := system.runtime.setWorker worker { value with body := point.body value.isClientTunnel }
  threads := Function.update system.threads worker point

def step (platform : Platform) (system : Supervised) : SupervisedLabel → Option Supervised
  | .runtime label =>
      if label.isWorker then none
      else (system.runtime.step label).map fun runtime => { system with runtime := runtime }
  | .thread worker event =>
      if (system.runtime.heap worker).body = .absent then none
      else (threadStep platform system.runtime.clock (system.runtime.heap worker) (system.threads worker)
        event).map fun (value, point) => system.setThread worker value point

end Supervised

def supervised (platform : Platform) : Machine Supervised SupervisedLabel := ⟨Supervised.step platform⟩

end DatagramTunneler
