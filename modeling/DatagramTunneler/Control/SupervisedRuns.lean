import DatagramTunneler.Control.FinishedWorkers
import DatagramTunneler.Control.WorkerRefinement

/-! Runs of the runtime with its threads. A step of a thread is a few steps of the runtime
as it was modelled by itself, so each of these runs is one of those, and what the worker
has recorded is what its loop has observed. -/

set_option autoImplicit false

namespace DatagramTunneler

open Foundation ManagedTunnelRuntime

section Workers

variable {runtime next : ManagedTunnelRuntime} {worker : WorkerPtr}

private theorem setWorker_heap (runtime : ManagedTunnelRuntime) (worker : WorkerPtr) :
    runtime.setWorker worker (runtime.heap worker) = runtime := by
  unfold setWorker
  rw [Function.update_eq_self]

private theorem setWorker_setWorker (runtime : ManagedTunnelRuntime) (worker : WorkerPtr) (first last : Worker) :
    (runtime.setWorker worker first).setWorker worker last = runtime.setWorker worker last := by
  unfold setWorker
  simp only [Function.update_idem]

/-- The reports of one thread, as steps of the runtime. -/
theorem exec_worker {events : List WorkerEvent} {value : Worker}
    (ran : (workerBody runtime.clock).exec (runtime.heap worker) events = some value) :
    managedTunnelRuntime.exec runtime (events.map (.worker worker)) =
      some (runtime.setWorker worker value) := by
  induction events generalizing runtime with
  | nil =>
      cases ran
      rw [setWorker_heap]
      rfl
  | cons event events ih =>
      obtain ⟨middle, moved, ran⟩ := (Machine.exec_cons_iff _).mp ran
      have stepped : managedTunnelRuntime.step runtime (.worker worker event) =
          some (runtime.setWorker worker middle) := Option.map_eq_some_iff.mpr ⟨middle, moved, rfl⟩
      have same : (runtime.setWorker worker middle).heap worker = middle := setWorker_heap_self ..
      have rest := @ih (runtime.setWorker worker middle) (by rw [same]; exact ran)
      rw [setWorker_setWorker] at rest
      exact (Machine.exec_cons_iff _).mpr ⟨_, stepped, rest⟩

private theorem recorded_map_worker (worker : WorkerPtr) (clock : Clock) (events : List WorkerEvent) :
    recorded worker clock (events.map (.worker worker)) =
      (reportedDatagrams events).map fun observation => (clock, observation) := by
  induction events with
  | nil => rfl
  | cons event events ih =>
      cases event with
      | datagram observation =>
          have listed : reportedDatagrams (.datagram observation :: events) =
              observation :: reportedDatagrams events := rfl
          rw [List.map_cons, recorded, if_pos rfl, ih, listed, List.map_cons]
      | begin | connected | finished | failed | conclude | published => exact ih

private theorem recorded_map_other {other : WorkerPtr} (ne : other ≠ worker) (clock : Clock)
    (events : List WorkerEvent) : recorded worker clock (events.map (.worker other)) = [] := by
  induction events with
  | nil => rfl
  | cons event events ih => rw [List.map_cons, recorded_worker_of_ne ne, ih]

private theorem recorded_append {first last : List RuntimeLabel}
    (ran : managedTunnelRuntime.exec runtime first = some next) :
    recorded worker runtime.clock (first ++ last) =
      recorded worker runtime.clock first ++ recorded worker next.clock last := by
  induction first generalizing runtime with
  | nil =>
      cases ran
      rfl
  | cons label first ih =>
      obtain ⟨middle, stepped, ran⟩ := (Machine.exec_cons_iff _).mp ran
      rw [List.cons_append, recorded_cons stepped, ih ran, recorded_cons stepped first, List.append_assoc]

/-- What a step that is not a thread's does to a worker. -/
theorem worker_of_callerStep (sound : Sound runtime) {label : RuntimeLabel}
    (stepped : runtime.step label = some next) (caller : label.isWorker = false) (worker : WorkerPtr) :
    (runtime.heap worker).body = .absent ∧
        ((next.heap worker).body = .absent ∨ (next.heap worker).body = .entry) ∨
      (runtime.heap worker).body ≠ .absent ∧ (runtime.heap worker).Persists (next.heap worker) ∧
        (next.heap worker).body = (runtime.heap worker).body := by
  have unchanged : next.heap worker = runtime.heap worker →
      (runtime.heap worker).body = .absent ∧
          ((next.heap worker).body = .absent ∨ (next.heap worker).body = .entry) ∨
        (runtime.heap worker).body ≠ .absent ∧ (runtime.heap worker).Persists (next.heap worker) ∧
          (next.heap worker).body = (runtime.heap worker).body := by
    intro same
    rw [same]
    by_cases absent : (runtime.heap worker).body = .absent
    · exact .inl ⟨absent, .inl absent⟩
    · exact .inr ⟨absent, .refl _, rfl⟩
  have soundNext := sound.step stepped
  cases stepped_of_step stepped with
  | tick | configure | call | threadFails => exact unchanged rfl
  | worker => cases caller
  | @advance who call point shared state running advanced =>
      by_cases inside : worker < runtime.made
      · rcases callChange_of_callStep sound running advanced inside with same | ⟨changed, -⟩
        · exact unchanged same
        · rw [setCaller_heap]
          by_cases absent : (runtime.heap worker).body = .absent
          · refine .inl ⟨absent, ?_⟩
            generalize runtime.heap worker = before at changed absent
            generalize shared.heap worker = after at changed
            cases changed with
            | stopped => exact .inl (by simpa [transition] using absent)
            | stopRequested => exact .inl (by simpa using absent)
            | joined joinable ended => exact .inl absent
            | constructed => exact .inr rfl
            | assigned => exact .inl absent
          · exact .inr ⟨absent, persists_of_callChange changed absent⟩
      · left
        rw [sound.fresh worker (Nat.not_lt.mp inside)]
        refine ⟨rfl, .inl ?_⟩
        by_cases made : worker < shared.made
        · rw [setCaller_heap]
          exact absent_of_made advanced inside made
        · rw [soundNext.fresh worker (Nat.not_lt.mp made)]

end Workers

namespace Supervised

variable {platform : Platform} {configuration : TunnelConfiguration} {system next : Supervised}

/-- The runtime has come where it is by these steps of its own, and its workers are what their
threads take them for. -/
structure Refines (platform : Platform) (configuration : TunnelConfiguration) (labels : List RuntimeLabel)
    (system : Supervised) : Prop where
  ran : managedTunnelRuntime.exec { configuration := configuration } labels = some system.runtime
  created : ∀ worker, (system.runtime.heap worker).body = .absent → system.threads worker = .created
  sound : ∀ worker, (system.runtime.heap worker).body ≠ .absent →
    (system.runtime.heap worker).body =
        (system.threads worker).body (system.runtime.heap worker).isClientTunnel ∧
      ThreadSound platform (system.runtime.heap worker) (system.threads worker)
  observed : ∀ worker, (system.threads worker).Observed ((recorded worker {} labels).map (·.2))

theorem Refines.start (platform : Platform) (configuration : TunnelConfiguration) :
    Refines platform configuration [] { runtime := { configuration := configuration } } where
  ran := rfl
  created := fun _ _ => rfl
  sound := fun _ present => absurd rfl present
  observed := fun _ => rfl

variable {labels : List RuntimeLabel}

/-- A step of a caller or of the environment. -/
theorem Refines.runtime (refines : Refines platform configuration labels system) {label : RuntimeLabel}
    (caller : label.isWorker = false) {runtime : ManagedTunnelRuntime}
    (stepped : system.runtime.step label = some runtime) :
    Refines platform configuration (labels ++ [label]) { system with runtime := runtime } := by
  have sound := sound_of_exec refines.ran
  have changes := worker_of_callerStep sound stepped caller
  have silent : ∀ worker clock, recorded worker clock [label] = [] := by
    intro worker clock
    cases label with
    | worker => cases caller
    | tick | configure | call | advance | threadFails => rfl
  refine ⟨(Machine.exec_snoc_iff _).mpr ⟨_, refines.ran, stepped⟩, ?_, ?_, ?_⟩
  · intro worker absent
    rcases changes worker with ⟨before, -⟩ | ⟨present, -, same⟩
    · exact refines.created worker before
    · exact absurd (same.symm.trans absent) present
  · intro worker present
    rcases changes worker with ⟨before, after⟩ | ⟨before, persists, same⟩
    · have entry := after.resolve_left present
      have thread := refines.created worker before
      dsimp only
      rw [thread, entry]
      exact ⟨rfl, trivial⟩
    · obtain ⟨body, sound⟩ := refines.sound worker before
      dsimp only
      rw [same, persists.isClientTunnel]
      exact ⟨body, sound.persists persists⟩
  · intro worker
    rw [recorded_append refines.ran, silent, List.append_nil]
    exact refines.observed worker

/-- A step of a thread. -/
theorem Refines.thread (refines : Refines platform configuration labels system) {worker : WorkerPtr}
    (present : (system.runtime.heap worker).body ≠ .absent) {event : ThreadEvent} {value : Worker}
    {point : ThreadPoint}
    (stepped : threadStep platform system.runtime.clock (system.runtime.heap worker)
      (system.threads worker) event = some (value, point)) :
    ∃ more, Refines platform configuration (labels ++ more) (system.setThread worker value point) := by
  obtain ⟨body, sound⟩ := refines.sound worker present
  obtain ⟨events, reports⟩ := threadStep_reports sound body stepped
  have ran := exec_worker reports.ran
  have started : ∀ client, point.body client ≠ .absent := by
    intro client absent
    cases point <;> cases absent
  refine ⟨events.map (.worker worker), (Machine.exec_append_iff _).mpr ⟨_, refines.ran, ran⟩, ?_, ?_, ?_⟩
  · intro other absent
    by_cases same : other = worker
    · subst same
      rw [setThread, setWorker_heap_self] at absent
      exact absurd absent (started _)
    · rw [setThread, setWorker_heap_of_ne _ _ same] at absent
      exact (Function.update_of_ne same _ _).trans (refines.created other absent)
  · intro other here
    by_cases same : other = worker
    · subst same
      simp only [setThread, setWorker_heap_self, Function.update_self]
      exact ⟨rfl, reports.sound.persists ⟨rfl, rfl, rfl, id⟩⟩
    · simp only [setThread, setWorker_heap_of_ne _ _ same, Function.update_of_ne same] at here ⊢
      exact refines.sound other here
  · intro other
    rw [recorded_append refines.ran, List.map_append]
    by_cases same : other = worker
    · subst same
      rw [recorded_map_worker, List.map_map]
      simp only [setThread, Function.update_self]
      exact (List.map_id _).symm ▸ reports.observed _ (refines.observed other)
    · rw [recorded_map_other (Ne.symm same), List.map_nil, List.append_nil]
      simp only [setThread, Function.update_of_ne same]
      exact refines.observed other

theorem Refines.step (refines : Refines platform configuration labels system) {label : SupervisedLabel}
    (stepped : (supervised platform).step system label = some next) :
    ∃ more, Refines platform configuration (labels ++ more) next := by
  have stepped : Supervised.step platform system label = some next := stepped
  cases label with
  | runtime label =>
      simp only [Supervised.step] at stepped
      split_ifs at stepped with worker
      obtain ⟨runtime, moved, rfl⟩ := Option.map_eq_some_iff.mp stepped
      exact ⟨_, refines.runtime (Bool.eq_false_iff.mpr worker) moved⟩
  | thread worker event =>
      simp only [Supervised.step] at stepped
      split_ifs at stepped with absent
      obtain ⟨⟨value, point⟩, moved, rfl⟩ := Option.map_eq_some_iff.mp stepped
      exact refines.thread absent moved

theorem Refines.exec {events : List SupervisedLabel} (refines : Refines platform configuration labels system)
    (ran : (supervised platform).exec system events = some next) :
    ∃ more, Refines platform configuration (labels ++ more) next := by
  induction events generalizing labels system with
  | nil =>
      cases ran
      exact ⟨[], by rwa [List.append_nil]⟩
  | cons event events ih =>
      obtain ⟨middle, stepped, ran⟩ := (Machine.exec_cons_iff _).mp ran
      obtain ⟨more, refines⟩ := refines.step stepped
      obtain ⟨rest, refines⟩ := ih refines ran
      exact ⟨more ++ rest, by rwa [← List.append_assoc]⟩

private theorem Refines.of_exec {events : List SupervisedLabel}
    (ran : (supervised platform).exec { runtime := { configuration := configuration } } events = some system) :
    ∃ labels, Refines platform configuration labels system := by
  obtain ⟨labels, refines⟩ := (Refines.start platform configuration).exec ran
  exact ⟨_, refines⟩

/-- The loop that a thread is in, or has left, has made its way there by itself. -/
theorem Refines.loop_ran (refines : Refines platform configuration labels system) (worker : WorkerPtr) :
    (system.threads worker).tunnelLoop.Ran platform := by
  by_cases absent : (system.runtime.heap worker).body = .absent
  · rw [refines.created worker absent]
    trivial
  · exact (refines.sound worker absent).2.ran

/-- What a worker has recorded is what its loop has observed, but for what is still untold. -/
theorem Refines.records (refines : Refines platform configuration labels system) (worker : WorkerPtr) :
    ∃ recordings : List Recording,
      recordings.map (·.2) ++ (system.threads worker).untold =
          (system.threads worker).tunnelLoop.observations ∧
        (system.runtime.heap worker).Records recordings :=
  ⟨_, refines.observed worker, records_of_exec refines.ran⟩

end Supervised

theorem Worker.Records.counts {worker : Worker} {recordings : List Recording}
    {observations : List DatagramObservation} (records : worker.Records recordings)
    (observed : recordings.map (·.2) = observations) :
    worker.snapshot.metrics.datagram_count = UInt64.ofNat (observations.map (·.bytes)).length ∧
      worker.snapshot.metrics.byte_count = UInt64.ofNat (observations.map (·.bytes)).sum := by
  subst observed
  rw [records.datagram_count, records.byte_count]
  simp [Function.comp_def]

/-- The two ends of a tunnel agree: when a server worker has read all that a client worker on
another host has sent, neither loop has failed and both observers have been told of all passes,
both show the same numbers of datagrams and of bytes, whatever else has happened on the two
hosts and whether the workers are still in their loops or not. -/
theorem supervised_agreement {ingress egress : Platform} (order : egress.order = ingress.order)
    {here there : TunnelConfiguration} {first last : List SupervisedLabel} {client server : Supervised}
    (sent : (supervised ingress).exec { runtime := { configuration := here } } first = some client)
    (received : (supervised egress).exec { runtime := { configuration := there } } last = some server)
    {sender receiver : WorkerPtr} {cfg cfg_ : Config} {loop : ClientLoop} {loop_ : ServerLoop}
    (sending : (client.threads sender).tunnelLoop = .client cfg loop)
    (receiving : (server.threads receiver).tunnelLoop = .server cfg_ loop.tcp loop_)
    (told : (client.threads sender).untold = []) (told_ : (server.threads receiver).untold = [])
    (unfailed : loop.status = .running ∨ loop.status = .returned)
    (unfailed_ : loop_.status = .running ∨ loop_.status = .returned) (drained : loop_.pending = []) :
    (server.runtime.heap receiver).snapshot.metrics.datagram_count =
        (client.runtime.heap sender).snapshot.metrics.datagram_count ∧
      (server.runtime.heap receiver).snapshot.metrics.byte_count =
        (client.runtime.heap sender).snapshot.metrics.byte_count ∧
      loop_.published.length = loop.observations.length := by
  obtain ⟨labels, refines⟩ := Supervised.Refines.of_exec sent
  obtain ⟨labels_, refines_⟩ := Supervised.Refines.of_exec received
  have come := refines.loop_ran sender
  have come_ := refines_.loop_ran receiver
  rw [sending] at come
  rw [receiving] at come_
  obtain ⟨passes, ran⟩ := come
  obtain ⟨arrivals, ran_⟩ := come_
  obtain ⟨frames, forwarded⟩ := ClientLoop.forwarded_of_exec ran unfailed
  rw [order, forwarded.tcp] at ran_
  obtain ⟨front, ending, decoded, delivered⟩ := ServerLoop.delivered_of_exec
    (announcesWithin_encodeFrames forwarded.fits) ran_ unfailed_ drained
  have encoded := decodeStream_encodeFrames ingress.order frames fun datagram inside =>
    (forwarded.fits datagram inside).1
  obtain ⟨rfl, -⟩ := Decoded.mk.inj (encoded.symm.trans decoded)
  have bytes : loop_.observations.map (·.bytes) = loop.observations.map (·.bytes) := by
    rw [delivered.observed, forwarded.observed, List.map_map]
    rfl
  obtain ⟨recordings, observed, records⟩ := refines.records sender
  obtain ⟨recordings_, observed_, records_⟩ := refines_.records receiver
  rw [told, List.append_nil, sending] at observed
  rw [told_, List.append_nil, receiving] at observed_
  obtain ⟨datagrams, total⟩ := records.counts observed
  obtain ⟨datagrams_, total_⟩ := records_.counts observed_
  rw [datagrams, datagrams_, total, total_]
  simp only [TunnelLoop.observations, bytes, true_and]
  rw [delivered.published, forwarded.observed, List.length_map, List.length_map]

/-! ## A tunnel between two hosts -/

def sampleHost : Platform := ⟨⟨true, false⟩, .little, [], fun _ => []⟩

/-- A configuration with one client, named `a`. -/
def soleClient : TunnelConfiguration where
  tunnels := [{
    alias_ := ascii "a"
    config := {
      is_client_ := true
      udp_iface_ip_ := ascii "10.0.0.1"
      udp_dst_ip_ := ascii "239.1.2.3"
      udp_dst_port_ := 5000
      tcp_srv_ip_ := ascii "10.0.0.2"
      tcp_srv_port_ := 14052 } }]

/-- The connection is there at once. -/
def connectedAtOnce : ConnectEnvironment where
  codes := ⟨115, 11, 114, 22⟩
  connected := none
  readings := fun _ => 0
  steady := fun _ => Int.le_refl _
  stop_requested := fun _ => false
  lasting := fun _ stopped => stopped
  selects := fun _ => .timed_out

def startOf (alias_ : Text) : List SupervisedLabel :=
  .runtime (.call 0 (.start alias_)) :: List.replicate 7 (.runtime (.advance 0))

def clientRun : List SupervisedLabel :=
  startOf (ascii "a") ++ [.thread 0 .begin, .thread 0 (.construct none), .thread 0 (.connect connectedAtOnce 0),
    .thread 0 .published, .thread 0 (.join none), .thread 0 (.client (.datagram [7, 8] 9 [.accepted 20])),
    .thread 0 .observe]

def serverRun (stream : List UInt8) : List SupervisedLabel :=
  startOf (ascii "a") ++ [.thread 0 .begin, .thread 0 .published, .thread 0 (.construct none),
    .thread 0 (.listen none), .thread 0 (.accept (.connection stream none)),
    .thread 0 (.server (.recv ⟨2, 0⟩)), .thread 0 (.server (.recv ⟨16, 0⟩)), .thread 0 (.server (.recv ⟨2, 0⟩)),
    .thread 0 .observe]

def sampleWire : List UInt8 := [1, 2, 239, 1, 2, 3, 136, 19, 2, 0, 9, 0, 0, 0, 0, 0, 0, 0, 7, 8]

/-- In the loop of a client, with these bytes sent and nothing untold. -/
def ThreadPoint.hasSent (bytes : List UInt8) : ThreadPoint → Bool
  | .client _ loop [] => decide (loop.tcp = bytes ∧ loop.status = .running)
  | _ => false

/-- In the loop of a server, with these bytes read up to the last one and nothing untold. -/
def ThreadPoint.hasReceived (bytes : List UInt8) : ThreadPoint → Bool
  | .server _ stream loop [] => decide (stream = bytes ∧ loop.status = .running ∧ loop.pending = [])
  | _ => false

private theorem ThreadPoint.hasSent_spec {point : ThreadPoint} {bytes : List UInt8}
    (sent : point.hasSent bytes = true) :
    ∃ cfg loop, point.tunnelLoop = .client cfg loop ∧ point.untold = [] ∧ loop.tcp = bytes ∧
      loop.status = .running := by
  unfold ThreadPoint.hasSent at sent
  split at sent
  · next cfg loop => exact ⟨cfg, loop, rfl, rfl, of_decide_eq_true sent⟩
  · cases sent

private theorem ThreadPoint.hasReceived_spec {point : ThreadPoint} {bytes : List UInt8}
    (received : point.hasReceived bytes = true) :
    ∃ cfg loop, point.tunnelLoop = .server cfg bytes loop ∧ point.untold = [] ∧ loop.status = .running ∧
      loop.pending = [] := by
  unfold ThreadPoint.hasReceived at received
  split at received
  · next cfg stream loop =>
      obtain ⟨rfl, running, drained⟩ := of_decide_eq_true received
      exact ⟨cfg, loop, rfl, rfl, running, drained⟩
  · cases received

theorem supervised_agreement_sample : ∃ client server,
    (supervised sampleHost).exec { runtime := { configuration := soleClient } } clientRun = some client ∧
      (supervised sampleHost).exec { runtime := { configuration := soleServer } } (serverRun sampleWire) =
        some server ∧
      (server.runtime.heap 0).snapshot.metrics.datagram_count =
        (client.runtime.heap 0).snapshot.metrics.datagram_count ∧
      (server.runtime.heap 0).snapshot.metrics.byte_count =
        (client.runtime.heap 0).snapshot.metrics.byte_count := by
  have sent : ((supervised sampleHost).exec { runtime := { configuration := soleClient } } clientRun).map
      (fun system => (system.threads 0).hasSent sampleWire) = some true := by decide
  have received : ((supervised sampleHost).exec { runtime := { configuration := soleServer } }
      (serverRun sampleWire)).map (fun system => (system.threads 0).hasReceived sampleWire) = some true := by decide
  obtain ⟨client, ran, sending⟩ := Option.map_eq_some_iff.mp sent
  obtain ⟨server, ran_, receiving⟩ := Option.map_eq_some_iff.mp received
  obtain ⟨cfg, loop, left, told, tcp, running⟩ := ThreadPoint.hasSent_spec sending
  obtain ⟨cfg_, loop_, left_, told_, running_, drained⟩ := ThreadPoint.hasReceived_spec receiving
  rw [← tcp] at left_
  obtain ⟨datagrams, bytes, -⟩ :=
    supervised_agreement rfl ran ran_ left left_ told told_ (.inl running) (.inl running_) drained
  exact ⟨client, server, ran, ran_, datagrams, bytes⟩

end DatagramTunneler
