import DatagramTunneler.Control.ManagedTunnelRuntime

/-! What one step of the runtime can do, said once. A step of a call is one of the
cases of `CallStep`, a step of a thread function one of those of `BodyStep`; the
invariants of the modules above are case analyses of these two. -/

set_option autoImplicit false

namespace DatagramTunneler

open Foundation

namespace ManagedTunnelRuntime

section Updates

variable (runtime : ManagedTunnelRuntime)

@[simp] theorem setWorker_heap_self (worker : WorkerPtr) (value : Worker) :
    (runtime.setWorker worker value).heap worker = value := by
  simp [setWorker]

theorem setWorker_heap_of_ne {worker other : WorkerPtr} (value : Worker) (ne : other ≠ worker) :
    (runtime.setWorker worker value).heap other = runtime.heap other := by
  simp [setWorker, ne]

@[simp] theorem setWorker_workers_ (worker : WorkerPtr) (value : Worker) :
    (runtime.setWorker worker value).workers_ = runtime.workers_ := rfl

@[simp] theorem setWorker_made (worker : WorkerPtr) (value : Worker) :
    (runtime.setWorker worker value).made = runtime.made := rfl

@[simp] theorem setWorker_callers (worker : WorkerPtr) (value : Worker) :
    (runtime.setWorker worker value).callers = runtime.callers := rfl

@[simp] theorem setCaller_heap (caller : Nat) (state : CallerState) :
    (runtime.setCaller caller state).heap = runtime.heap := rfl

@[simp] theorem setCaller_workers_ (caller : Nat) (state : CallerState) :
    (runtime.setCaller caller state).workers_ = runtime.workers_ := rfl

@[simp] theorem setCaller_made (caller : Nat) (state : CallerState) :
    (runtime.setCaller caller state).made = runtime.made := rfl

@[simp] theorem setCaller_callers_self (caller : Nat) (state : CallerState) :
    (runtime.setCaller caller state).callers caller = state := by
  simp [setCaller]

theorem setCaller_callers_of_ne {caller other : Nat} (state : CallerState) (ne : other ≠ caller) :
    (runtime.setCaller caller state).callers other = runtime.callers other := by
  simp [setCaller, ne]

end Updates

/-! ## Steps of a call -/

/-- One step of a call from a point: what is shared afterwards and where the call is. -/
inductive CallStep (runtime : ManagedTunnelRuntime) (call : ControlCall) :
    CallPoint → ManagedTunnelRuntime → CallerState → Prop where
  | notManaged : runtime.workers_[call.key]? = none →
      CallStep runtime call .requestStop runtime (.threw (notManaged call))
  | alreadyFinished {worker : WorkerPtr} : runtime.workers_[call.key]? = some worker →
      (runtime.heap worker).snapshot.state.finished = true →
      CallStep runtime call .requestStop runtime (afterStop call)
  | stopped {worker : WorkerPtr} : runtime.workers_[call.key]? = some worker →
      (runtime.heap worker).snapshot.state.finished = false →
      CallStep runtime call .requestStop
        (runtime.setWorker worker
          (transition (runtime.heap worker) .stopping (ascii "Stopping")).request_stop)
        (.running call (.publishStop
          ⟨(transition (runtime.heap worker) .stopping (ascii "Stopping")).snapshot, .info⟩))
  | stopPublished {notice : Notice} :
      CallStep runtime call (.publishStop notice) runtime (afterStop call)
  | notFound : runtime.workers_[call.key]? = none →
      CallStep runtime call .find runtime (.threw (ManagedTunnelRuntime.notManaged call))
  | found {worker : WorkerPtr} : runtime.workers_[call.key]? = some worker →
      CallStep runtime call .find
        (runtime.setWorker worker (runtime.heap worker).request_stop) (.running call (.join worker))
  | joined {worker : WorkerPtr} {shared : ManagedTunnelRuntime} :
      runtime.joinThread worker = some shared →
      CallStep runtime call (.join worker) shared (.running call (.remove worker))
  | removed {worker : WorkerPtr} : runtime.workers_[call.key]? = some worker →
      CallStep runtime call (.remove worker)
        { runtime with workers_ := runtime.workers_.erase call.key } (.running call .lookup)
  | kept {worker : WorkerPtr} : runtime.workers_[call.key]? ≠ some worker →
      CallStep runtime call (.remove worker) runtime (.running call .lookup)
  | unknownTunnel {what : Text} : findTunnel runtime.configuration call.alias_ = .error what →
      CallStep runtime call .lookup runtime (.threw what)
  | needsClient {definition : NamedTunnel} :
      findTunnel runtime.configuration call.alias_ = .ok definition →
      call.kind = .producer → definition.config.is_client_ = false →
      CallStep runtime call .lookup runtime (.threw (ManagedTunnelRuntime.needsClient call))
  | lookedUp {definition : NamedTunnel} :
      findTunnel runtime.configuration call.alias_ = .ok definition →
      (call.kind = .producer → definition.config.is_client_ = true) →
      CallStep runtime call .lookup runtime (.running call (.releaseFinishedSlot definition.config))
  | slotFree {config : Config} : runtime.workers_[call.key]? = none →
      CallStep runtime call (.releaseFinishedSlot config) runtime (.running call (.emplace config))
  | slotActive {config : Config} {worker : WorkerPtr} : runtime.workers_[call.key]? = some worker →
      (runtime.heap worker).snapshot.state.active = true →
      CallStep runtime call (.releaseFinishedSlot config) runtime (.threw (alreadyActive call))
  | slotReleased {config : Config} {worker : WorkerPtr} :
      runtime.workers_[call.key]? = some worker →
      (runtime.heap worker).snapshot.state.active = false →
      CallStep runtime call (.releaseFinishedSlot config)
        { runtime with workers_ := runtime.workers_.erase call.key }
        (.running call (.joinFinished config worker))
  | finishedJoined {config : Config} {worker : WorkerPtr} {shared : ManagedTunnelRuntime} :
      runtime.joinThread worker = some shared →
      CallStep runtime call (.joinFinished config worker) shared (.running call (.emplace config))
  | emplaced {config : Config} :
      CallStep runtime call (.emplace config)
        { runtime.setWorker runtime.made (makeWorker runtime.clock call config) with
          made := runtime.made + 1
          workers_ := runtime.workers_.insertIfNew call.key runtime.made }
        (.running call (.announce runtime.made))
  | announced {worker : WorkerPtr} :
      CallStep runtime call (.announce worker) runtime
        (.running call (.publishInitial worker ⟨(runtime.heap worker).snapshot, .info⟩))
  | initialPublished {worker : WorkerPtr} {notice : Notice} :
      CallStep runtime call (.publishInitial worker notice) runtime
        (.running call (.construct worker))
  | constructed {worker : WorkerPtr} :
      CallStep runtime call (.construct worker)
        (runtime.setWorker worker
          { runtime.heap worker with body := .entry, stop_token := some false })
        (.running call (.assign worker))
  | assigned {worker : WorkerPtr} :
      CallStep runtime call (.assign worker)
        (runtime.setWorker worker { runtime.heap worker with thread := .joinable }) .returned
  | erased {what : Text} :
      CallStep runtime call (.eraseFailed what)
        { runtime with workers_ := runtime.workers_.erase call.key } (.threw what)

private theorem callStep_of_advance {runtime next : ManagedTunnelRuntime} {caller : Nat} {call : ControlCall}
    {point : CallPoint} (stepped : runtime.advance caller call point = some next) :
    ∃ shared state, CallStep runtime call point shared state ∧
      next = shared.setCaller caller state := by
  cases point with
  | requestStop =>
      simp only [advance] at stepped
      split at stepped
      · next missing => exact ⟨_, _, .notManaged missing, (Option.some.inj stepped).symm⟩
      · next worker present =>
          split_ifs at stepped with finished
          · exact ⟨_, _, .alreadyFinished present finished, (Option.some.inj stepped).symm⟩
          · exact ⟨_, _, .stopped present (Bool.eq_false_iff.mpr finished),
              (Option.some.inj stepped).symm⟩
  | publishStop notice => exact ⟨_, _, .stopPublished, (Option.some.inj stepped).symm⟩
  | find =>
      simp only [advance] at stepped
      split at stepped
      · next missing => exact ⟨_, _, .notFound missing, (Option.some.inj stepped).symm⟩
      · next worker present => exact ⟨_, _, .found present, (Option.some.inj stepped).symm⟩
  | join worker =>
      obtain ⟨shared, joined, reached⟩ := Option.map_eq_some_iff.mp stepped
      exact ⟨_, _, .joined joined, reached.symm⟩
  | remove worker =>
      simp only [advance] at stepped
      split_ifs at stepped with present
      · exact ⟨_, _, .removed present, (Option.some.inj stepped).symm⟩
      · exact ⟨_, _, .kept present, (Option.some.inj stepped).symm⟩
  | lookup =>
      simp only [advance] at stepped
      split at stepped
      · next what unknown => exact ⟨_, _, .unknownTunnel unknown, (Option.some.inj stepped).symm⟩
      · next definition known =>
          split_ifs at stepped with refused
          · rw [Bool.not_eq_true'] at refused
            exact ⟨_, _, .needsClient known refused.1 refused.2, (Option.some.inj stepped).symm⟩
          · rw [Bool.not_eq_true', not_and, Bool.not_eq_false] at refused
            exact ⟨_, _, .lookedUp known refused, (Option.some.inj stepped).symm⟩
  | releaseFinishedSlot config =>
      simp only [advance] at stepped
      split at stepped
      · next missing => exact ⟨_, _, .slotFree missing, (Option.some.inj stepped).symm⟩
      · next worker present =>
          split_ifs at stepped with active
          · exact ⟨_, _, .slotActive present active, (Option.some.inj stepped).symm⟩
          · exact ⟨_, _, .slotReleased present (Bool.eq_false_iff.mpr active),
              (Option.some.inj stepped).symm⟩
  | joinFinished config worker =>
      obtain ⟨shared, joined, reached⟩ := Option.map_eq_some_iff.mp stepped
      exact ⟨_, _, .finishedJoined joined, reached.symm⟩
  | emplace config => exact ⟨_, _, .emplaced, (Option.some.inj stepped).symm⟩
  | announce worker => exact ⟨_, _, .announced, (Option.some.inj stepped).symm⟩
  | publishInitial worker notice => exact ⟨_, _, .initialPublished, (Option.some.inj stepped).symm⟩
  | construct worker => exact ⟨_, _, .constructed, (Option.some.inj stepped).symm⟩
  | assign worker => exact ⟨_, _, .assigned, (Option.some.inj stepped).symm⟩
  | eraseFailed what => exact ⟨_, _, .erased, (Option.some.inj stepped).symm⟩

/-- A join either finds nothing to join or the end of the thread. -/
theorem joinThread_cases {runtime shared : ManagedTunnelRuntime} {worker : WorkerPtr}
    (joined : runtime.joinThread worker = some shared) :
    ((runtime.heap worker).thread ≠ .joinable ∧ shared = runtime) ∨
      ((runtime.heap worker).thread = .joinable ∧ (runtime.heap worker).body = .ended ∧
        shared = runtime.setWorker worker { runtime.heap worker with thread := .joined }) := by
  unfold joinThread at joined
  split_ifs at joined with joinable ended
  · exact .inr ⟨joinable, ended, (Option.some.inj joined).symm⟩
  · exact .inl ⟨joinable, (Option.some.inj joined).symm⟩

/-! ## Steps of a thread function -/

/-- One step of a thread function. -/
inductive BodyStep (clock : Clock) (worker : Worker) : WorkerEvent → Worker → Prop where
  | connecting : worker.body = .entry → worker.isClientTunnel = true →
      BodyStep clock worker .begin
        { worker with started_at := clock.steady, body := .working false }
  | running {started_at : ℚ} : worker.body = .entry → worker.isClientTunnel = false →
      BodyStep clock worker .begin
        { transition { worker with started_at := started_at } .running (ascii "Running") with
          body := .announcing (transitionNotice
            (transition { worker with started_at := started_at } .running (ascii "Running"))) }
  | connected : worker.body = .working false →
      BodyStep clock worker .connected
        { transition worker .connected (endpointDetail "Connected" worker.config) with
          body := .announcing (transitionNotice
            (transition worker .connected (endpointDetail "Connected" worker.config))) }
  | datagram {observation : DatagramObservation} : worker.body = .working true →
      worker.snapshot.kind = .tunnel →
      BodyStep clock worker (.datagram observation) (worker.recordDatagram clock observation)
  | finished {connected : Bool} {detail : Text} : worker.body = .working connected →
      worker.canFinish = true →
      BodyStep clock worker .finished { worker with body := .leaving .stopped detail }
  | failed {connected : Bool} {what : Text} : worker.body = .working connected →
      BodyStep clock worker (.failed what) { worker with body := .leaving .failed what }
  | concluded {state : TunnelState} {detail : Text} : worker.body = .leaving state detail →
      BodyStep clock worker .conclude
        { transition worker state detail with
          body := .reporting (transitionNotice (transition worker state detail)) }
  | announced {notice : Notice} : worker.body = .announcing notice →
      BodyStep clock worker .published { worker with body := .working true }
  | reported {notice : Notice} : worker.body = .reporting notice →
      BodyStep clock worker .published { worker with body := .ended }

private theorem bodyStep_of_stepBody {clock : Clock} {worker next : Worker} {event : WorkerEvent}
    (stepped : stepBody clock worker event = some next) : BodyStep clock worker event next := by
  unfold stepBody at stepped
  split at stepped
  · next body =>
      split at stepped
      · next client => cases stepped; exact .connecting body client
      · next client => cases stepped; exact .running body (Bool.eq_false_iff.mpr client)
  · next body => cases stepped; exact .connected body
  · next body =>
      split_ifs at stepped with tunnel
      cases stepped; exact .datagram body tunnel
  · next body =>
      split at stepped
      · next finish => cases stepped; exact .finished body finish
      · cases stepped
  · next body => cases stepped; exact .failed body
  · next body => cases stepped; exact .concluded body
  · next body => cases stepped; exact .announced body
  · next body => cases stepped; exact .reported body
  · cases stepped

/-! ## Steps of the runtime -/

/-- One step of the runtime. -/
inductive Stepped (runtime : ManagedTunnelRuntime) : RuntimeLabel → ManagedTunnelRuntime → Prop where
  | tick {clock : Clock} : Stepped runtime (.tick clock) { runtime with clock := clock }
  | configure {configuration : TunnelConfiguration} :
      Stepped runtime (.configure configuration) { runtime with configuration := configuration }
  | call {caller : Nat} {call : ControlCall} :
      (∀ running point, runtime.callers caller ≠ .running running point) →
      Stepped runtime (.call caller call)
        (runtime.setCaller caller (.running call (firstPoint call)))
  | advance {caller : Nat} {call : ControlCall} {point : CallPoint} {shared : ManagedTunnelRuntime}
      {state : CallerState} : runtime.callers caller = .running call point →
      CallStep runtime call point shared state →
      Stepped runtime (.advance caller) (shared.setCaller caller state)
  | threadFails {caller : Nat} {call : ControlCall} {worker : WorkerPtr} {what : Text} :
      runtime.callers caller = .running call (.construct worker) →
      Stepped runtime (.threadFails caller what)
        (runtime.setCaller caller (.running call (.eraseFailed what)))
  | worker {worker : WorkerPtr} {event : WorkerEvent} {value : Worker} :
      BodyStep runtime.clock (runtime.heap worker) event value →
      Stepped runtime (.worker worker event) (runtime.setWorker worker value)

theorem stepped_of_step {runtime next : ManagedTunnelRuntime} {label : RuntimeLabel}
    (stepped : runtime.step label = some next) : Stepped runtime label next := by
  cases label with
  | tick clock => cases stepped; exact .tick
  | configure configuration => cases stepped; exact .configure
  | call caller call =>
      simp only [step] at stepped
      split at stepped
      · cases stepped
      all_goals
        next idle =>
          cases stepped
          exact .call fun running point busy => by rw [busy] at idle; cases idle
  | advance caller =>
      simp only [step] at stepped
      split at stepped
      · next call point running =>
          obtain ⟨shared, state, advanced, rfl⟩ := callStep_of_advance stepped
          exact .advance running advanced
      all_goals cases stepped
  | threadFails caller what =>
      simp only [step] at stepped
      split at stepped
      · next call worker running => cases stepped; exact .threadFails running
      · cases stepped
  | worker worker event =>
      obtain ⟨value, moved, rfl⟩ := Option.map_eq_some_iff.mp stepped
      exact .worker (bodyStep_of_stepBody moved)

end ManagedTunnelRuntime

end DatagramTunneler
