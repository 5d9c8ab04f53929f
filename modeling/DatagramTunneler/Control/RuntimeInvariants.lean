import DatagramTunneler.Control.RuntimeSteps

/-! What holds of the runtime under every interleaving of any number of callers with
the workers. A worker's own fields fit together (`Worker.Sound`), and the pointers
in the registry and in the calls are to workers that have been made; the worker a
call is building belongs to that call alone. -/

set_option autoImplicit false

namespace DatagramTunneler

open Foundation

/-- How the fields of a worker fit together. -/
structure Worker.Sound (worker : Worker) : Prop where
  named : worker.key = workerKey worker.snapshot.kind worker.snapshot.alias_
  token : worker.body = .absent ↔ worker.stop_token = none
  handle : worker.body = .absent → worker.thread = .empty
  unstarted : worker.body = .absent → worker.snapshot.state.finished = false
  finished : worker.snapshot.state.finished = true →
    (∃ notice, worker.body = .reporting notice) ∨ worker.body = .ended
  leaving : ∀ state detail, worker.body = .leaving state detail → state.finished = true
  joined : worker.thread = .joined → worker.body = .ended

/-- The worker a point of a call holds. -/
def CallPoint.worker? : CallPoint → Option WorkerPtr
  | .join worker | .remove worker | .joinFinished _ worker | .announce worker
  | .publishInitial worker _ | .construct worker | .assign worker => some worker
  | .requestStop | .publishStop _ | .find | .lookup | .releaseFinishedSlot _ | .emplace _
  | .eraseFailed _ => none

/-- The worker a point of a call is building: its thread does not exist yet. -/
def CallPoint.building? : CallPoint → Option WorkerPtr
  | .announce worker | .publishInitial worker _ | .construct worker => some worker
  | .join _ | .remove _ | .joinFinished _ _ | .assign _ | .requestStop | .publishStop _ | .find
  | .lookup | .releaseFinishedSlot _ | .emplace _ | .eraseFailed _ => none

/-- The worker that only this call may build or assign the thread of. -/
def CallPoint.owned? : CallPoint → Option WorkerPtr
  | .announce worker | .publishInitial worker _ | .construct worker | .assign worker => some worker
  | .join _ | .remove _ | .joinFinished _ _ | .requestStop | .publishStop _ | .find
  | .lookup | .releaseFinishedSlot _ | .emplace _ | .eraseFailed _ => none

theorem CallPoint.worker?_of_owned? {point : CallPoint} {worker : WorkerPtr}
    (owned : point.owned? = some worker) : point.worker? = some worker := by
  cases point <;> first | exact owned | cases owned

private theorem CallPoint.owned?_of_building? {point : CallPoint} {worker : WorkerPtr}
    (building : point.building? = some worker) : point.owned? = some worker := by
  cases point <;> first | exact building | cases building

namespace ManagedTunnelRuntime

structure Sound (runtime : ManagedTunnelRuntime) : Prop where
  fresh : ∀ worker, runtime.made ≤ worker → runtime.heap worker = {}
  registered : ∀ key worker, runtime.workers_[key]? = some worker →
    worker < runtime.made ∧ (runtime.heap worker).key = key
  held : ∀ caller call point worker, runtime.callers caller = .running call point →
    point.worker? = some worker → worker < runtime.made
  building : ∀ caller call point worker, runtime.callers caller = .running call point →
    point.building? = some worker → (runtime.heap worker).body = .absent
  assigning : ∀ caller call worker, runtime.callers caller = .running call (.assign worker) →
    (runtime.heap worker).body ≠ .absent ∧ (runtime.heap worker).thread = .empty
  exclusive : ∀ first last call other point place worker,
    runtime.callers first = .running call point → runtime.callers last = .running other place →
    point.owned? = some worker → place.owned? = some worker → first = last
  worker : ∀ worker < runtime.made, (runtime.heap worker).Sound

/-- The change one step of a call can make to one worker. -/
inductive CallChange (before : Worker) : Worker → Prop where
  | stopped : before.snapshot.state.finished = false →
      CallChange before (transition before .stopping (ascii "Stopping")).request_stop
  | stopRequested : CallChange before before.request_stop
  | joined : before.thread = .joinable → before.body = .ended →
      CallChange before { before with thread := .joined }
  | constructed : before.body = .absent →
      CallChange before { before with body := .entry, stop_token := some false }
  | assigned : before.body ≠ .absent → before.thread = .empty →
      CallChange before { before with thread := .joinable }

/-- The change one step of anyone can make to one worker. -/
inductive WorkerChange (clock : Clock) (before : Worker) : Worker → Prop where
  | call {value : Worker} : CallChange before value → WorkerChange clock before value
  | body {event : WorkerEvent} {value : Worker} : BodyStep clock before event value →
      WorkerChange clock before value

section WorkerFields

variable (worker : Worker)

@[simp] theorem request_stop_body : worker.request_stop.body = worker.body := by
  unfold Worker.request_stop; split <;> rfl

@[simp] theorem request_stop_thread : worker.request_stop.thread = worker.thread := by
  unfold Worker.request_stop; split <;> rfl

@[simp] theorem request_stop_snapshot : worker.request_stop.snapshot = worker.snapshot := by
  unfold Worker.request_stop; split <;> rfl

@[simp] theorem request_stop_key : worker.request_stop.key = worker.key := by
  unfold Worker.request_stop; split <;> rfl

private theorem request_stop_token : worker.request_stop.stop_token = none ↔ worker.stop_token = none := by
  unfold Worker.request_stop; split <;> simp

/-- Recording a datagram touches the statistics only. -/
theorem recordDatagram_frame (clock : Clock) (observation : DatagramObservation) :
    ∃ samples metrics recent, worker.recordDatagram clock observation =
      { worker with
        latency_samples := samples
        snapshot.metrics := metrics
        snapshot.recent_datagrams := recent } := by
  unfold Worker.recordDatagram
  cases observation.latency_milliseconds with
  | none => exact ⟨_, _, _, rfl⟩
  | some latency => exact ⟨_, _, _, rfl⟩

end WorkerFields

/-! ## One worker -/

private theorem sound_makeWorker (clock : Clock) (call : ControlCall) (config : Config) :
    (makeWorker clock call config).Sound := by
  unfold makeWorker
  split_ifs <;>
    exact {
      named := rfl
      token := by simp
      handle := by simp
      unstarted := fun _ => rfl
      finished := by simp [TunnelState.finished]
      leaving := by simp
      joined := by simp }

private theorem sound_of_moved {worker value : Worker} (sound : worker.Sound)
    (named : value.key = worker.key ∧ value.snapshot.kind = worker.snapshot.kind ∧
      value.snapshot.alias_ = worker.snapshot.alias_)
    (thread : value.thread = worker.thread ∧ value.stop_token = worker.stop_token)
    (started : worker.body ≠ .absent ∧ worker.body ≠ .ended) (moved : value.body ≠ .absent)
    (finished : value.snapshot.state.finished = true →
      (∃ notice, value.body = .reporting notice) ∨ value.body = .ended)
    (leaving : ∀ state detail, value.body = .leaving state detail → state.finished = true) :
    value.Sound where
  named := by rw [named.1, named.2.1, named.2.2]; exact sound.named
  token := by
    rw [thread.2, ← sound.token]
    exact ⟨fun absent => absurd absent moved, fun absent => absurd absent started.1⟩
  handle := fun absent => absurd absent moved
  unstarted := fun absent => absurd absent moved
  finished := finished
  leaving := leaving
  joined := fun joined => absurd (sound.joined (thread.1 ▸ joined)) started.2

theorem unfinished_of_body {worker : Worker} (sound : worker.Sound) {point : BodyPoint}
    (here : worker.body = point) (notEnded : point ≠ .ended)
    (notReporting : ∀ notice, point ≠ .reporting notice) :
    worker.snapshot.state.finished = false := by
  rw [← Bool.not_eq_true]
  intro finished
  rcases sound.finished finished with ⟨notice, reporting⟩ | ended
  · exact notReporting notice (here.symm.trans reporting)
  · exact notEnded (here.symm.trans ended)

private theorem sound_body {clock : Clock} {worker value : Worker} {event : WorkerEvent}
    (sound : worker.Sound) (moved : BodyStep clock worker event value) : value.Sound := by
  cases moved with
  | connecting here client =>
      have unfinished := unfinished_of_body sound here (by simp) (by simp)
      exact sound_of_moved sound ⟨rfl, rfl, rfl⟩ ⟨rfl, rfl⟩ (by simp [here]) (by simp)
        (by simp [unfinished]) (by simp)
  | running here client =>
      exact sound_of_moved sound ⟨rfl, rfl, rfl⟩ ⟨rfl, rfl⟩ (by simp [here]) (by simp)
        (by simp [transition, TunnelState.finished]) (by simp)
  | connected here =>
      exact sound_of_moved sound ⟨rfl, rfl, rfl⟩ ⟨rfl, rfl⟩ (by simp [here]) (by simp)
        (by simp [transition, TunnelState.finished]) (by simp)
  | @datagram observation here tunnel =>
      obtain ⟨samples, metrics, recent, recorded⟩ := recordDatagram_frame worker clock observation
      rw [recorded]
      exact { sound with }
  | finished here can =>
      have unfinished := unfinished_of_body sound here (by simp) (by simp)
      refine sound_of_moved sound ⟨rfl, rfl, rfl⟩ ⟨rfl, rfl⟩ (by simp [here]) (by simp)
        (by simp [unfinished]) ?_
      intro state detail held
      obtain ⟨⟩ := held
      rfl
  | failed here =>
      have unfinished := unfinished_of_body sound here (by simp) (by simp)
      refine sound_of_moved sound ⟨rfl, rfl, rfl⟩ ⟨rfl, rfl⟩ (by simp [here]) (by simp)
        (by simp [unfinished]) ?_
      intro state detail held
      obtain ⟨⟩ := held
      rfl
  | concluded here =>
      exact sound_of_moved sound ⟨rfl, rfl, rfl⟩ ⟨rfl, rfl⟩ (by simp [here]) (by simp)
        (fun _ => .inl ⟨_, rfl⟩) (by simp)
  | announced here =>
      have unfinished := unfinished_of_body sound here (by simp) (by simp)
      exact sound_of_moved sound ⟨rfl, rfl, rfl⟩ ⟨rfl, rfl⟩ (by simp [here]) (by simp)
        (by simp [unfinished]) (by simp)
  | reported here =>
      exact sound_of_moved sound ⟨rfl, rfl, rfl⟩ ⟨rfl, rfl⟩ (by simp [here]) (by simp)
        (fun _ => .inr rfl) (by simp)

private theorem sound_callChange {worker value : Worker} (sound : worker.Sound)
    (changed : CallChange worker value) : value.Sound := by
  cases changed with
  | stopped unfinished =>
      exact {
        named := by simpa [transition] using sound.named
        token := by simpa [request_stop_token, transition] using sound.token
        handle := by simpa [transition] using sound.handle
        unstarted := by simp [transition, TunnelState.finished]
        finished := by simp [transition, TunnelState.finished]
        leaving := by simpa [transition] using sound.leaving
        joined := by simpa [transition] using sound.joined }
  | stopRequested =>
      exact {
        named := by simpa using sound.named
        token := by simpa [request_stop_token] using sound.token
        handle := by simpa using sound.handle
        unstarted := by simpa using sound.unstarted
        finished := by simpa using sound.finished
        leaving := by simpa using sound.leaving
        joined := by simpa using sound.joined }
  | joined joinable ended => exact { sound with
      handle := by simp [ended]
      joined := fun _ => ended }
  | constructed absent =>
      exact {
        named := sound.named
        token := by simp
        handle := by simp
        unstarted := by simp
        finished := by simp [sound.unstarted absent]
        leaving := by simp
        joined := by simp [sound.handle absent] }
  | assigned present empty => exact { sound with
      handle := fun absent => absurd absent present
      joined := by simp }

private theorem sound_change {clock : Clock} {worker value : Worker} (sound : worker.Sound)
    (changed : WorkerChange clock worker value) : value.Sound := by
  cases changed with
  | call changed => exact sound_callChange sound changed
  | body moved => exact sound_body sound moved

theorem thread_of_bodyStep {clock : Clock} {worker value : Worker} {event : WorkerEvent}
    (moved : BodyStep clock worker event value) :
    value.thread = worker.thread := by
  cases moved with
  | datagram here tunnel =>
      obtain ⟨samples, metrics, recent, recorded⟩ := recordDatagram_frame worker clock _
      rw [recorded]
  | connecting | running | connected | finished | failed | concluded | announced | reported => rfl

theorem key_of_change {clock : Clock} {worker value : Worker}
    (changed : WorkerChange clock worker value) : value.key = worker.key := by
  cases changed with
  | call changed =>
      cases changed with
      | stopped | stopRequested => simp [transition]
      | joined | constructed | assigned => rfl
  | body moved =>
      cases moved with
      | datagram here tunnel =>
          obtain ⟨samples, metrics, recent, recorded⟩ := recordDatagram_frame worker clock _
          rw [recorded]
      | connecting | running | connected | finished | failed | concluded | announced | reported =>
          rfl

private theorem present_of_change {clock : Clock} {worker value : Worker}
    (changed : WorkerChange clock worker value) (present : worker.body ≠ .absent) :
    value.body ≠ .absent := by
  cases changed with
  | call changed =>
      cases changed with
      | stopped | stopRequested => simpa [transition] using present
      | joined | assigned => exact present
      | constructed => simp
  | body moved =>
      cases moved with
      | datagram here tunnel =>
          obtain ⟨samples, metrics, recent, recorded⟩ := recordDatagram_frame worker clock _
          rw [recorded]
          exact present
      | connecting | running | connected | finished | failed | concluded | announced | reported =>
          simp

/-! ## The whole runtime -/

section Runtime

variable {runtime : ManagedTunnelRuntime}

theorem sound_start (configuration : TunnelConfiguration) :
    Sound { configuration := configuration } where
  fresh := fun _ _ => rfl
  registered := by simp
  held := by simp
  building := by simp
  assigning := by simp
  exclusive := by simp
  worker := by simp

private theorem setCaller_setCaller (caller : Nat) (first last : CallerState) :
    (runtime.setCaller caller first).setCaller caller last = runtime.setCaller caller last := by
  simp [setCaller]

/-- A caller may go where the workers it then holds are as they should be. -/
theorem Sound.setCaller (sound : Sound runtime) {caller : Nat} {state : CallerState}
    (held : ∀ call point worker, state = .running call point → point.worker? = some worker →
      worker < runtime.made)
    (building : ∀ call point worker, state = .running call point →
      point.building? = some worker → (runtime.heap worker).body = .absent)
    (assigning : ∀ call worker, state = .running call (.assign worker) →
      (runtime.heap worker).body ≠ .absent ∧ (runtime.heap worker).thread = .empty)
    (exclusive : ∀ call point worker other running place, state = .running call point →
      point.owned? = some worker → runtime.callers other = .running running place →
      place.owned? = some worker → other = caller) :
    Sound (runtime.setCaller caller state) where
  fresh := sound.fresh
  registered := sound.registered
  worker := sound.worker
  held := by
    intro other call point worker running
    rcases eq_or_ne other caller with rfl | ne
    · rw [setCaller_callers_self] at running
      exact held call point worker running
    · rw [setCaller_callers_of_ne _ _ ne] at running
      exact sound.held other call point worker running
  building := by
    intro other call point worker running
    rcases eq_or_ne other caller with rfl | ne
    · rw [setCaller_callers_self] at running
      exact building call point worker running
    · rw [setCaller_callers_of_ne _ _ ne] at running
      exact sound.building other call point worker running
  assigning := by
    intro other call worker running
    rcases eq_or_ne other caller with rfl | ne
    · rw [setCaller_callers_self] at running
      exact assigning call worker running
    · rw [setCaller_callers_of_ne _ _ ne] at running
      exact sound.assigning other call worker running
  exclusive := by
    intro first last call other point place worker here there owned held
    by_cases firstSame : first = caller <;> by_cases lastSame : last = caller
    · rw [firstSame, lastSame]
    · subst firstSame
      rw [setCaller_callers_self] at here
      rw [setCaller_callers_of_ne _ _ lastSame] at there
      exact (exclusive _ _ _ _ _ _ here owned there held).symm
    · subst lastSame
      rw [setCaller_callers_self] at there
      rw [setCaller_callers_of_ne _ _ firstSame] at here
      exact exclusive _ _ _ _ _ _ there held here owned
    · rw [setCaller_callers_of_ne _ _ firstSame] at here
      rw [setCaller_callers_of_ne _ _ lastSame] at there
      exact sound.exclusive _ _ _ _ _ _ _ here there owned held

/-- A caller that holds no worker any more. -/
theorem Sound.release (sound : Sound runtime) {caller : Nat} {state : CallerState}
    (released : ∀ call point, state = .running call point → point.worker? = none) :
    Sound (runtime.setCaller caller state) := by
  have empty : ∀ call point worker, state = .running call point → point.worker? ≠ some worker := by
    intro call point worker running
    rw [released call point running]
    simp
  refine sound.setCaller ?_ ?_ ?_ ?_
  · intro call point worker running holds
    exact absurd holds (empty call point worker running)
  · intro call point worker running building
    exact absurd (CallPoint.worker?_of_owned? (CallPoint.owned?_of_building? building))
      (empty call point worker running)
  · intro call worker running
    exact absurd rfl (empty call _ worker running)
  · intro call point worker other otherCall place running owned
    exact absurd (CallPoint.worker?_of_owned? owned) (empty call point worker running)

/-- A worker may change where no call relies on its thread being absent or unassigned. -/
theorem Sound.setWorker (sound : Sound runtime) {worker : WorkerPtr} {value : Worker}
    (made : worker < runtime.made)
    (changed : WorkerChange runtime.clock (runtime.heap worker) value)
    (building : (runtime.heap worker).body = .absent → value.body = .absent ∨
      ∀ caller call point, runtime.callers caller = .running call point →
        point.building? ≠ some worker)
    (assigning : (runtime.heap worker).thread = .empty → value.thread = .empty ∨
      ∀ caller call, runtime.callers caller ≠ .running call (.assign worker)) :
    Sound (runtime.setWorker worker value) where
  fresh := by
    intro other unmade
    have ne : other ≠ worker := by rintro rfl; exact absurd made (Nat.not_lt.mpr unmade)
    rw [setWorker_heap_of_ne _ _ ne]
    exact sound.fresh other unmade
  registered := by
    intro key other present
    obtain ⟨inside, named⟩ := sound.registered key other present
    refine ⟨inside, ?_⟩
    rcases eq_or_ne other worker with rfl | ne
    · rw [setWorker_heap_self, key_of_change changed, named]
    · rw [setWorker_heap_of_ne _ _ ne, named]
  held := sound.held
  building := by
    intro caller call point other running holds
    have absent := sound.building caller call point other running holds
    rcases eq_or_ne other worker with rfl | ne
    · rw [setWorker_heap_self]
      rcases building absent with kept | nobody
      · exact kept
      · exact absurd holds (nobody caller call point running)
    · rw [setWorker_heap_of_ne _ _ ne]
      exact absent
  assigning := by
    intro caller call other running
    obtain ⟨present, empty⟩ := sound.assigning caller call other running
    rcases eq_or_ne other worker with rfl | ne
    · rw [setWorker_heap_self]
      refine ⟨present_of_change changed present, ?_⟩
      rcases assigning empty with kept | nobody
      · exact kept
      · exact absurd running (nobody caller call)
    · rw [setWorker_heap_of_ne _ _ ne]
      exact ⟨present, empty⟩
  exclusive := sound.exclusive
  worker := by
    intro other inside
    rcases eq_or_ne other worker with rfl | ne
    · rw [setWorker_heap_self]
      exact sound_change (sound.worker other inside) changed
    · rw [setWorker_heap_of_ne _ _ ne]
      exact sound.worker other inside

theorem Sound.erase (sound : Sound runtime) (key : Text) :
    Sound { runtime with workers_ := runtime.workers_.erase key } where
  fresh := sound.fresh
  registered := by
    intro other worker present
    rw [Std.ExtTreeMap.getElem?_erase] at present
    split at present
    · cases present
    · exact sound.registered other worker present
  held := sound.held
  building := sound.building
  assigning := sound.assigning
  exclusive := sound.exclusive
  worker := sound.worker

theorem Sound.emplace (sound : Sound runtime) (clock : Clock) (call : ControlCall)
    (config : Config) :
    Sound { runtime.setWorker runtime.made (makeWorker clock call config) with
      made := runtime.made + 1
      workers_ := runtime.workers_.insertIfNew call.key runtime.made } := by
  have older : ∀ worker, worker < runtime.made →
      (runtime.setWorker runtime.made (makeWorker clock call config)).heap worker =
        runtime.heap worker :=
    fun worker inside => setWorker_heap_of_ne _ _ (Nat.ne_of_lt inside)
  exact {
    fresh := by
      intro worker unmade
      dsimp only at unmade ⊢
      have ne : worker ≠ runtime.made := by omega
      rw [setWorker_heap_of_ne _ _ ne]
      exact sound.fresh worker (by omega)
    registered := by
      intro key worker present
      dsimp only at present ⊢
      rw [Std.ExtTreeMap.getElem?_insertIfNew] at present
      split at present
      · next same =>
          obtain rfl := Option.some.inj present
          obtain rfl : call.key = key := Std.LawfulEqCmp.eq_of_compare same.1
          refine ⟨Nat.lt_succ_self _, ?_⟩
          rw [setWorker_heap_self]
          rfl
      · obtain ⟨inside, named⟩ := sound.registered key worker present
        exact ⟨Nat.lt_succ_of_lt inside, by rw [older worker inside, named]⟩
    held := fun caller call point worker running holds =>
      Nat.lt_succ_of_lt (sound.held caller call point worker running holds)
    building := by
      intro caller other point worker running holds
      have inside := sound.held caller other point worker running
        (CallPoint.worker?_of_owned? (CallPoint.owned?_of_building? holds))
      dsimp only
      rw [older worker inside]
      exact sound.building caller other point worker running holds
    assigning := by
      intro caller other worker running
      have inside := sound.held caller other _ worker running rfl
      dsimp only
      rw [older worker inside]
      exact sound.assigning caller other worker running
    exclusive := sound.exclusive
    worker := by
      intro worker inside
      dsimp only at inside ⊢
      rcases Nat.lt_or_eq_of_le (Nat.le_of_lt_succ inside) with old | rfl
      · rw [older worker old]
        exact sound.worker worker old
      · rw [setWorker_heap_self]
        exact sound_makeWorker clock call config }

private theorem sound_joinThread (sound : Sound runtime) {worker : WorkerPtr} {shared : ManagedTunnelRuntime}
    (inside : worker < runtime.made) (joined : runtime.joinThread worker = some shared) :
    Sound shared ∧ shared.callers = runtime.callers ∧ shared.made = runtime.made := by
  rcases joinThread_cases joined with ⟨-, rfl⟩ | ⟨joinable, ended, rfl⟩
  · exact ⟨sound, rfl, rfl⟩
  · refine ⟨sound.setWorker inside (.call (.joined joinable ended)) ?_ ?_, rfl, rfl⟩
    · intro absent
      rw [ended] at absent
      cases absent
    · intro empty
      rw [joinable] at empty
      cases empty

/-- A caller that holds a worker it does not own. -/
theorem Sound.hold (sound : Sound runtime) {caller : Nat} {call : ControlCall} {place : CallPoint}
    (held : ∀ worker, place.worker? = some worker → worker < runtime.made)
    (unowned : place.owned? = none) : Sound (runtime.setCaller caller (.running call place)) := by
  refine sound.setCaller ?_ ?_ ?_ ?_
  · intro _ _ worker held holds
    obtain ⟨⟩ := held
    exact held worker holds
  · intro _ _ worker held building
    obtain ⟨⟩ := held
    rw [CallPoint.owned?_of_building? building] at unowned
    cases unowned
  · intro _ worker held
    obtain ⟨⟩ := held
    cases unowned
  · intro _ _ worker other otherCall otherPlace held owned
    obtain ⟨⟩ := held
    rw [owned] at unowned
    cases unowned

private theorem Sound.keepBuilding (sound : Sound runtime) {caller : Nat} {call : ControlCall}
    {point place : CallPoint} {worker : WorkerPtr}
    (running : runtime.callers caller = .running call point)
    (building : point.building? = some worker) (still : place.building? = some worker) :
    Sound (runtime.setCaller caller (.running call place)) := by
  have owned := CallPoint.owned?_of_building? building
  have placed := CallPoint.owned?_of_building? still
  have inside := sound.held caller call point worker running (CallPoint.worker?_of_owned? owned)
  refine sound.setCaller ?_ ?_ ?_ ?_
  · intro _ _ other held holds
    obtain ⟨⟩ := held
    rw [CallPoint.worker?_of_owned? placed] at holds
    exact Option.some.inj holds ▸ inside
  · intro _ _ other held builds
    obtain ⟨⟩ := held
    rw [still] at builds
    exact Option.some.inj builds ▸ sound.building caller call point worker running building
  · intro _ other held
    obtain ⟨⟩ := held
    cases still
  · intro _ _ other otherCaller otherCall otherPlace held owns there theirs
    obtain ⟨⟩ := held
    rw [placed] at owns
    obtain rfl := Option.some.inj owns
    exact sound.exclusive _ _ _ _ _ _ _ there running theirs owned

private theorem afterStop_worker? {call running : ControlCall} {point : CallPoint}
    (reached : afterStop call = .running running point) : point.worker? = none := by
  unfold afterStop at reached
  split at reached
  · cases reached
    rfl
  · cases reached
  · cases reached

/-- Only the caller itself owns the worker it builds or assigns the thread of. -/
theorem Sound.owner (sound : Sound runtime) {caller : Nat} {call : ControlCall} {point : CallPoint}
    {worker : WorkerPtr} (running : runtime.callers caller = .running call point)
    (owned : point.owned? = some worker) (other : Nat) (otherCall : ControlCall) (place : CallPoint)
    (there : (runtime.setCaller caller .idle).callers other = .running otherCall place) :
    place.owned? ≠ some worker := by
  intro theirs
  by_cases same : other = caller
  · subst same
    rw [setCaller_callers_self] at there
    cases there
  · rw [setCaller_callers_of_ne _ _ same] at there
    exact same (sound.exclusive _ _ _ _ _ _ _ there running theirs owned)

private theorem sound_constructed (sound : Sound runtime) {caller : Nat} {call : ControlCall}
    {worker : WorkerPtr} (running : runtime.callers caller = .running call (.construct worker)) :
    Sound ((runtime.setWorker worker
      { runtime.heap worker with body := .entry, stop_token := some false }).setCaller caller
        (.running call (.assign worker))) := by
  have inside := sound.held caller call _ worker running rfl
  have absent := sound.building caller call _ worker running rfl
  have nobody := sound.owner running (show CallPoint.owned? (.construct worker) = some worker from rfl)
  have idle : Sound (runtime.setCaller caller .idle) := sound.release (by simp)
  have changed : WorkerChange runtime.clock (runtime.heap worker)
      { runtime.heap worker with body := .entry, stop_token := some false } := .call (.constructed absent)
  have made := idle.setWorker inside changed
    (fun _ => .inr fun other otherCall place there builds =>
      nobody other otherCall place there (CallPoint.owned?_of_building? builds))
    (fun empty => .inl empty)
  rw [← setCaller_setCaller caller .idle]
  refine made.setCaller ?_ ?_ ?_ ?_
  · intro _ _ other held other
    obtain ⟨⟩ := held
    obtain ⟨⟩ := other
    exact inside
  · intro _ _ other held other
    obtain ⟨⟩ := held
    obtain ⟨⟩ := other
  · intro _ other held
    obtain ⟨⟩ := held
    rw [setWorker_heap_self]
    exact ⟨by simp, (sound.worker worker inside).handle absent⟩
  · intro _ _ other otherCaller otherCall place held other there theirs
    obtain ⟨⟩ := held
    obtain ⟨⟩ := other
    exact absurd theirs (nobody otherCaller otherCall place there)

private theorem sound_assigned (sound : Sound runtime) {caller : Nat} {call : ControlCall}
    {worker : WorkerPtr} (running : runtime.callers caller = .running call (.assign worker)) :
    Sound ((runtime.setWorker worker { runtime.heap worker with thread := .joinable }).setCaller
      caller .returned) := by
  have inside := sound.held caller call _ worker running rfl
  obtain ⟨present, empty⟩ := sound.assigning caller call worker running
  have nobody := sound.owner running (show CallPoint.owned? (.assign worker) = some worker from rfl)
  have idle : Sound (runtime.setCaller caller .idle) := sound.release (by simp)
  have changed : WorkerChange runtime.clock (runtime.heap worker)
      { runtime.heap worker with thread := .joinable } := .call (.assigned present empty)
  have made := idle.setWorker inside changed (fun absent => absurd absent present)
    (fun _ => .inr fun other otherCall there => nobody other otherCall _ there rfl)
  rw [← setCaller_setCaller caller .idle]
  exact made.release (by simp)

private theorem sound_emplaced (sound : Sound runtime) {caller : Nat} {call : ControlCall}
    (config : Config) :
    Sound (({ runtime.setWorker runtime.made (makeWorker runtime.clock call config) with
      made := runtime.made + 1
      workers_ := runtime.workers_.insertIfNew call.key runtime.made } :
        ManagedTunnelRuntime).setCaller caller (.running call (.announce runtime.made))) := by
  refine (sound.emplace runtime.clock call config).setCaller ?_ ?_ ?_ ?_
  · intro _ _ worker held other
    obtain ⟨⟩ := held
    obtain ⟨⟩ := other
    exact Nat.lt_succ_self _
  · intro _ _ worker held other
    obtain ⟨⟩ := held
    obtain ⟨⟩ := other
    dsimp only
    rw [setWorker_heap_self]
    rfl
  · intro _ worker held
    obtain ⟨⟩ := held
  · intro _ _ worker other otherCall place held other there theirs
    obtain ⟨⟩ := held
    obtain ⟨⟩ := other
    have older := sound.held other otherCall place _ there (CallPoint.worker?_of_owned? theirs)
    exact absurd older (Nat.lt_irrefl _)

private theorem sound_callStep (sound : Sound runtime) {caller : Nat} {call : ControlCall}
    {point : CallPoint} {shared : ManagedTunnelRuntime} {state : CallerState}
    (running : runtime.callers caller = .running call point)
    (advanced : CallStep runtime call point shared state) :
    Sound (shared.setCaller caller state) := by
  cases advanced with
  | notManaged | notFound | unknownTunnel | needsClient | slotActive => exact sound.release (by simp)
  | alreadyFinished | stopPublished =>
      exact sound.release fun _ _ reached => afterStop_worker? reached
  | kept | lookedUp | slotFree =>
      refine sound.release ?_
      intro _ _ held
      obtain ⟨⟩ := held
      rfl
  | removed =>
      refine (sound.erase _).release ?_
      intro _ _ held
      obtain ⟨⟩ := held
      rfl
  | erased => exact (sound.erase _).release (by simp)
  | stopped present unfinished =>
      have inside := (sound.registered _ _ present).1
      refine (sound.setWorker inside (.call (.stopped unfinished)) ?_ ?_).release ?_
      · exact fun absent => .inl (by simpa [transition] using absent)
      · exact fun empty => .inl (by simpa [transition] using empty)
      · intro _ _ held
        obtain ⟨⟩ := held
        rfl
  | found present =>
      have inside := (sound.registered _ _ present).1
      refine (sound.setWorker inside (.call .stopRequested) ?_ ?_).hold ?_ rfl
      · exact fun absent => .inl (by simpa using absent)
      · exact fun empty => .inl (by simpa using empty)
      · intro worker held
        obtain ⟨⟩ := held
        exact inside
  | joined done =>
      have inside := sound.held caller call _ _ running rfl
      obtain ⟨kept, -, made⟩ := sound_joinThread sound inside done
      refine kept.hold ?_ rfl
      intro worker held
      obtain ⟨⟩ := held
      rw [made]
      exact inside
  | finishedJoined done =>
      have inside := sound.held caller call _ _ running rfl
      refine (sound_joinThread sound inside done).1.release ?_
      intro _ _ held
      obtain ⟨⟩ := held
      rfl
  | slotReleased present inactive =>
      refine (sound.erase _).hold ?_ rfl
      intro worker held
      obtain ⟨⟩ := held
      exact (sound.registered _ _ present).1
  | emplaced => exact sound_emplaced sound _
  | announced | initialPublished => exact sound.keepBuilding running rfl rfl
  | constructed => exact sound_constructed sound running
  | assigned => exact sound_assigned sound running

/-- What a step of a call does to a worker; only one point brings a thread to life. -/
theorem callChange_of_callStep (sound : Sound runtime) {caller : Nat} {call : ControlCall}
    {point : CallPoint} {shared : ManagedTunnelRuntime} {state : CallerState}
    (running : runtime.callers caller = .running call point)
    (advanced : CallStep runtime call point shared state) {worker : WorkerPtr}
    (inside : worker < runtime.made) :
    shared.heap worker = runtime.heap worker ∨
      (CallChange (runtime.heap worker) (shared.heap worker) ∧
        ((shared.heap worker).body = (runtime.heap worker).body ∨ point = .construct worker)) := by
  have changes : ∀ other value, CallChange (runtime.heap other) value →
      (value.body = (runtime.heap other).body ∨ point = .construct other) →
      (runtime.setWorker other value).heap worker = runtime.heap worker ∨
        (CallChange (runtime.heap worker) ((runtime.setWorker other value).heap worker) ∧
          (((runtime.setWorker other value).heap worker).body = (runtime.heap worker).body ∨
            point = .construct worker)) := by
    intro other value changed body
    by_cases same : worker = other
    · subst same
      rw [setWorker_heap_self]
      exact .inr ⟨changed, body⟩
    · exact .inl (setWorker_heap_of_ne _ _ same)
  have joins : ∀ other, runtime.joinThread other = some shared →
      shared.heap worker = runtime.heap worker ∨
        (CallChange (runtime.heap worker) (shared.heap worker) ∧
          ((shared.heap worker).body = (runtime.heap worker).body ∨ point = .construct worker)) := by
    intro other joined
    rcases joinThread_cases joined with ⟨-, rfl⟩ | ⟨joinable, ended, rfl⟩
    · exact .inl rfl
    · exact changes other _ (.joined joinable ended) (.inl rfl)
  cases advanced with
  | notManaged | alreadyFinished | stopPublished | notFound | removed | kept | unknownTunnel
  | needsClient | lookedUp | slotFree | slotActive | slotReleased | announced | initialPublished
  | erased => exact .inl rfl
  | stopped present unfinished =>
      exact changes _ _ (.stopped unfinished) (.inl (by simp [transition]))
  | found present => exact changes _ _ .stopRequested (.inl (by simp))
  | joined done => exact joins _ done
  | finishedJoined done => exact joins _ done
  | emplaced => exact .inl (setWorker_heap_of_ne _ _ (Nat.ne_of_lt inside))
  | constructed =>
      exact changes _ _ (.constructed (sound.building caller call _ _ running rfl)) (.inr rfl)
  | assigned =>
      obtain ⟨present, empty⟩ := sound.assigning caller call _ running
      exact changes _ _ (.assigned present empty) (.inl rfl)

private theorem made_of_callStep {call : ControlCall} {point : CallPoint} {shared : ManagedTunnelRuntime}
    {state : CallerState} (advanced : CallStep runtime call point shared state) :
    runtime.made ≤ shared.made := by
  cases advanced with
  | joined done | finishedJoined done =>
      rcases joinThread_cases done with ⟨-, rfl⟩ | ⟨-, -, rfl⟩ <;> exact Nat.le_refl _
  | emplaced => exact Nat.le_succ _
  | notManaged | alreadyFinished | stopped | stopPublished | notFound | found | removed | kept
  | unknownTunnel | needsClient | lookedUp | slotFree | slotActive | slotReleased | announced
  | initialPublished | constructed | assigned | erased => exact Nat.le_refl _

theorem callers_of_callStep {call : ControlCall} {point : CallPoint} {shared : ManagedTunnelRuntime}
    {state : CallerState} (advanced : CallStep runtime call point shared state) :
    shared.callers = runtime.callers := by
  cases advanced with
  | joined done | finishedJoined done =>
      rcases joinThread_cases done with ⟨-, rfl⟩ | ⟨-, -, rfl⟩ <;> rfl
  | notManaged | alreadyFinished | stopped | stopPublished | notFound | found | removed | kept
  | unknownTunnel | needsClient | lookedUp | slotFree | slotActive | slotReleased | emplaced
  | announced | initialPublished | constructed | assigned | erased => rfl

theorem made_of_step {label : RuntimeLabel} {next : ManagedTunnelRuntime}
    (stepped : runtime.step label = some next) : runtime.made ≤ next.made := by
  cases stepped_of_step stepped with
  | tick | configure | call | threadFails | worker => exact Nat.le_refl _
  | advance running advanced =>
      have bound := made_of_callStep advanced
      exact bound

/-- One step of anyone keeps the runtime sound. -/
theorem Sound.step (sound : Sound runtime) {label : RuntimeLabel} {next : ManagedTunnelRuntime}
    (stepped : runtime.step label = some next) : Sound next := by
  cases stepped_of_step stepped with
  | tick | configure => exact { sound with }
  | call free =>
      refine sound.release ?_
      intro _ _ held
      obtain ⟨⟩ := held
      unfold firstPoint
      split <;> rfl
  | advance running advanced => exact sound_callStep sound running advanced
  | threadFails running =>
      refine sound.release ?_
      intro _ _ held
      obtain ⟨⟩ := held
      rfl
  | @worker worker event value moved =>
      have present : (runtime.heap worker).body ≠ .absent := by
        intro absent
        cases moved <;> simp_all
      have inside : worker < runtime.made := by
        by_contra unmade
        rw [sound.fresh worker (Nat.not_lt.mp unmade)] at present
        exact present rfl
      refine sound.setWorker inside (.body moved) (fun absent => absurd absent present) ?_
      exact fun empty => .inl ((thread_of_bodyStep moved).trans empty)

theorem sound_of_exec {configuration : TunnelConfiguration} {labels : List RuntimeLabel}
    (ran : managedTunnelRuntime.exec { configuration := configuration } labels = some runtime) :
    Sound runtime :=
  Machine.invariant_of_exec (fun sound stepped => sound.step stepped) ran (sound_start configuration)

end Runtime

/-- A configuration with one replicating server, named `a`. -/
def soleServer : TunnelConfiguration where
  tunnels := [{
    alias_ := ascii "a"
    config := {
      udp_iface_ip_ := ascii "127.0.0.1"
      tcp_srv_port_ := 14052
      use_clt_grp_ := true } }]

end ManagedTunnelRuntime

end DatagramTunneler
