import DatagramTunneler.Control.ServerSteps

/-! What a step of the runtime makes of the state of the worker under one key, and what
is published of it: the state of a registered worker changes only together with a
notice that tells it, or with the promise of one. -/

set_option autoImplicit false

namespace DatagramTunneler

open Foundation

namespace ManagedTunnelRuntime

/-- One step, seen from the key of the registered worker `worker`. -/
inductive KeyStep (caller : Nat) (runtime next : ManagedTunnelRuntime) (notice? : Option Notice)
    (key : Text) (worker : WorkerPtr) : Prop where
  | same : runtime.workers_[key]? = some worker →
      (next.heap worker).snapshot.state = (runtime.heap worker).snapshot.state →
      (∀ notice, notice? = some notice → notice.snapshot.key = key →
        notice.snapshot.state = (next.heap worker).snapshot.state) →
      (∀ call place, runtime.callers caller = .running call (.announce place) → call.key = key →
        next.callers caller = .running call (.announce place) ∨
          ∃ notice, notice? = some notice ∧ notice.snapshot.key = key) →
      KeyStep caller runtime next notice? key worker
  | announced {notice : Notice} : notice? = some notice → notice.snapshot.key = key →
      notice.snapshot.state = (next.heap worker).snapshot.state →
      KeyStep caller runtime next notice? key worker
  | due {call : ControlCall} {place : WorkerPtr} : notice? = none →
      next.callers caller = .running call (.announce place) → call.key = key →
      KeyStep caller runtime next notice? key worker

section Steps

variable {runtime : ManagedTunnelRuntime} {caller : Nat} {call : ControlCall} {point : CallPoint}
  {key : Text} {worker : WorkerPtr}

/-- A step of a call that leaves registry and states alone and publishes nothing. -/
theorem keyStep_silent {shared : ManagedTunnelRuntime} {state : CallerState}
    (running : runtime.callers caller = .running call point)
    (elsewhere : ∀ place, point ≠ .announce place) (silent : state.notice? = none)
    (present : runtime.workers_[key]? = some worker)
    (same : (shared.heap worker).snapshot.state = (runtime.heap worker).snapshot.state) :
    KeyStep caller runtime (shared.setCaller caller state) state.notice? key worker := by
  refine .same present same ?_ ?_
  · intro notice published
    rw [silent] at published
    cases published
  · intro called place announcing
    rw [running] at announcing
    cases announcing
    exact absurd rfl (elsewhere place)

private theorem afterStop_notice? (call : ControlCall) : (afterStop call).notice? = none := by
  unfold afterStop
  split <;> rfl

private theorem present_of_erase {registry : Std.ExtTreeMap Text WorkerPtr compare} {erased : Text}
    (present : (registry.erase erased)[key]? = some worker) : registry[key]? = some worker := by
  rw [Std.ExtTreeMap.getElem?_erase] at present
  split at present
  · cases present
  · exact present

private theorem state_of_joinThread {shared : ManagedTunnelRuntime} {joined : WorkerPtr}
    (done : runtime.joinThread joined = some shared) (other : WorkerPtr) :
    (shared.heap other).snapshot = (runtime.heap other).snapshot ∧
      shared.workers_ = runtime.workers_ := by
  rcases joinThread_cases done with ⟨-, rfl⟩ | ⟨-, -, rfl⟩
  · exact ⟨rfl, rfl⟩
  · refine ⟨?_, rfl⟩
    rcases eq_or_ne other joined with rfl | ne
    · rw [setWorker_heap_self]
    · rw [setWorker_heap_of_ne _ _ ne]

private theorem state_of_setWorker {changed : WorkerPtr} {value : Worker}
    (same : value.snapshot.state = (runtime.heap changed).snapshot.state) (other : WorkerPtr) :
    ((runtime.setWorker changed value).heap other).snapshot.state =
      (runtime.heap other).snapshot.state := by
  rcases eq_or_ne other changed with rfl | ne
  · rw [setWorker_heap_self, same]
  · rw [setWorker_heap_of_ne _ _ ne]

/-- A worker that has been made tells its own key. -/
theorem key_of_registered (sound : Sound runtime) (present : runtime.workers_[key]? = some worker) :
    (runtime.heap worker).snapshot.key = key := by
  obtain ⟨inside, named⟩ := sound.registered key worker present
  exact (sound.worker worker inside).named.symm.trans named

private theorem keyStep_of_callStep (sound : Sound runtime)
    (sole : SoleCaller runtime (.running call point))
    (running : runtime.callers caller = .running call point)
    {shared : ManagedTunnelRuntime} {state : CallerState}
    (advanced : CallStep runtime call point shared state)
    (present : shared.workers_[key]? = some worker) :
    KeyStep caller runtime (shared.setCaller caller state) state.notice? key worker := by
  cases advanced with
  | notManaged | notFound | kept | unknownTunnel | needsClient | lookedUp | slotFree | slotActive
  | initialPublished =>
      exact keyStep_silent running (by simp) rfl present rfl
  | alreadyFinished | stopPublished =>
      exact keyStep_silent running (by simp) (afterStop_notice? call) present rfl
  | removed | slotReleased | erased =>
      exact keyStep_silent running (by simp) rfl (present_of_erase present) rfl
  | found there =>
      exact keyStep_silent running (by simp) rfl present (state_of_setWorker (by simp) worker)
  | constructed | assigned =>
      refine keyStep_silent running (by simp) rfl present ?_
      exact state_of_setWorker (by rfl) worker
  | joined done | finishedJoined done =>
      obtain ⟨snapshot, registry⟩ := state_of_joinThread done worker
      rw [registry] at present
      exact keyStep_silent running (by simp) rfl present (by rw [snapshot])
  | @stopped stopping there unfinished =>
      have named : (transition (runtime.heap stopping) .stopping (ascii "Stopping")).snapshot.key =
          call.key := key_of_registered sound there
      by_cases same : worker = stopping
      · subst same
        have keys := (sound.registered _ _ present).2.symm.trans (sound.registered _ _ there).2
        refine .announced rfl (named.trans keys.symm) ?_
        simp
      · refine .same present ?_ ?_ ?_
        · rw [setCaller_heap, setWorker_heap_of_ne _ _ same]
        · intro notice published about
          obtain rfl := Option.some.inj published
          have keys : call.key = key := named.symm.trans about
          rw [keys] at there
          exact absurd (Option.some.inj (present.symm.trans there)) same
        · intro called place announcing
          rw [running] at announcing
          cases announcing
  | @emplaced config =>
      have free : runtime.workers_[call.key]? = none := sole.placed _ _ rfl
      by_cases same : call.key = key
      · exact .due rfl (setCaller_callers_self _ _ _) same
      · have old : runtime.workers_[key]? = some worker := by
          dsimp only at present
          rw [Std.ExtTreeMap.getElem?_insertIfNew, if_neg] at present
          · exact present
          · exact fun equal => same (Std.LawfulEqCmp.eq_of_compare equal.1)
        refine keyStep_silent running (by simp) rfl old ?_
        have inside := (sound.registered _ _ old).1
        dsimp only
        rw [setWorker_heap_of_ne _ _ (Nat.ne_of_lt inside)]
  | @announced placed =>
      have there : runtime.workers_[call.key]? = some placed := sole.placed _ _ rfl
      have named := key_of_registered sound there
      refine .same present rfl ?_ ?_
      · intro notice published about
        obtain rfl := Option.some.inj published
        have keys : call.key = key := named.symm.trans about
        rw [keys, present] at there
        rw [Option.some.inj there]
        rfl
      · intro called place announcing same
        rw [running] at announcing
        cases announcing
        exact .inr ⟨_, rfl, named.trans same⟩

theorem keyStep_of_advance (sound : Sound runtime) (sole : SoleCaller runtime (runtime.callers caller))
    {next : ManagedTunnelRuntime} (stepped : runtime.step (.advance caller) = some next)
    (present : next.workers_[key]? = some worker) :
    KeyStep caller runtime next (next.callers caller).notice? key worker := by
  cases stepped_of_step stepped with
  | advance running advanced =>
      rw [running] at sole
      rw [setCaller_callers_self]
      exact keyStep_of_callStep sound sole running advanced present

/-- A thread function that is not leaving `publish` changes the state of its worker
exactly when it publishes the change. -/
theorem notice_of_bodyStep {clock : Clock} {before after : Worker} {event : WorkerEvent}
    (moved : BodyStep clock before event after) (inside : event ≠ .published) :
    (after.body.notice? = none ∧ after.snapshot.state = before.snapshot.state) ∨
      ∃ notice, after.body.notice? = some notice ∧ notice.snapshot = after.snapshot := by
  cases moved with
  | connecting | finished | failed => exact .inl ⟨rfl, rfl⟩
  | datagram here tunnel =>
      obtain ⟨samples, metrics, recent, recorded⟩ := recordDatagram_frame before clock _
      rw [recorded]
      exact .inl ⟨by rw [here]; rfl, rfl⟩
  | running | connected | concluded => exact .inr ⟨_, rfl, rfl⟩
  | announced | reported => exact absurd rfl inside

theorem keyStep_of_worker (sound : Sound runtime) (sole : SoleCaller runtime (runtime.callers caller))
    {moving : WorkerPtr} {event : WorkerEvent} {next : ManagedTunnelRuntime}
    (stepped : runtime.step (.worker moving event) = some next) (inside : event ≠ .published)
    (present : next.workers_[key]? = some worker) :
    KeyStep caller runtime next (next.heap moving).body.notice? key worker := by
  have good := sound.step stepped
  cases stepped_of_step stepped with
  | @worker _ _ value moved =>
      have live := live_of_bodyStep moved
      have named := key_of_change (.body moved)
      by_cases same : worker = moving
      · subst same
        rw [setWorker_heap_self]
        rcases notice_of_bodyStep moved inside with ⟨silent, still⟩ | ⟨notice, published, tells⟩
        · refine .same present ?_ ?_ fun _ _ announcing _ => .inl announcing
          · rw [setWorker_heap_self, still]
          · intro notice published
            rw [silent] at published
            cases published
        · refine .announced published ?_ ?_
          · rw [tells, ← key_of_registered good present, setWorker_heap_self]
          · rw [tells, setWorker_heap_self]
      · rw [setWorker_heap_self]
        refine .same present ?_ ?_ fun _ _ announcing _ => .inl announcing
        · rw [setWorker_heap_of_ne _ _ same]
        · intro notice published about
          rcases notice_of_bodyStep moved inside with ⟨silent, -⟩ | ⟨told, tells, snapshot⟩
          · rw [silent] at published
            cases published
          · obtain rfl := Option.some.inj (tells.symm.trans published)
            have made := made_of_live sound live
            have own := (good.worker moving made).named
            rw [setWorker_heap_self, named, ← snapshot] at own
            exact absurd (sole.unique present live (own.trans about)).symm same

/-- Leaving `publish` changes no state and nothing in the registry. -/
theorem leave_frame {label : RuntimeLabel} {next : ManagedTunnelRuntime}
    (stepped : runtime.step label = some next)
    (leaving : (∃ moving, label = .worker moving .published) ∨
      (label = .advance caller ∧ (runtime.callers caller).notice?.isSome = true)) :
    next.workers_ = runtime.workers_ ∧
      (∀ other, (next.heap other).snapshot = (runtime.heap other).snapshot) ∧
      ∀ called place, runtime.callers caller = .running called (.announce place) →
        next.callers caller = .running called (.announce place) := by
  rcases leaving with ⟨moving, rfl⟩ | ⟨rfl, publishing⟩
  · cases stepped_of_step stepped with
    | @worker _ _ value moved =>
        refine ⟨rfl, fun other => ?_, fun _ _ announcing => announcing⟩
        rcases eq_or_ne other moving with rfl | ne
        · rw [setWorker_heap_self]
          cases moved <;> rfl
        · rw [setWorker_heap_of_ne _ _ ne]
  · cases stepped_of_step stepped with
    | advance running advanced =>
        rw [running] at publishing
        refine ⟨?_, ?_, ?_⟩
        · cases advanced <;> first | rfl | cases publishing
        · intro other
          cases advanced <;> first | rfl | cases publishing
        · intro called place announcing
          rw [running] at announcing
          cases announcing
          cases publishing

/-- The quiet steps change no worker and do not take a caller from its announcement. -/
theorem quiet_frame {label : ServerLabel} {quiet : RuntimeLabel} {next : ManagedTunnelRuntime}
    (is : label.quiet? = some quiet) (stepped : runtime.step quiet = some next) :
    next.workers_ = runtime.workers_ ∧ next.heap = runtime.heap ∧
      ∀ called place, runtime.callers LocalControlServer.requestThread =
        .running called (.announce place) →
          next.callers LocalControlServer.requestThread = .running called (.announce place) := by
  cases label with
  | tick | configure =>
      cases is
      cases stepped
      exact ⟨rfl, rfl, fun _ _ announcing => announcing⟩
  | call =>
      cases is
      cases stepped_of_step stepped with
      | call idle => exact ⟨rfl, rfl, fun _ _ announcing => absurd announcing (idle _ _)⟩
  | threadFails =>
      cases is
      cases stepped_of_step stepped with
      | threadFails running =>
          refine ⟨rfl, rfl, fun _ _ announcing => ?_⟩
          rw [running] at announcing
          cases announcing
  | advance | worker | copyClients | send | finish | checkClients | collect | nextMetric | upgrade
  | sendSnapshot | register => cases is

end Steps

/-- Under each key of the registry there is one snapshot, that of its worker. -/
theorem mem_snapshots_iff {runtime : ManagedTunnelRuntime} (snapshot : TunnelSnapshot) :
    snapshot ∈ runtime.snapshots ↔ ∃ (key : Text) (worker : WorkerPtr),
      runtime.workers_[key]? = some worker ∧ (runtime.heap worker).snapshot = snapshot := by
  unfold snapshots
  rw [List.mem_insertionSort, List.mem_map]
  constructor
  · intro listed
    obtain ⟨⟨key, worker⟩, inside, same⟩ := listed
    exact ⟨key, worker, Std.ExtTreeMap.mem_toList_iff_getElem?_eq_some.mp inside, same⟩
  · intro present
    obtain ⟨key, worker, present, same⟩ := present
    exact ⟨(key, worker), Std.ExtTreeMap.mem_toList_iff_getElem?_eq_some.mpr present, same⟩

/-- The snapshot under a key tells the state of the worker registered there. -/
theorem state_of_mem_snapshots {runtime : ManagedTunnelRuntime} (sound : Sound runtime)
    {snapshot : TunnelSnapshot} (inside : snapshot ∈ runtime.snapshots) {worker : WorkerPtr}
    (present : runtime.workers_[snapshot.key]? = some worker) :
    snapshot.state = (runtime.heap worker).snapshot.state := by
  obtain ⟨key, other, there, rfl⟩ := (mem_snapshots_iff snapshot).mp inside
  rw [key_of_registered sound there, there] at present
  rw [Option.some.inj present]

end ManagedTunnelRuntime

end DatagramTunneler
