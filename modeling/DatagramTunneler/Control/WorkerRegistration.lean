import DatagramTunneler.Control.RuntimeInvariants

/-! Whether the registry knows every worker that has a live thread. A start is
several separately locked steps and trusts that its worker is still the registered
one when the thread is created; releasing a slot trusts that a worker that looks
finished has finished. The runs in which both are true are exactly those that never
lose a live worker. -/

set_option autoImplicit false

namespace DatagramTunneler

open Foundation

/-- The thread function of the worker has begun and not returned. -/
def Worker.live (worker : Worker) : Bool := worker.body ≠ .absent && worker.body ≠ .ended

theorem Worker.live_iff {worker : Worker} :
    worker.live = true ↔ worker.body ≠ .absent ∧ worker.body ≠ .ended := by
  simp [Worker.live]

namespace ManagedTunnelRuntime

/-- `stop` and the destructor can reach every live worker. -/
def LiveRegistered (runtime : ManagedTunnelRuntime) : Prop :=
  ∀ worker, (runtime.heap worker).live = true →
    runtime.workers_[(runtime.heap worker).key]? = some worker

/-- No two live workers have the same kind and alias. -/
def LiveUnique (runtime : ManagedTunnelRuntime) : Prop :=
  ∀ first last, (runtime.heap first).live = true → (runtime.heap last).live = true →
    (runtime.heap first).snapshot.kind = (runtime.heap last).snapshot.kind →
    (runtime.heap first).snapshot.alias_ = (runtime.heap last).snapshot.alias_ → first = last

/-- The worker in the slot of a key has no live thread. -/
def SlotQuiet (runtime : ManagedTunnelRuntime) (key : Text) : Prop :=
  ∀ worker, runtime.workers_[key]? = some worker → (runtime.heap worker).live = false

/-- When a step of a call keeps every live worker registered. -/
def CallKeepsRegistered (runtime : ManagedTunnelRuntime) (call : ControlCall) : CallPoint → Prop
  | .releaseFinishedSlot _ =>
      ∀ worker, runtime.workers_[call.key]? = some worker →
        (runtime.heap worker).snapshot.state.active = true ∨ (runtime.heap worker).live = false
  | .remove worker =>
      runtime.workers_[call.key]? = some worker → (runtime.heap worker).live = false
  | .construct worker => runtime.workers_[(runtime.heap worker).key]? = some worker
  | .eraseFailed _ => runtime.SlotQuiet call.key
  | .requestStop | .publishStop _ | .find | .join _ | .lookup | .joinFinished _ _ | .emplace _
  | .announce _ | .publishInitial _ _ | .assign _ => True

def KeepsRegistered (runtime : ManagedTunnelRuntime) : RuntimeLabel → Prop
  | .advance caller => ∀ call point, runtime.callers caller = .running call point →
      runtime.CallKeepsRegistered call point
  | .tick _ | .configure _ | .call _ _ | .threadFails _ _ | .worker _ _ => True

section Steps

variable {runtime : ManagedTunnelRuntime}

theorem LiveRegistered.unique (registered : LiveRegistered runtime) (sound : Sound runtime) :
    LiveUnique runtime := by
  intro first last firstLive lastLive kind alias_
  have named : ∀ worker, (runtime.heap worker).live = true → (runtime.heap worker).key =
      workerKey (runtime.heap worker).snapshot.kind (runtime.heap worker).snapshot.alias_ :=
    fun worker live => (sound.worker worker (sound.registered _ _ (registered worker live)).1).named
  have keys : (runtime.heap first).key = (runtime.heap last).key := by
    rw [named first firstLive, named last lastLive, kind, alias_]
  have here := registered first firstLive
  rw [keys, registered last lastLive] at here
  exact (Option.some.inj here).symm

/-- A worker may change as long as it does not come to life. -/
theorem LiveRegistered.setWorker (registered : LiveRegistered runtime) {worker : WorkerPtr}
    {value : Worker} (key : value.key = (runtime.heap worker).key)
    (live : value.live = true → (runtime.heap worker).live = true) :
    LiveRegistered (runtime.setWorker worker value) := by
  intro other alive
  rcases eq_or_ne other worker with rfl | ne
  · rw [setWorker_heap_self] at alive ⊢
    rw [key]
    exact registered other (live alive)
  · rw [setWorker_heap_of_ne _ _ ne] at alive ⊢
    exact registered other alive

/-- Emptying a slot loses no live worker exactly when none was in it. -/
theorem liveRegistered_erase_iff (registered : LiveRegistered runtime) (sound : Sound runtime)
    (key : Text) :
    LiveRegistered { runtime with workers_ := runtime.workers_.erase key } ↔
      runtime.SlotQuiet key := by
  constructor
  · intro kept worker present
    rw [← Bool.not_eq_true]
    intro live
    have reachable := kept worker live
    dsimp only at reachable
    rw [(sound.registered key worker present).2, Std.ExtTreeMap.getElem?_erase_self] at reachable
    cases reachable
  · intro quiet worker live
    have reachable := registered worker live
    dsimp only
    rw [Std.ExtTreeMap.getElem?_erase]
    split
    · next same =>
        rw [← Std.LawfulEqCmp.eq_of_compare same] at reachable
        rw [quiet worker reachable] at live
        cases live
    · exact reachable

theorem LiveRegistered.joinThread (registered : LiveRegistered runtime) {worker : WorkerPtr}
    {shared : ManagedTunnelRuntime} (joined : runtime.joinThread worker = some shared) :
    LiveRegistered shared := by
  rcases joinThread_cases joined with ⟨-, rfl⟩ | ⟨-, -, rfl⟩
  · exact registered
  · exact registered.setWorker rfl id

theorem LiveRegistered.emplaced (registered : LiveRegistered runtime) (call : ControlCall)
    (config : Config) :
    LiveRegistered { runtime.setWorker runtime.made (makeWorker runtime.clock call config) with
      made := runtime.made + 1
      workers_ := runtime.workers_.insertIfNew call.key runtime.made } := by
  intro worker live
  dsimp only at live ⊢
  rcases eq_or_ne worker runtime.made with rfl | ne
  · rw [setWorker_heap_self] at live
    cases live
  · rw [setWorker_heap_of_ne _ _ ne] at live ⊢
    have reachable := registered worker live
    rw [Std.ExtTreeMap.getElem?_insertIfNew, if_neg, reachable]
    intro held
    obtain ⟨same, free⟩ := held
    apply free
    rw [Std.LawfulEqCmp.eq_of_compare same, Std.ExtTreeMap.mem_iff_isSome_getElem?, reachable]
    rfl

private theorem callKeepsRegistered_iff (registered : LiveRegistered runtime) (sound : Sound runtime)
    {call : ControlCall} {point : CallPoint} {shared : ManagedTunnelRuntime} {state : CallerState}
    (advanced : CallStep runtime call point shared state) :
    LiveRegistered shared ↔ runtime.CallKeepsRegistered call point := by
  cases advanced with
  | notManaged | alreadyFinished | stopPublished | notFound | unknownTunnel | needsClient
  | lookedUp | announced | initialPublished => exact iff_of_true registered trivial
  | stopped present unfinished =>
      refine iff_of_true (registered.setWorker ?_ ?_) trivial
      · simp [transition]
      · simp [transition, Worker.live]
  | found present =>
      refine iff_of_true (registered.setWorker ?_ ?_) trivial
      · simp
      · simp [Worker.live]
  | joined done => exact iff_of_true (registered.joinThread done) trivial
  | finishedJoined done => exact iff_of_true (registered.joinThread done) trivial
  | removed present =>
      rw [liveRegistered_erase_iff registered sound]
      constructor
      · exact fun quiet there => quiet _ there
      · intro quiet worker there
        obtain rfl := Option.some.inj (present.symm.trans there)
        exact quiet present
  | kept absent => exact iff_of_true registered fun present => absurd present absent
  | slotFree free =>
      refine iff_of_true registered fun worker present => ?_
      rw [free] at present
      cases present
  | slotActive present active =>
      refine iff_of_true registered fun worker there => .inl ?_
      obtain rfl := Option.some.inj (present.symm.trans there)
      exact active
  | slotReleased present inactive =>
      rw [liveRegistered_erase_iff registered sound]
      constructor
      · exact fun quiet worker there => .inr (quiet worker there)
      · intro allowed worker there
        obtain rfl := Option.some.inj (present.symm.trans there)
        rcases allowed _ there with active | quiet
        · rw [inactive] at active
          cases active
        · exact quiet
  | emplaced => exact iff_of_true (registered.emplaced call _) trivial
  | @constructed worker =>
      constructor
      · intro kept
        have reachable := kept worker (by rw [setWorker_heap_self]; rfl)
        rwa [setWorker_heap_self] at reachable
      · intro here other live
        rcases eq_or_ne other worker with rfl | ne
        · rw [setWorker_heap_self]
          exact here
        · rw [setWorker_heap_of_ne _ _ ne] at live ⊢
          exact registered other live
  | assigned => exact iff_of_true (registered.setWorker rfl id) trivial
  | erased => exact liveRegistered_erase_iff registered sound call.key

private theorem keepsRegistered_iff (sound : Sound runtime) (registered : LiveRegistered runtime)
    {label : RuntimeLabel} {next : ManagedTunnelRuntime} (stepped : runtime.step label = some next) :
    LiveRegistered next ↔ runtime.KeepsRegistered label := by
  cases stepped_of_step stepped with
  | tick | configure | call | threadFails => exact iff_of_true registered trivial
  | advance running advanced =>
      refine (callKeepsRegistered_iff registered sound advanced).trans ?_
      constructor
      · intro allowed call point same
        cases running.symm.trans same
        exact allowed
      · exact fun allowed => allowed _ _ running
  | @worker worker event value moved =>
      refine iff_of_true (registered.setWorker (key_of_change (.body moved)) fun _ => ?_) trivial
      rw [Worker.live_iff]
      constructor
      · intro absent
        cases moved <;> simp_all
      · intro ended
        cases moved <;> simp_all

end Steps

/-- The registry knows all live workers throughout a run, at most one for each kind
and alias, exactly when no step of the run takes a live worker out of its slot or
creates a thread for a worker that is not in its slot. -/
theorem liveWorkers_registered_iff (configuration : TunnelConfiguration)
    (labels : List RuntimeLabel) (final : ManagedTunnelRuntime)
    (ran : managedTunnelRuntime.exec { configuration := configuration } labels = some final) :
    managedTunnelRuntime.Along (fun runtime => LiveUnique runtime ∧ LiveRegistered runtime)
        { configuration := configuration } labels ↔
      managedTunnelRuntime.Guarded KeepsRegistered { configuration := configuration } labels := by
  have exact := @Machine.along_iff_guarded _ _ managedTunnelRuntime KeepsRegistered Sound
    LiveRegistered (fun sound stepped => sound.step stepped)
    (fun sound registered stepped => keepsRegistered_iff sound registered stepped)
    _ _ _ ran (sound_start configuration) (fun worker live => by cases live)
  rw [← exact]
  constructor
  · exact fun both passed within reached reaches => (both passed within reached reaches).2
  · intro registered passed within reached reaches
    have here := registered passed within reached reaches
    exact ⟨here.unique (sound_of_exec reaches), here⟩

/-- Two callers start `a`: both find the slot free, and both go on. -/
def twoStarts : List RuntimeLabel :=
  [.call 0 (.start (ascii "a")), .call 1 (.start (ascii "a"))] ++
    [0, 0, 1, 1, 0, 1, 0, 0, 0, 1, 1, 1].map RuntimeLabel.advance

private theorem twoStarts_unregistered : ∃ runtime,
    managedTunnelRuntime.exec { configuration := soleServer } twoStarts = some runtime ∧
      ¬ LiveRegistered runtime := by
  have seen : (managedTunnelRuntime.exec { configuration := soleServer } twoStarts).map
      (fun runtime => ((runtime.heap 1).live, runtime.workers_[(runtime.heap 1).key]?)) =
      some (true, some 0) := by decide
  obtain ⟨runtime, ran, observed⟩ := Option.map_eq_some_iff.mp seen
  obtain ⟨live, present⟩ := Prod.mk.inj observed
  refine ⟨runtime, ran, fun registered => ?_⟩
  have reachable := registered 1 live
  rw [present] at reachable
  cases reachable

theorem liveWorkers_unregistered : ¬ ∀ (configuration : TunnelConfiguration)
    (labels : List RuntimeLabel) (final : ManagedTunnelRuntime),
    managedTunnelRuntime.exec { configuration := configuration } labels = some final →
    managedTunnelRuntime.Along (fun runtime => LiveUnique runtime ∧ LiveRegistered runtime)
      { configuration := configuration } labels := by
  intro claimed
  obtain ⟨runtime, ran, unregistered⟩ := twoStarts_unregistered
  exact unregistered (claimed soleServer twoStarts runtime ran twoStarts List.prefix_rfl runtime ran).2

/-- The second of two starts creates its thread for a worker that has no slot. -/
theorem liveWorkers_registered_iff_twoStarts :
    ¬ managedTunnelRuntime.Guarded KeepsRegistered { configuration := soleServer } twoStarts := by
  obtain ⟨runtime, ran, unregistered⟩ := twoStarts_unregistered
  intro guarded
  have along := (liveWorkers_registered_iff soleServer twoStarts runtime ran).mpr guarded
  exact unregistered (along twoStarts List.prefix_rfl runtime ran).2

end ManagedTunnelRuntime

end DatagramTunneler
