import DatagramTunneler.Control.WorkerRegistration

/-! The runtime under its only caller in the program, the thread that serves one
connection after the other. The registry then knows every live worker but one whose
end the caller is waiting for, so a key has one live worker at most. -/

set_option autoImplicit false

namespace DatagramTunneler

open Foundation

namespace ManagedTunnelRuntime

/-- What the only caller finds where it is in a call. -/
def Placed (runtime : ManagedTunnelRuntime) (call : ControlCall) : CallPoint → Prop
  | .joinFinished _ worker =>
      (runtime.heap worker).key = call.key ∧ runtime.workers_[call.key]? = none
  | .emplace _ => runtime.workers_[call.key]? = none
  | .announce worker | .publishInitial worker _ | .construct worker | .assign worker =>
      runtime.workers_[call.key]? = some worker
  | .remove worker => (runtime.heap worker).live = false
  | .eraseFailed _ => runtime.SlotQuiet call.key
  | .requestStop | .publishStop _ | .find | .join _ | .lookup | .releaseFinishedSlot _ => True

/-- What holds of a runtime with one caller, which is in `state`. -/
structure SoleCaller (runtime : ManagedTunnelRuntime) (state : CallerState) : Prop where
  live : ∀ worker, (runtime.heap worker).live = true →
    runtime.workers_[(runtime.heap worker).key]? = some worker ∨
      ∃ call config, state = .running call (.joinFinished config worker)
  handle : ∀ worker, (runtime.heap worker).live = true → (runtime.heap worker).thread = .joinable ∨
    ∃ call, state = .running call (.assign worker)
  placed : ∀ call point, state = .running call point → runtime.Placed call point

theorem live_of_bodyStep {clock : Clock} {worker value : Worker} {event : WorkerEvent}
    (moved : BodyStep clock worker event value) : worker.live = true := by
  rw [Worker.live_iff]
  cases moved <;> simp_all

theorem made_of_live {runtime : ManagedTunnelRuntime} (sound : Sound runtime) {worker : WorkerPtr}
    (live : (runtime.heap worker).live = true) : worker < runtime.made := by
  by_contra unmade
  rw [sound.fresh worker (Nat.not_lt.mp unmade)] at live
  cases live

theorem made_of_worker {runtime next : ManagedTunnelRuntime} (sound : Sound runtime)
    {worker : WorkerPtr} {event : WorkerEvent}
    (stepped : runtime.step (.worker worker event) = some next) : worker < runtime.made := by
  cases stepped_of_step stepped with
  | worker moved => exact made_of_live sound (live_of_bodyStep moved)

section Steps

variable {runtime : ManagedTunnelRuntime} {state : CallerState} {call : ControlCall}
  {point : CallPoint}

theorem soleCaller_start (configuration : TunnelConfiguration) :
    SoleCaller { configuration := configuration } .idle where
  live := by intro worker live; cases live
  handle := by intro worker live; cases live
  placed := by intro call point running; cases running

/-- The live worker of a key that has one registered is that one. -/
theorem SoleCaller.unique (sole : SoleCaller runtime state) {key : Text} {first last : WorkerPtr}
    (registered : runtime.workers_[key]? = some first) (live : (runtime.heap last).live = true)
    (named : (runtime.heap last).key = key) : last = first := by
  rcases sole.live last live with present | ⟨call, config, waiting⟩
  · rw [named, registered] at present
    exact (Option.some.inj present).symm
  · obtain ⟨same, free⟩ := sole.placed _ _ waiting
    rw [← same, named, registered] at free
    cases free

theorem SoleCaller.registered (sole : SoleCaller runtime (.running call point))
    (elsewhere : ∀ config worker, point ≠ .joinFinished config worker) : LiveRegistered runtime := by
  intro worker live
  rcases sole.live worker live with present | ⟨_, _, waiting⟩
  · exact present
  · cases waiting
    exact absurd rfl (elsewhere _ _)

theorem SoleCaller.joinable (sole : SoleCaller runtime (.running call point))
    (elsewhere : ∀ worker, point ≠ .assign worker) (worker : WorkerPtr)
    (live : (runtime.heap worker).live = true) : (runtime.heap worker).thread = .joinable := by
  rcases sole.handle worker live with joinable | ⟨_, assigning⟩
  · exact joinable
  · cases assigning
    exact absurd rfl (elsewhere _)

/-- With all live workers registered and assigned the caller may be anywhere that suits it. -/
theorem soleCaller_of_registered (registered : LiveRegistered runtime)
    (joinable : ∀ worker, (runtime.heap worker).live = true →
      (runtime.heap worker).thread = .joinable)
    (placed : ∀ call point, state = .running call point → runtime.Placed call point) :
    SoleCaller runtime state where
  live := fun worker live => .inl (registered worker live)
  handle := fun worker live => .inl (joinable worker live)
  placed := placed

private theorem joinable_setWorker {worker : WorkerPtr} {value : Worker}
    (joinable : ∀ other, (runtime.heap other).live = true → (runtime.heap other).thread = .joinable)
    (changed : value.live = true →
      (runtime.heap worker).live = true ∧ value.thread = (runtime.heap worker).thread)
    (other : WorkerPtr) (live : ((runtime.setWorker worker value).heap other).live = true) :
    ((runtime.setWorker worker value).heap other).thread = .joinable := by
  rcases eq_or_ne other worker with rfl | ne
  · rw [setWorker_heap_self] at live ⊢
    obtain ⟨before, same⟩ := changed live
    rw [same]
    exact joinable other before
  · rw [setWorker_heap_of_ne _ _ ne] at live ⊢
    exact joinable other live

/-- The thread that has been joined is not live, and nothing else changes. -/
theorem soleCaller_joined {worker : WorkerPtr} {shared : ManagedTunnelRuntime}
    (joinable : ∀ other, (runtime.heap other).live = true → (runtime.heap other).thread = .joinable)
    (joined : runtime.joinThread worker = some shared) :
    (shared.heap worker).live = false ∧ shared.workers_ = runtime.workers_ ∧
      ∀ other, (shared.heap other).live = true → (runtime.heap other).live = true ∧
        (shared.heap other).key = (runtime.heap other).key ∧
        (shared.heap other).thread = (runtime.heap other).thread := by
  rcases joinThread_cases joined with ⟨absent, rfl⟩ | ⟨-, ended, rfl⟩
  · refine ⟨?_, rfl, fun other live => ⟨live, rfl, rfl⟩⟩
    rw [← Bool.not_eq_true]
    exact fun live => absent (joinable worker live)
  · refine ⟨?_, rfl, fun other live => ?_⟩
    · rw [setWorker_heap_self]
      simp [Worker.live, ended]
    · rcases eq_or_ne other worker with rfl | ne
      · rw [setWorker_heap_self] at live
        simp [Worker.live, ended] at live
      · rw [setWorker_heap_of_ne _ _ ne] at live ⊢
        exact ⟨live, rfl, rfl⟩

private theorem afterStop_placed {running : ControlCall} (reached : afterStop call = .running running point) :
    runtime.Placed running point := by
  unfold afterStop at reached
  split at reached
  · cases reached
    trivial
  · cases reached
  · cases reached

/-- A worker that is told to stop stays where it is. -/
theorem SoleCaller.told (sole : SoleCaller runtime (.running call point))
    (elsewhere : ∀ config worker, point ≠ .joinFinished config worker)
    (assigned : ∀ worker, point ≠ .assign worker) {worker : WorkerPtr} {value : Worker}
    (key : value.key = (runtime.heap worker).key)
    (live : value.live = true → (runtime.heap worker).live = true)
    (thread : value.thread = (runtime.heap worker).thread)
    (placed : ∀ call point, state = .running call point →
      (runtime.setWorker worker value).Placed call point) :
    SoleCaller (runtime.setWorker worker value) state := by
  have joinable := joinable_setWorker (sole.joinable assigned) fun alive => ⟨live alive, thread⟩
  exact soleCaller_of_registered ((sole.registered elsewhere).setWorker key live) joinable placed

/-- A slot is released only to join the worker it held. -/
theorem SoleCaller.release {config : Config} {worker : WorkerPtr}
    (sole : SoleCaller runtime (.running call (.releaseFinishedSlot config))) (sound : Sound runtime)
    (present : runtime.workers_[call.key]? = some worker) :
    SoleCaller { runtime with workers_ := runtime.workers_.erase call.key }
      (.running call (.joinFinished config worker)) where
  live := by
    intro other live
    have here := sole.registered (by simp) other live
    by_cases same : (runtime.heap other).key = call.key
    · rw [same, present] at here
      exact .inr ⟨call, config, by rw [Option.some.inj here]⟩
    · refine .inl ?_
      rw [Std.ExtTreeMap.getElem?_erase, if_neg, here]
      exact fun equal => same (Std.LawfulEqCmp.eq_of_compare equal).symm
  handle := fun other live => .inl (sole.joinable (by simp) other live)
  placed := by
    intro _ _ reached
    cases reached
    exact ⟨(sound.registered _ _ present).2, Std.ExtTreeMap.getElem?_erase_self⟩

theorem SoleCaller.joinFinished {config : Config} {worker : WorkerPtr}
    (sole : SoleCaller runtime (.running call (.joinFinished config worker)))
    {shared : ManagedTunnelRuntime} (joined : runtime.joinThread worker = some shared) :
    SoleCaller shared (.running call (.emplace config)) := by
  obtain ⟨quiet, same, kept⟩ := soleCaller_joined (sole.joinable (by simp)) joined
  refine soleCaller_of_registered ?_ ?_ ?_
  · intro other live
    obtain ⟨before, key, -⟩ := kept other live
    rcases sole.live other before with present | ⟨_, _, waiting⟩
    · rw [same, key]
      exact present
    · cases waiting
      rw [quiet] at live
      cases live
  · intro other live
    obtain ⟨before, -, thread⟩ := kept other live
    rw [thread]
    exact sole.joinable (by simp) other before
  · intro _ _ reached
    cases reached
    show shared.workers_[call.key]? = none
    rw [same]
    exact (sole.placed _ _ rfl).2

/-- The slot is free, so the new worker gets it. -/
theorem SoleCaller.emplace {config : Config}
    (sole : SoleCaller runtime (.running call (.emplace config))) :
    SoleCaller
      { runtime.setWorker runtime.made (makeWorker runtime.clock call config) with
        made := runtime.made + 1
        workers_ := runtime.workers_.insertIfNew call.key runtime.made }
      (.running call (.announce runtime.made)) := by
  have free : runtime.workers_[call.key]? = none := sole.placed _ _ rfl
  refine soleCaller_of_registered ((sole.registered (by simp)).emplaced call _) ?_ ?_
  · intro other live
    rcases eq_or_ne other runtime.made with rfl | ne
    · dsimp only at live
      rw [setWorker_heap_self] at live
      cases live
    · dsimp only at live ⊢
      rw [setWorker_heap_of_ne _ _ ne] at live ⊢
      exact sole.joinable (by simp) other live
  · intro _ _ reached
    cases reached
    show (runtime.workers_.insertIfNew call.key runtime.made)[call.key]? = some runtime.made
    rw [Std.ExtTreeMap.getElem?_insertIfNew, if_pos]
    refine ⟨Std.ReflCmp.compare_self, ?_⟩
    rw [Std.ExtTreeMap.mem_iff_isSome_getElem?, free]
    simp

theorem SoleCaller.construct {worker : WorkerPtr}
    (sole : SoleCaller runtime (.running call (.construct worker))) (sound : Sound runtime) :
    SoleCaller
      (runtime.setWorker worker { runtime.heap worker with body := .entry, stop_token := some false })
      (.running call (.assign worker)) := by
  have inSlot : runtime.workers_[call.key]? = some worker := sole.placed _ _ rfl
  have named := (sound.registered _ _ inSlot).2
  refine { live := ?_, handle := ?_, placed := ?_ }
  · intro other live
    rcases eq_or_ne other worker with rfl | ne
    · rw [setWorker_heap_self]
      refine .inl ?_
      rw [setWorker_workers_, named]
      exact inSlot
    · rw [setWorker_heap_of_ne _ _ ne] at live ⊢
      exact .inl (sole.registered (by simp) other live)
  · intro other live
    rcases eq_or_ne other worker with rfl | ne
    · exact .inr ⟨call, rfl⟩
    · rw [setWorker_heap_of_ne _ _ ne] at live ⊢
      exact .inl (sole.joinable (by simp) other live)
  · intro _ _ reached
    cases reached
    exact inSlot

theorem SoleCaller.assign {worker : WorkerPtr}
    (sole : SoleCaller runtime (.running call (.assign worker))) :
    SoleCaller (runtime.setWorker worker { runtime.heap worker with thread := .joinable })
      .returned := by
  refine soleCaller_of_registered ((sole.registered (by simp)).setWorker rfl id) ?_ (by simp)
  intro other live
  rcases eq_or_ne other worker with rfl | ne
  · rw [setWorker_heap_self]
  · rw [setWorker_heap_of_ne _ _ ne] at live ⊢
    rcases sole.handle other live with joinable | ⟨_, assigning⟩
    · exact joinable
    · cases assigning
      exact absurd rfl ne

/-- A step of the only caller keeps what it relies on. -/
theorem SoleCaller.callStep (sole : SoleCaller runtime (.running call point)) (sound : Sound runtime)
    {shared : ManagedTunnelRuntime} (advanced : CallStep runtime call point shared state) :
    SoleCaller shared state := by
  have placed := sole.placed call point rfl
  cases advanced with
  | notManaged | notFound | unknownTunnel | needsClient | slotActive =>
      exact soleCaller_of_registered (sole.registered (by simp)) (sole.joinable (by simp)) (by simp)
  | alreadyFinished | stopPublished =>
      exact soleCaller_of_registered (sole.registered (by simp)) (sole.joinable (by simp))
        fun _ _ reached => afterStop_placed reached
  | kept | lookedUp =>
      refine soleCaller_of_registered (sole.registered (by simp)) (sole.joinable (by simp)) ?_
      intro _ _ reached
      cases reached
      trivial
  | slotFree free =>
      refine soleCaller_of_registered (sole.registered (by simp)) (sole.joinable (by simp)) ?_
      intro _ _ reached
      cases reached
      exact free
  | announced | initialPublished =>
      refine soleCaller_of_registered (sole.registered (by simp)) (sole.joinable (by simp)) ?_
      intro _ _ reached
      cases reached
      exact placed
  | stopped present unfinished =>
      refine sole.told (by simp) (by simp) (by simp [transition]) ?_ (by simp [transition]) ?_
      · simp [transition, Worker.live]
      · intro _ _ reached
        cases reached
        trivial
  | found present =>
      refine sole.told (by simp) (by simp) (by simp) ?_ (by simp) ?_
      · simp [Worker.live]
      · intro _ _ reached
        cases reached
        trivial
  | joined done =>
      obtain ⟨quiet, same, kept⟩ := soleCaller_joined (sole.joinable (by simp)) done
      refine soleCaller_of_registered ((sole.registered (by simp)).joinThread done) ?_ ?_
      · intro worker live
        obtain ⟨before, -, thread⟩ := kept worker live
        rw [thread]
        exact sole.joinable (by simp) worker before
      · intro _ _ reached
        cases reached
        exact quiet
  | removed present =>
      refine soleCaller_of_registered ?_ (sole.joinable (by simp)) ?_
      · refine (liveRegistered_erase_iff (sole.registered (by simp)) sound _).mpr ?_
        intro worker there
        rw [present] at there
        rw [← Option.some.inj there]
        exact placed
      · intro _ _ reached
        cases reached
        trivial
  | slotReleased present => exact sole.release sound present
  | finishedJoined done => exact sole.joinFinished done
  | emplaced => exact sole.emplace
  | constructed => exact sole.construct sound
  | assigned => exact sole.assign
  | erased =>
      exact soleCaller_of_registered
        ((liveRegistered_erase_iff (sole.registered (by simp)) sound _).mpr placed)
        (sole.joinable (by simp)) (by simp)

/-- A step of a thread function keeps what the caller relies on. -/
theorem SoleCaller.body (sole : SoleCaller runtime state) {worker : WorkerPtr} {value : Worker}
    {event : WorkerEvent} (moved : BodyStep runtime.clock (runtime.heap worker) event value) :
    SoleCaller (runtime.setWorker worker value) state := by
  have live := live_of_bodyStep moved
  have key := key_of_change (.body moved)
  refine { live := ?_, handle := ?_, placed := ?_ }
  · intro other alive
    rcases eq_or_ne other worker with rfl | ne
    · rw [setWorker_heap_self, key]
      exact sole.live other live
    · rw [setWorker_heap_of_ne _ _ ne] at alive ⊢
      exact sole.live other alive
  · intro other alive
    rcases eq_or_ne other worker with rfl | ne
    · rw [setWorker_heap_self, thread_of_bodyStep moved]
      exact sole.handle other live
    · rw [setWorker_heap_of_ne _ _ ne] at alive ⊢
      exact sole.handle other alive
  · intro call point reached
    have placed := sole.placed call point reached
    cases point with
    | requestStop | publishStop | find | join | lookup | releaseFinishedSlot => trivial
    | emplace | announce | publishInitial | construct | assign => exact placed
    | joinFinished config other =>
        refine ⟨?_, placed.2⟩
        rcases eq_or_ne other worker with rfl | ne
        · rw [setWorker_heap_self, key]
          exact placed.1
        · rw [setWorker_heap_of_ne _ _ ne]
          exact placed.1
    | remove other =>
        have ne : other ≠ worker := by
          intro same
          subst same
          have quiet : (runtime.heap other).live = false := placed
          rw [live] at quiet
          cases quiet
        show ((runtime.setWorker worker value).heap other).live = false
        rw [setWorker_heap_of_ne _ _ ne]
        exact placed
    | eraseFailed what =>
        intro other present
        have quiet := placed other present
        have ne : other ≠ worker := by
          intro same
          subst same
          rw [live] at quiet
          cases quiet
        rw [setWorker_heap_of_ne _ _ ne]
        exact quiet

/-- A step of the only caller, a step of a worker or the passing of time. -/
theorem SoleCaller.step {caller : Nat} (sole : SoleCaller runtime (runtime.callers caller))
    (sound : Sound runtime) {label : RuntimeLabel} {next : ManagedTunnelRuntime}
    (alone : ∀ other, (label = .advance other ∨ (∃ call, label = .call other call) ∨
      ∃ what, label = .threadFails other what) → other = caller)
    (stepped : runtime.step label = some next) : SoleCaller next (next.callers caller) := by
  cases stepped_of_step stepped with
  | tick | configure => exact { sole with }
  | @call other begun idle =>
      obtain rfl := alone other (.inr (.inl ⟨_, rfl⟩))
      rw [setCaller_callers_self]
      refine { live := ?_, handle := ?_, placed := ?_ }
      · intro worker live
        rcases sole.live worker live with present | ⟨_, _, waiting⟩
        · exact .inl present
        · exact absurd waiting (idle _ _)
      · intro worker live
        rcases sole.handle worker live with joinable | ⟨_, assigning⟩
        · exact .inl joinable
        · exact absurd assigning (idle _ _)
      · intro _ _ reached
        cases reached
        unfold firstPoint
        split <;> trivial
  | @advance other running point shared state there advanced =>
      obtain rfl := alone other (.inl rfl)
      rw [there] at sole
      rw [setCaller_callers_self]
      have moved := sole.callStep sound advanced
      exact { moved with }
  | @threadFails other running worker what there =>
      obtain rfl := alone other (.inr (.inr ⟨_, rfl⟩))
      rw [there] at sole
      rw [setCaller_callers_self]
      refine soleCaller_of_registered (sole.registered (by simp)) (sole.joinable (by simp)) ?_
      intro _ _ reached
      cases reached
      intro other present
      have inSlot : runtime.workers_[running.key]? = some worker := sole.placed _ _ rfl
      have absent := sound.building _ _ _ worker there rfl
      obtain rfl : worker = other := Option.some.inj (inSlot.symm.trans present)
      show (runtime.heap worker).live = false
      simp [Worker.live, absent]
  | worker moved => exact sole.body moved

end Steps

end ManagedTunnelRuntime

end DatagramTunneler
