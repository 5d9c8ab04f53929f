import DatagramTunneler.Control.RuntimeInvariants

/-! What a call that throws leaves behind. The checks of a start stand before its
changes, those of the start inside a restart after the worker has been stopped and
removed. A call is followed together with a shadow of the runtime in which the
workers take the same steps and the call does not exist. -/

set_option autoImplicit false

namespace DatagramTunneler

open Foundation

/-- Steps the workers take on their own, and the passing of time. -/
def RuntimeLabel.ofWorkers : RuntimeLabel → Bool
  | .tick _ | .worker _ _ => true
  | .configure _ | .call _ _ | .advance _ | .threadFails _ _ => false

/-- Steps of the call a caller is in. -/
def RuntimeLabel.ofCall (caller : Nat) : RuntimeLabel → Bool
  | .advance other | .threadFails other _ => other = caller
  | .tick _ | .configure _ | .call _ _ | .worker _ _ => false

/-- Creating a thread for this caller fails. -/
def RuntimeLabel.failsThread (caller : Nat) : RuntimeLabel → Bool
  | .threadFails other _ => other = caller
  | .tick _ | .configure _ | .call _ _ | .advance _ | .worker _ _ => false

namespace ManagedTunnelRuntime

/-- The worker registered under a key, its state, and whether its thread is to stop. -/
def observe (runtime : ManagedTunnelRuntime) (key : Text) :
    Option (WorkerPtr × TunnelState × Bool) :=
  runtime.workers_[key]?.map fun worker =>
    (worker, (runtime.heap worker).snapshot.state, (runtime.heap worker).stop_requested)

/-- The workers alone can bring the registry from what it was to what it is. -/
def Unchanged (before after : ManagedTunnelRuntime) : Prop :=
  ∃ labels reached, (∀ label ∈ labels, label.ofWorkers = true) ∧
    managedTunnelRuntime.exec before labels = some reached ∧
    ∀ key, reached.observe key = after.observe key

/-- There is a worker under the key. -/
def Registered (runtime : ManagedTunnelRuntime) (key : Text) : Prop :=
  ∃ worker, runtime.workers_[key]? = some worker

/-! ## The shadow -/

/-- The workers of `before`, left alone, have come to where those in `runtime` are. -/
def Shadow (before runtime : ManagedTunnelRuntime) : Prop :=
  ∃ labels reached, (∀ label ∈ labels, label.ofWorkers = true) ∧
    managedTunnelRuntime.exec before labels = some reached ∧
    reached.clock = runtime.clock ∧ reached.workers_ = before.workers_ ∧
    ∀ worker < before.made, reached.heap worker = runtime.heap worker

section Shadows

variable {before runtime next : ManagedTunnelRuntime}

theorem Shadow.refl (before : ManagedTunnelRuntime) : Shadow before before :=
  ⟨[], before, by simp, rfl, rfl, rfl, fun _ _ => rfl⟩

/-- Steps that leave the clock and the older workers as they are go unseen. -/
theorem Shadow.unseen (shadow : Shadow before runtime) (clock : next.clock = runtime.clock)
    (heap : ∀ worker < before.made, next.heap worker = runtime.heap worker) :
    Shadow before next := by
  obtain ⟨labels, reached, own, ran, sameClock, sameRegistry, sameHeap⟩ := shadow
  refine ⟨labels, reached, own, ran, sameClock.trans clock.symm, sameRegistry, ?_⟩
  intro worker inside
  exact (sameHeap worker inside).trans (heap worker inside).symm

/-- A step of the workers is taken by the shadow too. -/
theorem Shadow.step (shadow : Shadow before runtime) {label : RuntimeLabel}
    (own : label.ofWorkers = true) (stepped : runtime.step label = some next) :
    Shadow before next := by
  obtain ⟨labels, reached, before', ran, sameClock, sameRegistry, sameHeap⟩ := shadow
  cases label with
  | configure | call | advance | threadFails => cases own
  | tick clock =>
      cases stepped
      refine ⟨labels ++ [.tick clock], { reached with clock := clock }, ?_,
        (managedTunnelRuntime.exec_snoc_iff).mpr ⟨reached, ran, rfl⟩, rfl, sameRegistry, sameHeap⟩
      intro label inside
      rcases List.mem_append.mp inside with old | new
      · exact before' label old
      · rw [List.mem_singleton.mp new]
        rfl
  | worker worker event =>
      obtain ⟨value, moved, rfl⟩ := Option.map_eq_some_iff.mp stepped
      by_cases old : worker < before.made
      · have follows : managedTunnelRuntime.step reached (.worker worker event) =
            some (reached.setWorker worker value) := by
          simp only [managedTunnelRuntime, ManagedTunnelRuntime.step, sameClock,
            sameHeap worker old, moved, Option.map_some]
        refine ⟨labels ++ [.worker worker event], reached.setWorker worker value, ?_,
          (managedTunnelRuntime.exec_snoc_iff).mpr ⟨reached, ran, follows⟩, sameClock,
          sameRegistry, ?_⟩
        · intro label inside
          rcases List.mem_append.mp inside with old | new
          · exact before' label old
          · rw [List.mem_singleton.mp new]
            rfl
        · intro other inside
          rcases eq_or_ne other worker with rfl | ne
          · rw [setWorker_heap_self, setWorker_heap_self]
          · rw [setWorker_heap_of_ne _ _ ne, setWorker_heap_of_ne _ _ ne]
            exact sameHeap other inside
      · refine ⟨labels, reached, before', ran, sameClock, sameRegistry, ?_⟩
        intro other inside
        have ne : other ≠ worker := fun same => old (same ▸ inside)
        rw [setWorker_heap_of_ne _ _ ne]
        exact sameHeap other inside

theorem Shadow.unchanged (shadow : Shadow before runtime) (sound : Sound before)
    (registry : runtime.workers_ = before.workers_) : Unchanged before runtime := by
  obtain ⟨labels, reached, own, ran, -, sameRegistry, sameHeap⟩ := shadow
  refine ⟨labels, reached, own, ran, fun key => ?_⟩
  unfold observe
  rw [registry, sameRegistry]
  cases present : before.workers_[key]? with
  | none => rfl
  | some worker => simp only [Option.map_some, sameHeap worker (sound.registered _ _ present).1]

private theorem workers_of_ofWorkers {label : RuntimeLabel} (own : label.ofWorkers = true)
    (stepped : runtime.step label = some next) : next.workers_ = runtime.workers_ := by
  cases stepped_of_step stepped with
  | tick | worker => rfl
  | configure | call | advance | threadFails => cases own

/-- The workers never empty a slot. -/
theorem not_unchanged_of_emptied {key : Text} (present : before.Registered key)
    (emptied : runtime.workers_[key]? = none) : ¬ Unchanged before runtime := by
  intro held
  obtain ⟨labels, reached, own, ran, same⟩ := held
  have kept : reached.workers_ = before.workers_ := by
    clear same
    induction labels generalizing before with
    | nil => cases ran; rfl
    | cons label labels ih =>
        obtain ⟨next, stepped, ran⟩ := (managedTunnelRuntime.exec_cons_iff).mp ran
        have first := workers_of_ofWorkers (own label List.mem_cons_self) stepped
        have there : next.Registered key := by
          unfold Registered
          rw [first]
          exact present
        exact (ih there (fun label inside => own label (List.mem_cons_of_mem _ inside)) ran).trans first
  obtain ⟨worker, present⟩ := present
  have here := same key
  unfold observe at here
  rw [kept, present, emptied] at here
  cases here

end Shadows

/-! ## The registry -/

section Registry

variable {registry : Std.ExtTreeMap Text WorkerPtr compare} {key : Text}

private theorem erase_of_free (free : registry[key]? = none) : registry.erase key = registry := by
  apply Std.ExtTreeMap.ext_getElem?
  intro other
  rw [Std.ExtTreeMap.getElem?_erase]
  split
  · next same => rw [← Std.LawfulEqCmp.eq_of_compare same, free]
  · rfl

private theorem erase_erase : (registry.erase key).erase key = registry.erase key :=
  erase_of_free Std.ExtTreeMap.getElem?_erase_self

private theorem erase_insertIfNew (worker : WorkerPtr) :
    (registry.insertIfNew key worker).erase key = registry.erase key := by
  apply Std.ExtTreeMap.ext_getElem?
  intro other
  rw [Std.ExtTreeMap.getElem?_erase, Std.ExtTreeMap.getElem?_erase,
    Std.ExtTreeMap.getElem?_insertIfNew]
  split
  · rfl
  · next different => rw [if_neg fun same => different same.1]

end Registry

/-! ## Where a call can be -/

/-- The start inside a call begins: of its own, or after the removal of a restart. -/
def Opening (before : ManagedTunnelRuntime) (call : ControlCall) (spared : Bool)
    (registry : Std.ExtTreeMap Text WorkerPtr compare) : Prop :=
  (call.operation = .start ∧ spared = true ∧ registry = before.workers_) ∨
    (call.operation = .restart ∧ spared = false ∧ registry = before.workers_.erase call.key ∧
      before.Registered call.key)

/-- The slot was free, or the call has emptied it. -/
def Emptied (before : ManagedTunnelRuntime) (call : ControlCall) (spared : Bool) : Prop :=
  (spared = true ∧ call.operation = .start ∧ before.workers_[call.key]? = none) ∨
    (spared = false ∧ before.Registered call.key)

/-- Where a call that began in `before` is, what it has made of the registry, whether
creating its thread has failed, and whether it has spared the workers that were there. -/
inductive Place (before : ManagedTunnelRuntime) (call : ControlCall) :
    Bool → Bool → Std.ExtTreeMap Text WorkerPtr compare → CallerState → Prop where
  | asking : call.operation ≠ .start →
      Place before call false true before.workers_ (.running call .requestStop)
  | stopping {notice : Notice} : before.Registered call.key → call.operation ≠ .start →
      Place before call false false before.workers_ (.running call (.publishStop notice))
  | finding : before.Registered call.key → call.operation = .restart →
      Place before call false false before.workers_ (.running call .find)
  | joining {worker : WorkerPtr} : before.workers_[call.key]? = some worker →
      call.operation = .restart →
      Place before call false false before.workers_ (.running call (.join worker))
  | removing {worker : WorkerPtr} : before.workers_[call.key]? = some worker →
      call.operation = .restart →
      Place before call false false before.workers_ (.running call (.remove worker))
  | looking {spared : Bool} {registry : Std.ExtTreeMap Text WorkerPtr compare} :
      Opening before call spared registry →
      Place before call false spared registry (.running call .lookup)
  | releasing {spared : Bool} {registry : Std.ExtTreeMap Text WorkerPtr compare} {config : Config} :
      Opening before call spared registry →
      Place before call false spared registry (.running call (.releaseFinishedSlot config))
  | waiting {worker : WorkerPtr} {config : Config} : before.Registered call.key →
      Place before call false false (before.workers_.erase call.key)
        (.running call (.joinFinished config worker))
  | emplacing {spared : Bool} {config : Config} : Emptied before call spared →
      Place before call false spared (before.workers_.erase call.key)
        (.running call (.emplace config))
  | building {spared : Bool} {point : CallPoint} {worker made : WorkerPtr} :
      Emptied before call spared → point.building? = some worker →
      Place before call false spared ((before.workers_.erase call.key).insertIfNew call.key made)
        (.running call point)
  | failing {spared : Bool} {made : WorkerPtr} {what : Text} : Emptied before call spared →
      Place before call true spared ((before.workers_.erase call.key).insertIfNew call.key made)
        (.running call (.eraseFailed what))
  | assigning {registry : Std.ExtTreeMap Text WorkerPtr compare} {worker : WorkerPtr} :
      Place before call false false registry (.running call (.assign worker))
  | returned {failed spared : Bool} {registry : Std.ExtTreeMap Text WorkerPtr compare} :
      Place before call failed spared registry .returned
  | refused {failed : Bool} {what : Text} :
      (before.Registered call.key → call.operation ≠ .restart ∧ failed = false) →
      Place before call failed true before.workers_ (.threw what)
  | lost {failed : Bool} {what : Text} : before.Registered call.key →
      (call.operation = .restart ∨ failed = true) →
      Place before call failed false (before.workers_.erase call.key) (.threw what)

/-- What holds while a call that began in `before` is on its way. -/
structure OnItsWay (before : ManagedTunnelRuntime) (caller : Nat) (call : ControlCall)
    (failed : Bool) (runtime : ManagedTunnelRuntime) : Prop where
  older : before.made ≤ runtime.made
  place : ∃ spared, Place before call failed spared runtime.workers_ (runtime.callers caller) ∧
    (spared = true → Shadow before runtime)

section Steps

variable {before runtime : ManagedTunnelRuntime} {call : ControlCall}

private theorem place_firstPoint (before : ManagedTunnelRuntime) (call : ControlCall) :
    Place before call false true before.workers_ (.running call (firstPoint call)) := by
  unfold firstPoint
  cases operation : call.operation with
  | start => exact .looking (.inl ⟨operation, rfl, rfl⟩)
  | stop => exact .asking (by simp [operation])
  | restart => exact .asking (by simp [operation])

private theorem place_afterStop (present : before.Registered call.key) (asked : call.operation ≠ .start) :
    Place before call false false before.workers_ (afterStop call) := by
  unfold afterStop
  cases operation : call.operation with
  | start => exact absurd operation asked
  | stop => exact .returned
  | restart => exact .finding present operation

/-- A start that is refused has changed nothing; inside a restart it comes too late. -/
theorem place_refused {spared : Bool} {registry : Std.ExtTreeMap Text WorkerPtr compare}
    {what : Text} (opening : Opening before call spared registry) :
    ∃ spares, Place before call false spares registry (.threw what) ∧
      (spares = true → spared = true ∧ runtime.clock = runtime.clock ∧
        ∀ worker < runtime.made, runtime.heap worker = runtime.heap worker) := by
  rcases opening with ⟨start, spares, rfl⟩ | ⟨again, spares, rfl, present⟩
  · exact ⟨true, .refused fun _ => ⟨by simp [start], rfl⟩, fun _ => ⟨spares, rfl, fun _ _ => rfl⟩⟩
  · exact ⟨false, .lost present (.inl again), by simp⟩

private theorem workers_of_joinThread {shared : ManagedTunnelRuntime} {worker : WorkerPtr}
    (joined : runtime.joinThread worker = some shared) : shared.workers_ = runtime.workers_ := by
  rcases joinThread_cases joined with ⟨-, rfl⟩ | ⟨-, -, rfl⟩
  · rfl
  · rfl

/-- What a step of the call does to its place, and that while the workers are spared
neither they nor the clock change. -/
theorem place_callStep {failed spared : Bool} {registry : Std.ExtTreeMap Text WorkerPtr compare}
    {running : ControlCall} {point : CallPoint} {shared : ManagedTunnelRuntime} {state : CallerState}
    (same : runtime.workers_ = registry)
    (place : Place before call failed spared registry (.running running point))
    (advanced : CallStep runtime running point shared state) :
    ∃ spares, Place before call failed spares shared.workers_ state ∧
      (spares = true → spared = true ∧ shared.clock = runtime.clock ∧
        ∀ worker < runtime.made, shared.heap worker = runtime.heap worker) := by
  cases place with
  | asking asked =>
      cases advanced with
      | notManaged missing =>
          refine ⟨true, ?_, fun spares => ⟨spares, rfl, fun _ _ => rfl⟩⟩
          rw [same] at missing ⊢
          refine .refused fun present => ?_
          obtain ⟨worker, present⟩ := present
          rw [missing] at present
          cases present
      | alreadyFinished present =>
          rw [same] at present ⊢
          exact ⟨false, place_afterStop ⟨_, present⟩ asked, by simp⟩
      | stopped present =>
          rw [same] at present
          refine ⟨false, ?_, by simp⟩
          rw [setWorker_workers_, same]
          exact .stopping ⟨_, present⟩ asked
  | stopping present asked =>
      cases advanced with
      | stopPublished =>
          rw [same]
          exact ⟨false, place_afterStop present asked, by simp⟩
  | finding present again =>
      cases advanced with
      | notFound missing =>
          obtain ⟨worker, present⟩ := present
          rw [same, present] at missing
          cases missing
      | found there =>
          rw [same] at there
          refine ⟨false, ?_, by simp⟩
          rw [setWorker_workers_, same]
          exact .joining there again
  | joining present again =>
      cases advanced with
      | joined done =>
          have kept := workers_of_joinThread done
          rw [kept, same]
          exact ⟨false, .removing present again, by simp⟩
  | removing present again =>
      cases advanced with
      | removed there =>
          refine ⟨false, .looking (.inr ⟨again, rfl, ?_, _, present⟩), by simp⟩
          rw [← same]
      | kept absent =>
          rw [same] at absent
          exact absurd present absent
  | looking opening =>
      cases advanced with
      | unknownTunnel | needsClient =>
          rw [same]
          exact place_refused opening
      | lookedUp =>
          rw [same]
          exact ⟨spared, .releasing opening, fun spares => ⟨spares, rfl, fun _ _ => rfl⟩⟩
  | releasing opening =>
      cases advanced with
      | slotFree free =>
          rw [same] at free ⊢
          refine ⟨spared, ?_, fun spares => ⟨spares, rfl, fun _ _ => rfl⟩⟩
          rcases opening with ⟨start, spares, rfl⟩ | ⟨again, spares, rfl, present⟩
          · rw [← erase_of_free free]
            exact .emplacing (.inl ⟨spares, start, free⟩)
          · exact .emplacing (.inr ⟨spares, present⟩)
      | slotActive =>
          rw [same]
          exact place_refused opening
      | slotReleased present =>
          rw [same] at present
          rcases opening with ⟨start, spares, rfl⟩ | ⟨again, spares, rfl, there⟩
          · refine ⟨false, ?_, by simp⟩
            rw [same]
            exact .waiting ⟨_, present⟩
          · rw [Std.ExtTreeMap.getElem?_erase_self] at present
            cases present
  | waiting present =>
      cases advanced with
      | finishedJoined done =>
          rw [workers_of_joinThread done, same]
          exact ⟨false, .emplacing (.inr ⟨rfl, present⟩), by simp⟩
  | emplacing emptied =>
      cases advanced with
      | emplaced =>
          refine ⟨spared, ?_, fun spares => ⟨spares, rfl, fun worker inside => ?_⟩⟩
          · rw [same]
            exact .building emptied rfl
          · exact setWorker_heap_of_ne _ _ (Nat.ne_of_lt inside)
  | building emptied builds =>
      cases advanced with
      | announced | initialPublished =>
          rw [same]
          exact ⟨spared, .building emptied rfl, fun spares => ⟨spares, rfl, fun _ _ => rfl⟩⟩
      | constructed => exact ⟨false, .assigning, by simp⟩
      | _ => cases builds
  | failing emptied =>
      cases advanced with
      | erased =>
          rw [same, erase_insertIfNew, erase_erase]
          rcases emptied with ⟨spares, start, free⟩ | ⟨spares, present⟩
          · refine ⟨true, ?_, fun _ => ⟨spares, rfl, fun _ _ => rfl⟩⟩
            rw [erase_of_free free]
            refine .refused fun present => ?_
            obtain ⟨worker, present⟩ := present
            rw [free] at present
            cases present
          · exact ⟨false, .lost present (.inr rfl), by simp⟩
  | assigning =>
      cases advanced with
      | assigned => exact ⟨false, .returned, by simp⟩

/-- One step of the workers or of the call itself. -/
theorem OnItsWay.step {caller : Nat} {failed : Bool} {next : ManagedTunnelRuntime}
    {label : RuntimeLabel} (way : OnItsWay before caller call failed runtime)
    (own : label.ofWorkers = true ∨ label.ofCall caller = true)
    (stepped : runtime.step label = some next) :
    OnItsWay before caller call (failed || label.failsThread caller) next := by
  obtain ⟨older, spared, place, shadow⟩ := way
  have grown := Nat.le_trans older (made_of_step stepped)
  cases stepped_of_step stepped with
  | tick | worker =>
      refine ⟨grown, spared, ?_, fun spares => (shadow spares).step rfl stepped⟩
      rw [RuntimeLabel.failsThread, Bool.or_false]
      exact place
  | configure | call => simp [RuntimeLabel.ofWorkers, RuntimeLabel.ofCall] at own
  | @advance other running point shared state there advanced =>
      obtain rfl : other = caller := by
        simpa [RuntimeLabel.ofWorkers, RuntimeLabel.ofCall] using own
      rw [there] at place
      obtain ⟨spares, placed, quiet⟩ := place_callStep rfl place advanced
      refine ⟨grown, spares, ?_, fun still => ?_⟩
      · rw [RuntimeLabel.failsThread, Bool.or_false, setCaller_callers_self]
        exact placed
      · obtain ⟨before', clock, heap⟩ := quiet still
        exact (shadow before').unseen clock fun worker inside =>
          heap worker (Nat.lt_of_lt_of_le inside older)
  | @threadFails other running worker what there =>
      obtain rfl : other = caller := by
        simpa [RuntimeLabel.ofWorkers, RuntimeLabel.ofCall] using own
      rw [there] at place
      refine ⟨grown, spared, ?_, fun spares => (shadow spares).unseen rfl fun _ _ => rfl⟩
      rw [setCaller_callers_self, setCaller_workers_]
      generalize runtime.workers_ = registry at place
      cases place with
      | building emptied builds =>
          rw [RuntimeLabel.failsThread, decide_eq_true rfl, Bool.or_true]
          exact .failing emptied

theorem OnItsWay.exec {caller : Nat} {failed : Bool} {after : ManagedTunnelRuntime}
    {labels : List RuntimeLabel} (way : OnItsWay before caller call failed runtime)
    (own : ∀ label ∈ labels, label.ofWorkers = true ∨ label.ofCall caller = true)
    (ran : managedTunnelRuntime.exec runtime labels = some after) :
    OnItsWay before caller call (failed || labels.any (·.failsThread caller)) after := by
  induction labels generalizing runtime failed with
  | nil =>
      cases ran
      rw [List.any_nil, Bool.or_false]
      exact way
  | cons label labels ih =>
      obtain ⟨next, stepped, ran⟩ := (managedTunnelRuntime.exec_cons_iff).mp ran
      have moved := way.step (own label List.mem_cons_self) stepped
      rw [List.any_cons, ← Bool.or_assoc]
      exact ih moved (fun other inside => own other (List.mem_cons_of_mem _ inside)) ran

end Steps

/-- A call that throws leaves everything as it was exactly when it is not a restart of
a registered worker and not a start of one whose thread could not be created. -/
theorem failedCall_unchanged_iff (configuration : TunnelConfiguration)
    (history labels : List RuntimeLabel) (caller : Nat) (call : ControlCall) (what : Text)
    (before after : ManagedTunnelRuntime)
    (reached : managedTunnelRuntime.exec { configuration := configuration } history = some before)
    (ran : managedTunnelRuntime.exec before (.call caller call :: labels) = some after)
    (own : ∀ label ∈ labels, label.ofWorkers = true ∨ label.ofCall caller = true)
    (threw : after.callers caller = .threw what) :
    Unchanged before after ↔
      (before.Registered call.key →
        call.operation ≠ .restart ∧ labels.any (·.failsThread caller) = false) := by
  have sound : Sound before := sound_of_exec reached
  obtain ⟨begun, stepped, ran⟩ := (managedTunnelRuntime.exec_cons_iff).mp ran
  have entered : before.step (.call caller call) = some begun := stepped
  have started : OnItsWay before caller call false begun := by
    cases stepped_of_step entered with
    | call idle =>
        refine ⟨Nat.le_refl _, true, ?_, fun _ => (Shadow.refl before).unseen rfl fun _ _ => rfl⟩
        rw [setCaller_callers_self]
        exact place_firstPoint before call
  obtain ⟨-, spared, place, shadow⟩ := started.exec own ran
  rw [threw, Bool.false_or] at place
  generalize labels.any (·.failsThread caller) = failed at place ⊢
  generalize registry : after.workers_ = left at place
  cases place with
  | refused allowed => exact iff_of_true ((shadow rfl).unchanged sound registry) allowed
  | lost present why =>
      refine iff_of_false (not_unchanged_of_emptied present ?_) fun allowed => ?_
      · rw [registry, Std.ExtTreeMap.getElem?_erase_self]
      · obtain ⟨notRestart, made⟩ := allowed present
        rcases why with again | failed
        · exact notRestart again
        · rw [made] at failed
          cases failed

/-- `a` is started and runs; then the configuration loses it. -/
def configuredAway : List RuntimeLabel :=
  [.call 0 (.start (ascii "a"))] ++ List.replicate 7 (.advance 0) ++
    [.worker 0 .begin, .worker 0 .published, .configure { tunnels := [] }]

/-- Restarting it stops it, waits for it, removes it and finds that it cannot start it. -/
def lateCheck : List RuntimeLabel :=
  List.replicate 3 (.advance 0) ++
    [.worker 0 .finished, .worker 0 .conclude, .worker 0 .published] ++
    List.replicate 3 (.advance 0)

private theorem lateCheck_threw : ∃ before after,
    managedTunnelRuntime.exec { configuration := soleServer } configuredAway = some before ∧
      managedTunnelRuntime.exec before (.call 0 (.restart (ascii "a")) :: lateCheck) = some after ∧
      after.callers 0 = .threw (ascii "no tunnel named 'a'") ∧
      before.Registered (workerKey .tunnel (ascii "a")) := by
  have running : (managedTunnelRuntime.exec { configuration := soleServer } configuredAway).map
      (fun runtime => runtime.workers_[workerKey .tunnel (ascii "a")]?) = some (some 0) := by
    decide
  have failing : (managedTunnelRuntime.exec { configuration := soleServer }
      (configuredAway ++ .call 0 (.restart (ascii "a")) :: lateCheck)).map
      (fun runtime => runtime.callers 0) = some (.threw (ascii "no tunnel named 'a'")) := by
    decide
  obtain ⟨before, reached, present⟩ := Option.map_eq_some_iff.mp running
  obtain ⟨after, ran, threw⟩ := Option.map_eq_some_iff.mp failing
  obtain ⟨_, same, ran⟩ := (managedTunnelRuntime.exec_append_iff).mp ran
  cases reached.symm.trans same
  exact ⟨before, after, reached, ran, threw, 0, present⟩

private theorem lateCheck_own : ∀ label ∈ lateCheck,
    label.ofWorkers = true ∨ label.ofCall 0 = true := by
  decide

theorem failedCall_changed : ¬ ∀ (configuration : TunnelConfiguration)
    (history labels : List RuntimeLabel) (caller : Nat) (call : ControlCall) (what : Text)
    (before after : ManagedTunnelRuntime),
    managedTunnelRuntime.exec { configuration := configuration } history = some before →
    managedTunnelRuntime.exec before (.call caller call :: labels) = some after →
    (∀ label ∈ labels, label.ofWorkers = true ∨ label.ofCall caller = true) →
    after.callers caller = .threw what → Unchanged before after := by
  intro claimed
  obtain ⟨before, after, reached, ran, threw, present⟩ := lateCheck_threw
  have emptied : (managedTunnelRuntime.exec { configuration := soleServer }
      (configuredAway ++ .call 0 (.restart (ascii "a")) :: lateCheck)).map
      (fun runtime => runtime.workers_[workerKey .tunnel (ascii "a")]?) = some none := by
    decide
  obtain ⟨_, whole, missing⟩ := Option.map_eq_some_iff.mp emptied
  cases whole.symm.trans ((managedTunnelRuntime.exec_append_iff).mpr ⟨before, reached, ran⟩)
  exact not_unchanged_of_emptied present missing
    (claimed _ _ _ _ _ _ before after reached ran lateCheck_own threw)

/-- The failed restart is one that the theorem says changes something. -/
theorem failedCall_unchanged_iff_lateCheck : ∃ before after,
    managedTunnelRuntime.exec { configuration := soleServer } configuredAway = some before ∧
      managedTunnelRuntime.exec before (.call 0 (.restart (ascii "a")) :: lateCheck) = some after ∧
      ¬ Unchanged before after := by
  obtain ⟨before, after, reached, ran, threw, present⟩ := lateCheck_threw
  refine ⟨before, after, reached, ran, fun unchanged => ?_⟩
  have allowed := (failedCall_unchanged_iff soleServer configuredAway lateCheck 0 _ _ before after
    reached ran lateCheck_own threw).mp unchanged
  exact (allowed present).1 rfl

end ManagedTunnelRuntime

end DatagramTunneler
