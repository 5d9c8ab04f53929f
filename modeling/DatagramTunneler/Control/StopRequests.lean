import DatagramTunneler.Control.RuntimeInvariants

/-! What becomes of an accepted stop. It is a state that subscribers see and a stop
state that the thread sees, and both can be lost: the first because the thread
function announces that it runs or is connected whatever has happened meanwhile,
the second because a worker can be stopped before its thread is there to be told. -/

set_option autoImplicit false

namespace DatagramTunneler

open Foundation

namespace ManagedTunnelRuntime

/-! ## The state stays -/

/-- In a run, a worker that was stopping is stopping or has finished. -/
def StopsStand (start : ManagedTunnelRuntime) (labels : List RuntimeLabel) : Prop :=
  ∀ first rest before after worker, first ++ rest <+: labels →
    managedTunnelRuntime.exec start first = some before →
    managedTunnelRuntime.exec before rest = some after →
    (before.heap worker).snapshot.state = .stopping →
    (after.heap worker).snapshot.state = .stopping ∨
      (after.heap worker).snapshot.state.finished = true

/-- A thread function does not announce anything while its worker is stopping. -/
def AnnouncesUnstopped (runtime : ManagedTunnelRuntime) : RuntimeLabel → Prop
  | .worker worker .begin =>
      (runtime.heap worker).isClientTunnel = true ∨
        (runtime.heap worker).snapshot.state ≠ .stopping
  | .worker worker .connected => (runtime.heap worker).snapshot.state ≠ .stopping
  | .worker _ (.datagram _) | .worker _ .finished | .worker _ (.failed _) | .worker _ .conclude
  | .worker _ .published | .tick _ | .configure _ | .call _ _ | .advance _ | .threadFails _ _ => True

/-- A worker that has been asked to stop. -/
def Stopping (worker : Worker) : Prop :=
  worker.snapshot.state = .stopping ∨ worker.snapshot.state.finished = true

section Steps

variable {runtime : ManagedTunnelRuntime} {worker : WorkerPtr}

private theorem stopping_of_callChange {before after : Worker} (stopping : Stopping before)
    (changed : CallChange before after) : Stopping after := by
  cases changed with
  | stopped => exact .inl (by simp [transition])
  | stopRequested => simpa [Stopping] using stopping
  | joined | constructed | assigned => exact stopping

private theorem inside_of_stopping (sound : Sound runtime)
    (stopping : (runtime.heap worker).snapshot.state = .stopping) : worker < runtime.made := by
  by_contra unmade
  rw [sound.fresh worker (Nat.not_lt.mp unmade)] at stopping
  cases stopping

/-- A stopping worker stays one in every step that announces nothing of it. -/
theorem stopping_of_step (sound : Sound runtime) (inside : worker < runtime.made)
    (stopping : Stopping (runtime.heap worker)) {label : RuntimeLabel}
    (quiet : runtime.AnnouncesUnstopped label) {next : ManagedTunnelRuntime}
    (stepped : runtime.step label = some next) : Stopping (next.heap worker) := by
  cases stepped_of_step stepped with
  | tick | configure | call | threadFails => exact stopping
  | advance running advanced =>
      rcases callChange_of_callStep sound running advanced inside with same | ⟨changed, -⟩
      · rw [setCaller_heap, same]
        exact stopping
      · exact stopping_of_callChange stopping changed
  | @worker other event value moved =>
      by_cases same : worker = other
      · subst same
        rw [setWorker_heap_self]
        have unfinished := @unfinished_of_body _ (sound.worker worker inside)
        cases moved with
        | connecting | finished | failed | announced | reported => exact stopping
        | running here client =>
            have active := unfinished here (by simp) (by simp)
            rcases quiet with isClient | unstopped
            · rw [client] at isClient
              cases isClient
            · rcases stopping with stopping | finished
              · exact absurd stopping unstopped
              · rw [active] at finished
                cases finished
        | connected here =>
            have active := unfinished here (by simp) (by simp)
            rcases stopping with stopping | finished
            · exact absurd stopping quiet
            · rw [active] at finished
              cases finished
        | datagram here tunnel =>
            obtain ⟨samples, metrics, recent, recorded⟩ :=
              recordDatagram_frame (runtime.heap worker) runtime.clock _
            rw [recorded]
            exact stopping
        | concluded here => exact .inr ((sound.worker worker inside).leaving _ _ here)
      · rw [setWorker_heap_of_ne _ _ same]
        exact stopping

/-- An announcement does undo the stop of the worker it is about. -/
theorem announcesUnstopped_of_stand {label : RuntimeLabel} {next : ManagedTunnelRuntime}
    (stepped : runtime.step label = some next)
    (stand : ∀ worker, (runtime.heap worker).snapshot.state = .stopping →
      Stopping (next.heap worker)) : runtime.AnnouncesUnstopped label := by
  cases stepped_of_step stepped with
  | tick | configure | call | threadFails | advance => trivial
  | @worker worker event value moved =>
      have undone : ∀ state, value.snapshot.state = state → state ≠ .stopping →
          state.finished = false → (runtime.heap worker).snapshot.state ≠ .stopping := by
        intro state reached ne active stopping
        have stands := stand worker stopping
        rw [setWorker_heap_self] at stands
        rcases stands with same | finished
        · exact ne (reached.symm.trans same)
        · rw [reached, active] at finished
          cases finished
      cases moved with
      | connecting here client => exact .inl client
      | running here client => exact .inr (undone .running rfl (by simp) rfl)
      | connected here => exact undone .connected rfl (by simp) rfl
      | datagram | finished | failed | concluded | announced | reported => trivial

end Steps

/-- The stops of a run stand exactly when no thread function announces that it runs
or is connected while its worker is stopping. -/
theorem stopsStand_iff (configuration : TunnelConfiguration) (labels : List RuntimeLabel)
    (final : ManagedTunnelRuntime)
    (ran : managedTunnelRuntime.exec { configuration := configuration } labels = some final) :
    StopsStand { configuration := configuration } labels ↔
      managedTunnelRuntime.Guarded AnnouncesUnstopped { configuration := configuration } labels := by
  constructor
  · intro stand passed label within reached reaches
    obtain ⟨rest, whole⟩ := within
    rw [← whole] at ran
    obtain ⟨next, through, -⟩ := (managedTunnelRuntime.exec_append_iff).mp ran
    obtain ⟨middle, same, stepped⟩ := (managedTunnelRuntime.exec_snoc_iff).mp through
    cases reaches.symm.trans same
    refine announcesUnstopped_of_stand stepped fun worker stopping => ?_
    exact stand passed [label] reached next worker ⟨rest, whole⟩ reaches
      ((managedTunnelRuntime.exec_singleton_iff).mpr stepped) stopping
  · intro quiet first rest before after worker within reaches ran stopping
    have later := ((Machine.guarded_append reaches).mp (quiet.of_prefix within)).2
    have sound : Sound before := sound_of_exec reaches
    have kept := @Machine.invariant_of_guarded _ _ managedTunnelRuntime AnnouncesUnstopped
      (fun runtime => Sound runtime ∧ worker < runtime.made ∧ Stopping (runtime.heap worker))
      (fun holds allowed stepped => ⟨holds.1.step stepped,
        Nat.lt_of_lt_of_le holds.2.1 (made_of_step stepped),
        stopping_of_step holds.1 holds.2.1 holds.2.2 allowed stepped⟩)
      before after rest ran later ⟨sound, inside_of_stopping sound stopping, .inl stopping⟩
    exact kept.2.2

/-- One caller starts `a` and stops it before its thread has announced that it runs. -/
def stopBeforeRunning : List RuntimeLabel :=
  [.call 0 (.start (ascii "a"))] ++ List.replicate 7 (.advance 0) ++
    [.call 0 (.stop (ascii "a")), .advance 0, .advance 0, .worker 0 .begin]

private theorem stopBeforeRunning_undone : ∃ final,
    managedTunnelRuntime.exec { configuration := soleServer } stopBeforeRunning = some final ∧
      ¬ StopsStand { configuration := soleServer } stopBeforeRunning := by
  have stopped : (managedTunnelRuntime.exec { configuration := soleServer }
      (stopBeforeRunning.take 11)).map (fun runtime => (runtime.heap 0).snapshot.state) =
      some .stopping := by decide
  have undone : (managedTunnelRuntime.exec { configuration := soleServer }
      stopBeforeRunning).map (fun runtime => (runtime.heap 0).snapshot.state) =
      some .running := by decide
  obtain ⟨before, reaches, stopping⟩ := Option.map_eq_some_iff.mp stopped
  obtain ⟨final, ran, running⟩ := Option.map_eq_some_iff.mp undone
  have rest := ran
  rw [← List.take_append_drop 11 stopBeforeRunning] at rest
  obtain ⟨middle, same, rest⟩ := (managedTunnelRuntime.exec_append_iff).mp rest
  cases reaches.symm.trans same
  refine ⟨final, ran, fun stand => ?_⟩
  have whole : stopBeforeRunning.take 11 ++ stopBeforeRunning.drop 11 <+: stopBeforeRunning :=
    ⟨[], by simp⟩
  have after := stand _ _ _ _ 0 whole reaches rest stopping
  rw [running] at after
  simp [TunnelState.finished] at after

theorem stopsStand_undone : ¬ ∀ (configuration : TunnelConfiguration) (labels : List RuntimeLabel)
    (final : ManagedTunnelRuntime), (∀ caller call, .call caller call ∈ labels → caller = 0) →
    managedTunnelRuntime.exec { configuration := configuration } labels = some final →
    StopsStand { configuration := configuration } labels := by
  intro claimed
  obtain ⟨final, ran, undone⟩ := stopBeforeRunning_undone
  refine undone (claimed soleServer stopBeforeRunning final ?_ ran)
  intro caller call inside
  have listed : caller = 0 ∧ call = ControlCall.start (ascii "a") ∨
      caller = 0 ∧ call = ControlCall.stop (ascii "a") := by
    simpa [stopBeforeRunning] using inside
  rcases listed with first | second
  · exact first.1
  · exact second.1

/-- The thread function announces that it runs although its worker is stopping. -/
theorem stopsStand_iff_stopBeforeRunning :
    ¬ managedTunnelRuntime.Guarded AnnouncesUnstopped { configuration := soleServer }
      stopBeforeRunning := by
  obtain ⟨final, ran, undone⟩ := stopBeforeRunning_undone
  exact fun quiet => undone ((stopsStand_iff soleServer stopBeforeRunning final ran).mpr quiet)

/-! ## The stop state stays -/

/-- The next step of the caller is a `requestStop` that sets the worker to stopping. -/
def AcceptsStop (runtime : ManagedTunnelRuntime) (caller : Nat) (worker : WorkerPtr) : Prop :=
  ∃ call, runtime.callers caller = .running call .requestStop ∧
    runtime.workers_[call.key]? = some worker ∧
    (runtime.heap worker).snapshot.state.finished = false

/-- In a run, once a call that stopped a worker has returned, the thread of the
worker sees a requested stop, whether it was there already or is created later. -/
def StopsReach (start : ManagedTunnelRuntime) (labels : List RuntimeLabel) : Prop :=
  ∀ first caller rest last before returned after worker,
    first ++ .advance caller :: (rest ++ last) <+: labels →
    managedTunnelRuntime.exec start first = some before → before.AcceptsStop caller worker →
    managedTunnelRuntime.exec before (.advance caller :: rest) = some returned →
    returned.callers caller = .returned →
    managedTunnelRuntime.exec returned last = some after →
    (after.heap worker).body = .absent ∨ (after.heap worker).stop_token = some true

/-- No stop is accepted for a thread that is created and not assigned yet, and no
thread is created for a worker that is stopping. -/
def stopsAssigned (runtime : ManagedTunnelRuntime) : RuntimeLabel → Bool
  | .advance caller =>
      match runtime.callers caller with
      | .running call .requestStop =>
          match runtime.workers_[call.key]? with
          | some worker => (runtime.heap worker).snapshot.state.finished ||
              (runtime.heap worker).body = .absent || (runtime.heap worker).thread ≠ .empty
          | none => true
      | .running _ (.construct worker) => (runtime.heap worker).snapshot.state ≠ .stopping
      | _ => true
  | .tick _ | .configure _ | .call _ _ | .threadFails _ _ | .worker _ _ => true

/-- The stop has reached the thread, or there is no thread and the worker is stopping. -/
def Reached (worker : Worker) : Prop :=
  worker.stop_token = some true ∨ (worker.body = .absent ∧ worker.snapshot.state = .stopping)

section Reaching

variable {runtime : ManagedTunnelRuntime} {worker : WorkerPtr}

theorem request_stop_requested {before : Worker} (requested : before.stop_token = some true) :
    before.request_stop.stop_token = some true := by
  unfold Worker.request_stop
  split
  · exact requested
  · simp [requested]

private theorem stop_token_of_bodyStep {clock : Clock} {before after : Worker} {event : WorkerEvent}
    (moved : BodyStep clock before event after) :
    after.stop_token = before.stop_token ∧ before.body ≠ .absent := by
  cases moved with
  | datagram here tunnel =>
      obtain ⟨samples, metrics, recent, recorded⟩ := recordDatagram_frame before clock _
      rw [recorded, here]
      exact ⟨rfl, by simp⟩
  | connecting here | running here | connected here | finished here | failed here | concluded here
  | announced here | reported here => exact ⟨rfl, by simp [here]⟩

private theorem reached_of_callChange {before after : Worker} (reached : Reached before)
    (changed : CallChange before after) (unconstructed : after.body = before.body) : Reached after := by
  cases changed with
  | stopped =>
      rcases reached with requested | ⟨absent, -⟩
      · exact .inl (request_stop_requested requested)
      · exact .inr ⟨by simpa [transition] using absent, by simp [transition]⟩
  | stopRequested =>
      rcases reached with requested | ⟨absent, stopping⟩
      · exact .inl (request_stop_requested requested)
      · exact .inr ⟨by simpa using absent, by simpa using stopping⟩
  | joined | assigned => exact reached
  | constructed absent =>
      rw [absent] at unconstructed
      cases unconstructed

/-- A stop that has reached a worker is not taken back, unless a thread is created
for a worker that is stopping. -/
theorem reached_of_step (sound : Sound runtime) (inside : worker < runtime.made)
    (reached : Reached (runtime.heap worker)) {label : RuntimeLabel}
    (assigned : runtime.stopsAssigned label = true) {next : ManagedTunnelRuntime}
    (stepped : runtime.step label = some next) : Reached (next.heap worker) := by
  cases stepped_of_step stepped with
  | tick | configure | call | threadFails => exact reached
  | @advance caller call point shared state running advanced =>
      rcases callChange_of_callStep sound running advanced inside with same | ⟨changed, body⟩
      · rw [setCaller_heap, same]
        exact reached
      · rcases body with same | rfl
        · exact reached_of_callChange reached changed same
        · have absent := sound.building caller call _ worker running rfl
          have unstopped : (runtime.heap worker).snapshot.state ≠ .stopping := by
            simpa [stopsAssigned, running] using assigned
          rcases reached with requested | ⟨-, stopping⟩
          · rw [(sound.worker worker inside).token.mp absent] at requested
            cases requested
          · exact absurd stopping unstopped
  | @worker other event value moved =>
      by_cases same : worker = other
      · subst same
        rw [setWorker_heap_self]
        obtain ⟨kept, present⟩ := stop_token_of_bodyStep moved
        rcases reached with requested | ⟨absent, -⟩
        · exact .inl (kept.trans requested)
        · exact absurd absent present
      · rw [setWorker_heap_of_ne _ _ same]
        exact reached

/-- Accepting a stop reaches the worker where it is not between creation and assignment. -/
theorem reached_of_accept (sound : Sound runtime) {caller : Nat}
    (accepts : runtime.AcceptsStop caller worker)
    (assigned : runtime.stopsAssigned (.advance caller) = true) {next : ManagedTunnelRuntime}
    (stepped : runtime.step (.advance caller) = some next) :
    worker < next.made ∧ Reached (next.heap worker) := by
  obtain ⟨call, running, present, unfinished⟩ := accepts
  have inside := (sound.registered _ _ present).1
  have fields := sound.worker worker inside
  have placed : (runtime.heap worker).body = .absent ∨ (runtime.heap worker).thread ≠ .empty := by
    simpa [stopsAssigned, running, present, unfinished] using assigned
  cases stepped_of_step stepped with
  | advance there advanced =>
      cases running.symm.trans there
      cases advanced with
      | notManaged missing =>
          rw [present] at missing
          cases missing
      | alreadyFinished here finished =>
          cases present.symm.trans here
          rw [unfinished] at finished
          cases finished
      | stopped here still =>
          cases present.symm.trans here
          refine ⟨inside, ?_⟩
          rw [setCaller_heap, setWorker_heap_self]
          rcases placed with absent | assigned
          · exact .inr ⟨by simpa [transition] using absent, by simp [transition]⟩
          · have token : (runtime.heap worker).stop_token ≠ none := fun missing =>
              assigned (fields.handle (fields.token.mpr missing))
            refine .inl ?_
            unfold Worker.request_stop
            rw [if_neg (show ¬ (transition (runtime.heap worker) .stopping
              (ascii "Stopping")).thread = .empty from assigned)]
            obtain ⟨requested, here⟩ := Option.ne_none_iff_exists'.mp token
            simp [transition, here]

end Reaching

/-- In every run in which no stop is accepted between the creation and the
assignment of a thread and no thread is created for a stopping worker, every
accepted stop reaches the thread and stays with it. -/
theorem stopsReach_of_assigned (configuration : TunnelConfiguration) (labels : List RuntimeLabel)
    (assigned : managedTunnelRuntime.Guarded (fun runtime label => runtime.stopsAssigned label = true)
      { configuration := configuration } labels) :
    StopsReach { configuration := configuration } labels := by
  intro first caller rest last before returned after worker within reaches accepts through _ ran
  have later := ((Machine.guarded_append reaches).mp (assigned.of_prefix within)).2
  have sound : Sound before := sound_of_exec reaches
  obtain ⟨next, stepped, through⟩ := (managedTunnelRuntime.exec_cons_iff).mp through
  obtain ⟨here, later⟩ := (Machine.guarded_cons stepped).mp later
  have reached := reached_of_accept sound accepts here stepped
  have moved : before.step (.advance caller) = some next := stepped
  have kept := @Machine.invariant_of_guarded _ _ managedTunnelRuntime
    (fun runtime label => runtime.stopsAssigned label = true)
    (fun runtime => Sound runtime ∧ worker < runtime.made ∧ Reached (runtime.heap worker))
    (fun holds allowed stepped => ⟨holds.1.step stepped,
      Nat.lt_of_lt_of_le holds.2.1 (made_of_step stepped),
      reached_of_step holds.1 holds.2.1 holds.2.2 allowed stepped⟩)
    next after (rest ++ last) ((managedTunnelRuntime.exec_append_iff).mpr ⟨returned, through, ran⟩)
    later ⟨sound.step moved, reached⟩
  rcases kept.2.2 with requested | ⟨absent, -⟩
  · exact .inr requested
  · exact .inl absent

/-- A start, and a stop when the start has returned. -/
theorem stopsReach_of_assigned_sample : StopsReach { configuration := soleServer }
    ([.call 0 (.start (ascii "a"))] ++ List.replicate 7 (.advance 0) ++
      [.call 1 (.stop (ascii "a")), .advance 1, .advance 1, .worker 0 .begin]) :=
  stopsReach_of_assigned soleServer _ (Machine.guarded_of_check (by decide))

/-- One caller starts `a`, another stops it before the thread is created, and the
thread is created after the stop has returned. -/
theorem stopsReach_lost : ¬ ∀ (configuration : TunnelConfiguration) (labels : List RuntimeLabel),
    StopsReach { configuration := configuration } labels := by
  intro claimed
  let first : List RuntimeLabel := [.call 0 (.start (ascii "a"))] ++
    List.replicate 5 (.advance 0) ++ [.call 1 (.stop (ascii "a"))]
  have accepting : (managedTunnelRuntime.exec { configuration := soleServer } first).map
      (fun runtime => (runtime.callers 1, runtime.workers_[workerKey .tunnel (ascii "a")]?,
        (runtime.heap 0).snapshot.state)) =
      some (.running (.stop (ascii "a")) .requestStop, some 0, .starting) := by decide
  have returning : (managedTunnelRuntime.exec { configuration := soleServer }
      (first ++ [.advance 1, .advance 1])).map (fun runtime => runtime.callers 1) =
      some .returned := by decide
  have creating : (managedTunnelRuntime.exec { configuration := soleServer }
      (first ++ [.advance 1, .advance 1] ++ [.advance 0])).map
      (fun runtime => ((runtime.heap 0).body, (runtime.heap 0).stop_token)) =
      some (.entry, some false) := by decide
  obtain ⟨before, reaches, accepts⟩ := Option.map_eq_some_iff.mp accepting
  obtain ⟨returned, through, done⟩ := Option.map_eq_some_iff.mp returning
  obtain ⟨after, ran, lost⟩ := Option.map_eq_some_iff.mp creating
  obtain ⟨_, same, last⟩ := (managedTunnelRuntime.exec_append_iff).mp ran
  cases through.symm.trans same
  obtain ⟨_, same, middle⟩ := (managedTunnelRuntime.exec_append_iff).mp through
  cases reaches.symm.trans same
  obtain ⟨running, present, starting⟩ : before.callers 1 = _ ∧ _ ∧ _ := by
    simpa only [Prod.mk.injEq] using accepts
  obtain ⟨entered, token⟩ := Prod.mk.inj lost
  have accepted : before.AcceptsStop 1 0 :=
    ⟨.stop (ascii "a"), running, present, by rw [starting]; rfl⟩
  rcases claimed soleServer (first ++ .advance 1 :: ([.advance 1] ++ [.advance 0])) first 1
    [.advance 1] [.advance 0] before returned after 0 List.prefix_rfl reaches accepted middle done
    last with absent | requested
  · rw [entered] at absent
    cases absent
  · rw [token] at requested
    cases requested

end ManagedTunnelRuntime

end DatagramTunneler
