import DatagramTunneler.Control.RuntimeInvariants

/-! Workers that have finished. The final transition is the last write of both
thread functions, and a stop never overwrites it, so what a subscriber sees of a
finished worker is final; and a thread function that has got past its final
transition has left a state in which its slot may be released. -/

set_option autoImplicit false

namespace DatagramTunneler

open Foundation

/-- The thread function has made its final transition. -/
def Worker.gone (worker : Worker) : Prop :=
  (∃ notice, worker.body = .reporting notice) ∨ worker.body = .ended

namespace ManagedTunnelRuntime

section Steps

variable {runtime : ManagedTunnelRuntime} {worker : WorkerPtr}

/-! ## One worker -/

private theorem snapshot_of_callChange {before after : Worker}
    (finished : before.snapshot.state.finished = true) (changed : CallChange before after) :
    after.snapshot = before.snapshot := by
  cases changed with
  | stopped unfinished =>
      rw [unfinished] at finished
      cases finished
  | stopRequested => exact request_stop_snapshot before
  | joined | constructed | assigned => rfl

/-- The only step left to a worker that has finished is the end of its report. -/
theorem snapshot_of_bodyStep {clock : Clock} {before after : Worker} {event : WorkerEvent}
    (sound : before.Sound) (finished : before.snapshot.state.finished = true)
    (moved : BodyStep clock before event after) : after.snapshot = before.snapshot := by
  have gone := sound.finished finished
  cases moved with
  | running here | connected here | datagram here | concluded here =>
      rw [here] at gone
      simp at gone
  | connecting | finished | failed | announced | reported => rfl

private theorem finished_of_callChange {before after : Worker}
    (concluded : before.gone → before.snapshot.state.finished = true)
    (changed : CallChange before after) (gone : after.gone) :
    after.snapshot.state.finished = true := by
  cases changed with
  | stopped unfinished =>
      have before := concluded (by simpa [Worker.gone, transition] using gone)
      rw [unfinished] at before
      cases before
  | stopRequested =>
      rw [request_stop_snapshot]
      exact concluded (by simpa [Worker.gone] using gone)
  | constructed => simp [Worker.gone] at gone
  | joined | assigned => exact concluded gone

private theorem finished_of_bodyStep {clock : Clock} {before after : Worker} {event : WorkerEvent}
    (sound : before.Sound) (concluded : before.gone → before.snapshot.state.finished = true)
    (moved : BodyStep clock before event after) (gone : after.gone) :
    after.snapshot.state.finished = true := by
  cases moved with
  | connecting | running | connected | finished | failed | announced => simp [Worker.gone] at gone
  | datagram here tunnel =>
      obtain ⟨samples, metrics, recent, recorded⟩ := recordDatagram_frame before clock _
      rw [recorded] at gone
      simp [Worker.gone, here] at gone
  | concluded here => exact sound.leaving _ _ here
  | @reported notice here => exact concluded (.inl ⟨notice, here⟩)

/-! ## The whole runtime -/

/-- Every worker whose thread function is over has finished. -/
def Concluded (runtime : ManagedTunnelRuntime) : Prop :=
  ∀ worker, (runtime.heap worker).gone → (runtime.heap worker).snapshot.state.finished = true

private theorem inside_of_gone (sound : Sound runtime) (gone : (runtime.heap worker).gone) :
    worker < runtime.made := by
  by_contra unmade
  rw [sound.fresh worker (Nat.not_lt.mp unmade)] at gone
  simp [Worker.gone] at gone

/-- A worker that a step makes has no thread yet. -/
theorem absent_of_made {call : ControlCall} {point : CallPoint} {shared : ManagedTunnelRuntime}
    {state : CallerState} (advanced : CallStep runtime call point shared state)
    (outside : ¬ worker < runtime.made) (inside : worker < shared.made) :
    (shared.heap worker).body = .absent := by
  cases advanced with
  | emplaced =>
      obtain rfl : worker = runtime.made := Nat.eq_of_lt_succ_of_not_lt inside outside
      exact congrArg Worker.body (setWorker_heap_self runtime _ _)
  | joined done | finishedJoined done =>
      rcases joinThread_cases done with ⟨-, rfl⟩ | ⟨-, -, rfl⟩ <;> exact absurd inside outside
  | notManaged | alreadyFinished | stopped | stopPublished | notFound | found | removed | kept
  | unknownTunnel | needsClient | lookedUp | slotFree | slotActive | slotReleased | announced
  | initialPublished | constructed | assigned | erased => exact absurd inside outside

theorem Concluded.step (concluded : Concluded runtime) (sound : Sound runtime)
    {label : RuntimeLabel} {next : ManagedTunnelRuntime}
    (stepped : runtime.step label = some next) : Concluded next := by
  intro worker gone
  have made := inside_of_gone (sound.step stepped) gone
  cases stepped_of_step stepped with
  | tick | configure | call | threadFails => exact concluded worker gone
  | advance running advanced =>
      by_cases inside : worker < runtime.made
      · rcases callChange_of_callStep sound running advanced inside with same | ⟨changed, -⟩
        · rw [setCaller_heap, same] at gone ⊢
          exact concluded worker gone
        · exact finished_of_callChange (concluded worker) changed gone
      · have absent := absent_of_made advanced inside made
        rw [setCaller_heap] at gone
        simp [Worker.gone, absent] at gone
  | @worker other event value moved =>
      by_cases same : worker = other
      · subst same
        rw [setWorker_heap_self] at gone ⊢
        exact finished_of_bodyStep (sound.worker worker made) (concluded worker) moved gone
      · rw [setWorker_heap_of_ne _ _ same] at gone ⊢
        exact concluded worker gone

private theorem concluded_of_exec {configuration : TunnelConfiguration} {labels : List RuntimeLabel}
    (ran : managedTunnelRuntime.exec { configuration := configuration } labels = some runtime) :
    Concluded runtime := by
  have both := @Machine.invariant_of_exec _ _ managedTunnelRuntime
    (fun runtime => Sound runtime ∧ Concluded runtime)
    (fun holds stepped => ⟨holds.1.step stepped, holds.2.step holds.1 stepped⟩)
    _ _ _ ran ⟨sound_start configuration, fun worker gone => by simp [Worker.gone] at gone⟩
  exact both.2

private theorem snapshot_of_step (sound : Sound runtime) (inside : worker < runtime.made)
    (finished : (runtime.heap worker).snapshot.state.finished = true) {label : RuntimeLabel}
    {next : ManagedTunnelRuntime} (stepped : runtime.step label = some next) :
    (next.heap worker).snapshot = (runtime.heap worker).snapshot := by
  cases stepped_of_step stepped with
  | tick | configure | call | threadFails => rfl
  | advance running advanced =>
      rcases callChange_of_callStep sound running advanced inside with same | ⟨changed, -⟩
      · rw [setCaller_heap, same]
      · exact snapshot_of_callChange finished changed
  | @worker other event value moved =>
      by_cases same : worker = other
      · subst same
        rw [setWorker_heap_self]
        exact snapshot_of_bodyStep (sound.worker worker inside) finished moved
      · rw [setWorker_heap_of_ne _ _ same]

private theorem snapshot_of_exec {final : ManagedTunnelRuntime} (sound : Sound runtime)
    (inside : worker < runtime.made)
    (finished : (runtime.heap worker).snapshot.state.finished = true) {labels : List RuntimeLabel}
    (ran : managedTunnelRuntime.exec runtime labels = some final) :
    (final.heap worker).snapshot = (runtime.heap worker).snapshot := by
  have kept := @Machine.invariant_of_exec _ _ managedTunnelRuntime
    (fun next => Sound next ∧ worker < next.made ∧
      (next.heap worker).snapshot = (runtime.heap worker).snapshot)
    (fun holds stepped => ⟨holds.1.step stepped,
      Nat.lt_of_lt_of_le holds.2.1 (made_of_step stepped),
      (snapshot_of_step holds.1 holds.2.1 (holds.2.2 ▸ finished) stepped).trans holds.2.2⟩)
    _ _ _ ran ⟨sound, inside, rfl⟩
  exact kept.2.2

end Steps

/-- The worker in the slot that a start asks for does not refuse it. -/
def LetsStart (runtime : ManagedTunnelRuntime) (worker : WorkerPtr) : Prop :=
  ∀ caller call config next, runtime.callers caller = .running call (.releaseFinishedSlot config) →
    runtime.workers_[call.key]? = some worker → runtime.step (.advance caller) = some next →
    next.callers caller = .running call (.joinFinished config worker)

private theorem letsStart_of_finished {runtime : ManagedTunnelRuntime} {worker : WorkerPtr}
    (finished : (runtime.heap worker).snapshot.state.finished = true) :
    runtime.LetsStart worker := by
  intro caller call config next running present stepped
  cases stepped_of_step stepped with
  | advance here advanced =>
      cases running.symm.trans here
      cases advanced with
      | slotFree missing =>
          rw [missing] at present
          cases present
      | slotActive other active =>
          cases present.symm.trans other
          rw [TunnelState.active_eq_not_finished, finished] at active
          cases active
      | slotReleased other inactive =>
          cases present.symm.trans other
          exact setCaller_callers_self _ _ _

/-- In every reachable state a worker whose thread function has ended has finished;
and from there on what is shown of a finished worker never changes, nor does the
worker ever stand in the way of a start. -/
theorem finished_frozen (configuration : TunnelConfiguration) (labels : List RuntimeLabel)
    (runtime : ManagedTunnelRuntime)
    (ran : managedTunnelRuntime.exec { configuration := configuration } labels = some runtime)
    (worker : WorkerPtr) (made : worker < runtime.made) :
    ((runtime.heap worker).body = .ended →
      (runtime.heap worker).snapshot.state.finished = true) ∧
    ((runtime.heap worker).snapshot.state.finished = true → ∀ later final,
      managedTunnelRuntime.exec runtime later = some final →
        (final.heap worker).snapshot = (runtime.heap worker).snapshot ∧ final.LetsStart worker) := by
  constructor
  · intro ended
    exact concluded_of_exec ran worker (.inr ended)
  · intro finished later final continued
    have frozen := snapshot_of_exec (sound_of_exec ran) made finished continued
    exact ⟨frozen, letsStart_of_finished (frozen ▸ finished)⟩

/-- A server that fails, and a stop and a second start that come after it. -/
def failAndRestart : List RuntimeLabel × List RuntimeLabel :=
  ([.call 0 (.start (ascii "a"))] ++ List.replicate 7 (.advance 0) ++
      [.worker 0 .begin, .worker 0 .published, .worker 0 (.failed (ascii "bind")),
        .worker 0 .conclude, .worker 0 .published],
    [.call 0 (.stop (ascii "a")), .advance 0, .call 0 (.start (ascii "a")), .advance 0, .advance 0])

theorem finished_frozen_failAndRestart : ∃ runtime final,
    managedTunnelRuntime.exec { configuration := soleServer } failAndRestart.1 = some runtime ∧
      managedTunnelRuntime.exec runtime failAndRestart.2 = some final ∧
      (final.heap 0).snapshot = (runtime.heap 0).snapshot ∧ final.LetsStart 0 := by
  have failed : (managedTunnelRuntime.exec { configuration := soleServer } failAndRestart.1).map
      (fun runtime => decide (0 < runtime.made) && (runtime.heap 0).body == .ended) =
      some true := by decide
  have restarted : (managedTunnelRuntime.exec { configuration := soleServer }
      (failAndRestart.1 ++ failAndRestart.2)).isSome = true := by decide
  obtain ⟨runtime, ran, holds⟩ := Option.map_eq_some_iff.mp failed
  obtain ⟨final, whole⟩ := Option.isSome_iff_exists.mp restarted
  obtain ⟨middle, same, continued⟩ := (managedTunnelRuntime.exec_append_iff).mp whole
  cases ran.symm.trans same
  have ⟨made, ended⟩ := (Bool.and_eq_true _ _).mp holds
  have ⟨finished, frozen⟩ := finished_frozen soleServer failAndRestart.1 runtime ran 0
    (of_decide_eq_true made)
  exact ⟨runtime, final, ran, continued, frozen (finished (eq_of_beq ended)) _ _ continued⟩

end ManagedTunnelRuntime

end DatagramTunneler
