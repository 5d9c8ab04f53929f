import DatagramTunneler.Control.RuntimeMetrics
import DatagramTunneler.Control.StopRequests
import DatagramTunneler.Control.WorkerThreads
import DatagramTunneler.ProducerRuns
import DatagramTunneler.Tunnel.UnfailedRuns

/-! The runtime as it was modelled by itself against the runtime with the tunnelers in its
threads. Its thread functions may report in any order that the guards of `stepBody` allow;
here every step of a thread comes out as such reports, so what holds of all runs of the
runtime holds of it with any tunneler inside. -/

set_option autoImplicit false

namespace DatagramTunneler

open Foundation ManagedTunnelRuntime

/-- A worker under its thread function alone. -/
def workerBody (clock : Clock) : Machine Worker WorkerEvent := ⟨stepBody clock⟩

/-- The observations among what a thread reports. -/
def reportedDatagrams (events : List WorkerEvent) : List DatagramObservation :=
  events.filterMap fun
    | .datagram observation => some observation
    | .begin | .connected | .finished | .failed _ | .conclude | .published => none

/-! ## What a thread knows -/

/-- The loop has come where it is by passes of its own. -/
def TunnelLoop.Ran (platform : Platform) : TunnelLoop → Prop
  | .none => True
  | .client cfg_ loop => ∃ events, (runClient platform.build platform.order).exec
      (.start platform.order cfg_) events = some loop
  | .server cfg_ stream loop => ∃ events, (runServer platform.order cfg_.use_clt_grp_).exec
      (.start (pubGroup platform cfg_) stream) events = some loop

/-- What holds of a worker while its thread stands at a point. -/
def ThreadSound (platform : Platform) (worker : Worker) : ThreadPoint → Prop
  | .created | .constructing => True
  | .leaving _ _ left | .reporting _ left | .ended left => left.Ran platform
  | .announcing _ => worker.isClientTunnel = false
  | .connecting _ | .announcingConnected _ _ | .joining _ => worker.isClientTunnel = true
  | .client cfg_ loop _ => worker.isClientTunnel = true ∧ (TunnelLoop.client cfg_ loop).Ran platform ∧
      (loop.status = .returned → worker.stop_requested = true)
  | .listening _ | .accepting _ => worker.snapshot.kind = .tunnel ∧ worker.config.is_client_ = false
  | .server cfg_ stream loop _ => (worker.snapshot.kind = .tunnel ∧ worker.config.is_client_ = false) ∧
      (TunnelLoop.server cfg_ stream loop).Ran platform
  | .opening => worker.snapshot.kind = .producer
  | .producing _ loop => worker.snapshot.kind = .producer ∧
      (loop.status = .returned → worker.options.count ≠ 0 ∨ worker.stop_requested = true)
  | .returned => worker.stop_requested = true

/-- What a thread knows of its worker stays true of a worker that is still the same and has
not lost a stop request. -/
structure Worker.Persists (before after : Worker) : Prop where
  kind : after.snapshot.kind = before.snapshot.kind
  config : after.config = before.config
  options : after.options = before.options
  stopped : before.stop_requested = true → after.stop_requested = true

section Persists

variable {platform : Platform} {before after : Worker} {point : ThreadPoint}

theorem Worker.Persists.isClientTunnel (persists : before.Persists after) :
    after.isClientTunnel = before.isClientTunnel := by
  rw [Worker.isClientTunnel, Worker.isClientTunnel, persists.kind, persists.config]

theorem ThreadSound.persists (sound : ThreadSound platform before point)
    (persists : before.Persists after) : ThreadSound platform after point := by
  have client := persists.isClientTunnel
  cases point with
  | created | constructing => trivial
  | leaving | reporting | ended => exact sound
  | announcing | connecting | announcingConnected | joining => exact client.trans sound
  | client => exact ⟨client.trans sound.1, sound.2.1, fun done => persists.stopped (sound.2.2 done)⟩
  | listening | accepting =>
      exact ⟨persists.kind.trans sound.1, (congrArg Config.is_client_ persists.config).trans sound.2⟩
  | server =>
      exact ⟨⟨persists.kind.trans sound.1.1,
        (congrArg Config.is_client_ persists.config).trans sound.1.2⟩, sound.2⟩
  | opening => exact persists.kind.trans sound
  | producing =>
      refine ⟨persists.kind.trans sound.1, fun done => ?_⟩
      rw [persists.options]
      exact (sound.2 done).imp id persists.stopped
  | returned => exact persists.stopped sound

theorem ThreadSound.ran {worker : Worker} (sound : ThreadSound platform worker point) :
    point.tunnelLoop.Ran platform := by
  cases point with
  | client => exact sound.2.1
  | server => exact sound.2
  | leaving | reporting | ended => exact sound
  | created | announcing | constructing | connecting | announcingConnected | joining | listening
  | accepting | opening | producing | returned => trivial

theorem Worker.Persists.refl (worker : Worker) : worker.Persists worker := ⟨rfl, rfl, rfl, id⟩

theorem Worker.Persists.trans {last : Worker} (first : before.Persists after)
    (second : after.Persists last) : before.Persists last where
  kind := second.kind.trans first.kind
  config := second.config.trans first.config
  options := second.options.trans first.options
  stopped := fun requested => second.stopped (first.stopped requested)

private theorem recordDatagram_persists (worker : Worker) (clock : Clock) (observation : DatagramObservation) :
    worker.Persists (worker.recordDatagram clock observation) := by
  obtain ⟨samples, metrics, recent, recorded⟩ := recordDatagram_frame worker clock observation
  rw [recorded]
  exact ⟨rfl, rfl, rfl, id⟩

/-- A call never takes anything from a worker that a thread relies on; it brings the thread
to life once. -/
theorem persists_of_callChange (changed : CallChange before after) (unconstructed : before.body ≠ .absent) :
    before.Persists after ∧ after.body = before.body := by
  have requested : ∀ worker : Worker, worker.Persists worker.request_stop := by
    intro worker
    refine ⟨by simp, ?_, ?_, fun stopped => ?_⟩
    · unfold Worker.request_stop; split <;> rfl
    · unfold Worker.request_stop; split <;> rfl
    · simp only [Worker.stop_requested, decide_eq_true_eq] at stopped ⊢
      exact request_stop_requested stopped
  cases changed with
  | stopped =>
      have same : before.Persists (transition before .stopping (ascii "Stopping")) := ⟨rfl, rfl, rfl, id⟩
      exact ⟨same.trans (requested _), by simp [transition]⟩
  | stopRequested => exact ⟨requested _, by simp⟩
  | joined | assigned => exact ⟨⟨rfl, rfl, rfl, id⟩, rfl⟩
  | constructed absent => exact absurd absent unconstructed

end Persists

/-! ## Steps of a thread -/

/-- What the observer has been told, and what it has still to be told, is all that the loop
has observed. -/
def ThreadPoint.Observed (told : List DatagramObservation) (point : ThreadPoint) : Prop :=
  told ++ point.untold = point.tunnelLoop.observations

/-- A step of a thread as the runtime sees it. -/
structure Reports (platform : Platform) (clock : Clock) (worker : Worker) (point : ThreadPoint)
    (value : Worker) (next : ThreadPoint) (events : List WorkerEvent) : Prop where
  ran : (workerBody clock).exec worker events =
    some { value with body := next.body value.isClientTunnel }
  sound : ThreadSound platform value next
  observed : ∀ before, point.Observed before → next.Observed (before ++ reportedDatagrams events)

section Threads

variable {platform : Platform} {clock : Clock} {worker value : Worker} {point next : ThreadPoint}

private theorem reports_nothing (same : worker.body = next.body worker.isClientTunnel)
    (sound : ThreadSound platform worker next)
    (observed : ∀ before, point.Observed before → next.Observed before) :
    Reports platform clock worker point worker next [] where
  ran := by rw [← same]; rfl
  sound := sound
  observed := by
    intro before seen
    rw [show reportedDatagrams [] = [] from rfl, List.append_nil]
    exact observed before seen

private theorem reports_one (event : WorkerEvent) {inside : BodyPoint}
    (unobserved : reportedDatagrams [event] = [])
    (body : next.body value.isClientTunnel = inside)
    (stepped : stepBody clock worker event = some { value with body := inside })
    (sound : ThreadSound platform value next)
    (observed : ∀ before, point.Observed before → next.Observed before) :
    Reports platform clock worker point value next [event] where
  ran := by rw [body]; exact (Machine.exec_singleton_iff _).mpr stepped
  sound := sound
  observed := by
    intro before seen
    rw [unobserved, List.append_nil]
    exact observed before seen

private theorem reports_datagram {observation : DatagramObservation} (inside : worker.body = .working true)
    (tunnel : worker.snapshot.kind = .tunnel) (body : ∀ client, next.body client = .working true)
    (sound : ThreadSound platform (worker.recordDatagram clock observation) next)
    (told : point.untold = observation :: next.untold) (same : next.tunnelLoop = point.tunnelLoop) :
    Reports platform clock worker point (worker.recordDatagram clock observation) next
      [.datagram observation] where
  ran := by
    refine (Machine.exec_singleton_iff _).mpr ?_
    obtain ⟨samples, metrics, recent, recorded⟩ := recordDatagram_frame worker clock observation
    have kept : (worker.recordDatagram clock observation).body = .working true := by rw [recorded, ← inside]
    simp only [workerBody, stepBody, inside, if_pos tunnel, body]
    rw [← kept]
  sound := sound
  observed := by
    intro before seen
    have listed : before ++ observation :: next.untold = point.tunnelLoop.observations := told ▸ seen
    show before ++ [observation] ++ next.untold = _
    rw [same, ← listed, List.append_assoc]
    rfl

private theorem reports_failed {connected : Bool} {left : TunnelLoop} (inside : worker.body = .working connected)
    (what : Text) (ran : left.Ran platform)
    (observed : ∀ before, point.Observed before → before = left.observations) :
    Reports platform clock worker point worker (.leaving .failed what left) [.failed what] :=
  reports_one _ rfl rfl (by simp only [stepBody, inside]; rfl) ran fun before seen =>
    (List.append_nil before).trans (observed before seen)

private theorem reports_finished {connected : Bool} {left : TunnelLoop} (inside : worker.body = .working connected)
    (finishes : worker.canFinish = true) (ran : left.Ran platform)
    (observed : ∀ before, point.Observed before → before = left.observations) :
    Reports platform clock worker point worker (.leaving .stopped worker.farewell left) [.finished] := by
  refine reports_one _ rfl rfl ?_ ran fun before seen => (List.append_nil before).trans (observed before seen)
  simp only [stepBody, inside]
  rw [if_pos finishes]
  rfl

private theorem ThreadPoint.Observed.of_told {before : List DatagramObservation} (seen : point.Observed before)
    (told : point.untold = []) : before = point.tunnelLoop.observations := by
  rw [← List.append_nil before, ← told]
  exact seen

/-- What a pass has added is untold at first. -/
theorem ThreadPoint.Observed.pass {before : List DatagramObservation} (seen : point.Observed before)
    {loop loop_ : List DatagramObservation} (told : point.untold = [])
    (here : point.tunnelLoop.observations = loop) (there : next.tunnelLoop.observations = loop_)
    (grown : ∃ added, loop_ = loop ++ added) (untold : next.untold = newObservations loop loop_) :
    next.Observed before := by
  obtain ⟨added, rfl⟩ := grown
  rw [ThreadPoint.Observed, untold, there, newObservations, List.drop_left, seen.of_told told, here]

private theorem reports_afterLoop {status : LoopStatus} {loop : TunnelLoop} (inside : worker.body = .working true)
    (finishes : status = .returned → worker.canFinish = true) (ran : loop.Ran platform)
    (observed : ∀ before, point.Observed before → before = loop.observations)
    (left : afterLoop worker loop status = some next) :
    ∃ events, Reports platform clock worker point worker next events := by
  cases status with
  | running | aborted | undefined => cases left
  | returned =>
      cases left
      exact ⟨_, reports_finished inside (finishes rfl) ran observed⟩
  | threw what =>
      cases left
      exact ⟨_, reports_failed inside what ran observed⟩

private theorem resolveInterface_is_client_ {interfaces : List Interface} {cfg cfg_ : Config}
    (resolved : resolveInterface interfaces cfg = .ok cfg_) : cfg_.is_client_ = cfg.is_client_ := by
  unfold resolveInterface at resolved
  dsimp only at resolved
  split at resolved <;> cases resolved
  rfl

private theorem isClientTunnel_iff :
    worker.isClientTunnel = true ↔ worker.snapshot.kind = .tunnel ∧ worker.config.is_client_ = true := by
  simp [Worker.isClientTunnel]

private theorem canFinish_of_server (tunnel : worker.snapshot.kind = .tunnel)
    (server : worker.config.is_client_ = false) : worker.canFinish = true := by
  simp [Worker.canFinish, tunnel, server]

private theorem canFinish_of_stopped (stopped : worker.stop_requested = true) : worker.canFinish = true := by
  unfold Worker.canFinish
  split <;> simp [stopped]

private theorem reports_constructed {failure : Option (SetupCall × Nat)}
    (body : worker.body = .working (!worker.isClientTunnel))
    (constructed : constructBody platform worker failure = some next) :
    ∃ events, Reports platform clock worker .constructing worker next events := by
  unfold constructBody at constructed
  cases kind : worker.snapshot.kind with
  | producer =>
      have client : worker.isClientTunnel = false := by simp [Worker.isClientTunnel, kind]
      simp only [kind] at constructed
      cases made : DatagramProducer.create worker.config worker.options with
      | error what =>
          rw [made] at constructed
          cases constructed
          exact ⟨_, reports_failed body what trivial fun _ seen => seen.of_told rfl⟩
      | ok =>
          rw [made] at constructed
          cases constructed
          exact ⟨_, reports_nothing (by rw [body, client]; rfl) kind fun _ => id⟩
  | tunnel =>
      simp only [kind] at constructed
      cases resolved : resolveInterface platform.interfaces worker.config with
      | error what =>
          rw [resolved] at constructed
          cases constructed
          exact ⟨_, reports_failed body what trivial fun _ seen => seen.of_told rfl⟩
      | ok cfg_ =>
          rw [resolved] at constructed
          cases failure with
          | some failure =>
              dsimp only at constructed
              split_ifs at constructed
              cases constructed
              exact ⟨_, reports_failed body _ trivial fun _ seen => seen.of_told rfl⟩
          | none =>
              have mode := resolveInterface_is_client_ resolved
              cases constructed
              cases client : cfg_.is_client_ with
              | true =>
                  rw [if_pos rfl]
                  exact ⟨_, reports_nothing body
                    (isClientTunnel_iff.mpr ⟨kind, mode.symm.trans client⟩) fun _ => id⟩
              | false =>
                  have server : worker.isClientTunnel = false := by
                    simp [Worker.isClientTunnel, mode.symm.trans client]
                  rw [if_neg Bool.false_ne_true]
                  exact ⟨_, reports_nothing (by rw [body, server]; rfl)
                    ⟨kind, mode.symm.trans client⟩ fun _ => id⟩

private theorem reports_begun (body : worker.body = .entry)
    (stepped : threadStep platform clock worker .created .begin = some (value, next)) :
    Reports platform clock worker .created value next [.begin] := by
  by_cases client : worker.isClientTunnel = true
  · have stepped : some ({ worker with started_at := clock.steady }, ThreadPoint.constructing) =
        some (value, next) := (if_pos (isClientTunnel_iff.mp client)).symm.trans stepped
    cases stepped
    have body_ : ThreadPoint.body ({ worker with started_at := clock.steady } : Worker).isClientTunnel
        .constructing = .working false := by
      rw [show Worker.isClientTunnel { worker with started_at := clock.steady } = true from client]
      rfl
    refine reports_one _ rfl body_ ?_ trivial fun _ => id
    simp only [stepBody, body]
    exact if_pos client
  · have stepped := (if_neg (mt isClientTunnel_iff.mpr client)).symm.trans stepped
    cases stepped
    refine reports_one _ rfl rfl ?_ (Bool.eq_false_iff.mpr client) fun _ => id
    simp only [stepBody, body]
    exact if_neg client

/-- A producer only returns on request or if it counts. -/
theorem ProducerLoop.finishes_of_step {options_ : ProducerOptions} {destination : SockAddrIn}
    {loop next : ProducerLoop} {event : ProducerEvent}
    (stepped : (runProducer options_ destination).step loop event = some next)
    (done : next.status = .returned) : options_.count ≠ 0 ∨ loop.stop_requested = true := by
  have stepped : ProducerLoop.step options_ destination loop event = some next := stepped
  obtain ⟨running, steps⟩ := step_cases stepped
  cases steps with
  | returned point enough =>
      rcases enough with stopped | enough
      · exact .inr stopped
      · exact .inl fun unlimited => enough (.inl unlimited)
  | requested | passed | sent | recorded | sleeping | finished | slept =>
      dsimp only [ProducerLoop.next] at done
      rw [running] at done
      cases done
  | oversized | unsent => cases done

/-- Every step of a thread is a sequence of reports that the runtime allows. -/
theorem threadStep_reports {event : ThreadEvent} (sound : ThreadSound platform worker point)
    (body : worker.body = point.body worker.isClientTunnel)
    (stepped : threadStep platform clock worker point event = some (value, next)) :
    ∃ events, Reports platform clock worker point value next events := by
  cases point with
  | created =>
      cases event <;> first | cases stepped | exact ⟨_, reports_begun body stepped⟩
  | announcing notice =>
      cases event with
      | published =>
          cases stepped
          have inside : ThreadPoint.body worker.isClientTunnel .constructing = .working true := by
            rw [show worker.isClientTunnel = false from sound]
            rfl
          refine ⟨_, reports_one .published rfl inside ?_ trivial fun _ => id⟩
          simp only [stepBody, body, ThreadPoint.body]
      | _ => cases stepped
  | constructing =>
      cases event with
      | construct failure =>
          obtain ⟨point, constructed, same⟩ := Option.map_eq_some_iff.mp stepped
          cases same
          exact reports_constructed body constructed
      | _ => cases stepped
  | connecting cfg_ =>
      cases event with
      | connect found fuel =>
          have inside : worker.body = .working false := by
            rw [body, show worker.isClientTunnel = true from sound]
            rfl
          simp only [threadStep] at stepped
          split at stepped
          · cases stepped
          · cases stepped
            exact ⟨_, reports_failed inside _ trivial fun _ seen => seen.of_told rfl⟩
          · cases stepped
            refine ⟨_, reports_one .connected rfl rfl ?_ sound fun _ => id⟩
            simp only [stepBody, inside]
            rfl
          · split_ifs at stepped with stopped
            cases stepped
            exact ⟨_, reports_nothing body stopped fun _ => id⟩
      | _ => cases stepped
  | announcingConnected cfg_ notice =>
      cases event with
      | published =>
          cases stepped
          refine ⟨_, reports_one .published rfl rfl ?_ sound fun _ => id⟩
          simp only [stepBody, body, ThreadPoint.body]
      | _ => cases stepped
  | joining cfg_ =>
      cases event with
      | join failure =>
          cases failure with
          | some error_code =>
              cases stepped
              exact ⟨_, reports_failed body _ trivial fun _ seen => seen.of_told rfl⟩
          | none =>
              cases stepped
              exact ⟨_, reports_nothing body ⟨sound, ⟨[], rfl⟩, fun done => by cases done⟩ fun _ => id⟩
      | _ => cases stepped
  | client cfg_ loop untold =>
      obtain ⟨tunnel, come, stopped⟩ := sound
      have ⟨events, ran⟩ := come
      have kind := (isClientTunnel_iff.mp tunnel).1
      cases untold with
      | nil =>
          cases event with
          | client event =>
              simp only [threadStep] at stepped
              split_ifs at stepped with unasked
              obtain ⟨loop_, passed, same⟩ := Option.map_eq_some_iff.mp stepped
              cases same
              obtain ⟨grown, returns⟩ := ClientLoop.step_reports passed
              refine ⟨_, reports_nothing body ⟨tunnel, ⟨events ++ [event],
                (Machine.exec_snoc_iff _).mpr ⟨loop, ran, passed⟩⟩, fun done => ?_⟩ fun _ seen =>
                seen.pass rfl rfl rfl grown rfl⟩
              simpa [returns done] using unasked
          | leave =>
              obtain ⟨point, left, same⟩ := Option.map_eq_some_iff.mp stepped
              cases same
              exact reports_afterLoop body (fun done => canFinish_of_stopped (stopped done)) come
                (fun _ seen => seen.of_told rfl) left
          | _ => cases stepped
      | cons observation untold =>
          cases event with
          | observe =>
              cases stepped
              have persists := recordDatagram_persists worker clock observation
              refine ⟨_, reports_datagram body kind (fun _ => rfl) ?_ rfl rfl⟩
              exact ⟨persists.isClientTunnel.trans tunnel, come,
                fun done => persists.stopped (stopped done)⟩
          | _ => cases stepped
  | listening cfg_ =>
      cases event with
      | listen failure =>
          cases failure with
          | some failure =>
              cases stepped
              exact ⟨_, reports_failed body _ trivial fun _ seen => seen.of_told rfl⟩
          | none =>
              cases stepped
              exact ⟨_, reports_nothing body sound fun _ => id⟩
      | _ => cases stepped
  | accepting cfg_ =>
      have server : worker.isClientTunnel = false := by simp [Worker.isClientTunnel, sound.2]
      cases event with
      | accept accepted =>
          simp only [threadStep] at stepped
          split at stepped
          · cases stepped
            exact ⟨_, reports_nothing body sound fun _ => id⟩
          · cases stepped
            exact ⟨_, reports_failed body _ trivial fun _ seen => seen.of_told rfl⟩
          · cases stepped
            exact ⟨_, reports_failed body _ trivial fun _ seen => seen.of_told rfl⟩
          · cases stepped
            exact ⟨_, reports_nothing body ⟨sound, [], rfl⟩ fun _ => id⟩
          · split_ifs at stepped with stopped
            cases stepped
            exact ⟨_, reports_nothing (by rw [body, server]; rfl) stopped fun _ => id⟩
      | _ => cases stepped
  | server cfg_ stream loop untold =>
      obtain ⟨⟨kind, mode⟩, come⟩ := sound
      have ⟨events, ran⟩ := come
      cases untold with
      | nil =>
          cases event with
          | server event =>
              simp only [threadStep] at stepped
              split_ifs at stepped
              obtain ⟨loop_, passed, same⟩ := Option.map_eq_some_iff.mp stepped
              cases same
              exact ⟨_, reports_nothing body ⟨⟨kind, mode⟩, events ++ [event],
                (Machine.exec_snoc_iff _).mpr ⟨loop, ran, passed⟩⟩ fun _ seen =>
                seen.pass rfl rfl rfl (ServerLoop.step_reports passed) rfl⟩
          | leave =>
              obtain ⟨point, left, same⟩ := Option.map_eq_some_iff.mp stepped
              cases same
              exact reports_afterLoop body (fun _ => canFinish_of_server kind mode) come
                (fun _ seen => seen.of_told rfl) left
          | _ => cases stepped
      | cons observation untold =>
          cases event with
          | observe =>
              cases stepped
              have persists := recordDatagram_persists worker clock observation
              refine ⟨_, reports_datagram body kind (fun _ => rfl) ?_ rfl rfl⟩
              exact ⟨⟨persists.kind.trans kind,
                (congrArg Config.is_client_ persists.config).trans mode⟩, come⟩
          | _ => cases stepped
  | opening =>
      cases event with
      | setUp found =>
          simp only [threadStep] at stepped
          split at stepped
          · cases stepped
            exact ⟨_, reports_failed body _ trivial fun _ seen => seen.of_told rfl⟩
          · cases stepped
            exact ⟨_, reports_nothing body ⟨sound, fun done => by cases done⟩ fun _ => id⟩
      | _ => cases stepped
  | producing destination loop =>
      obtain ⟨kind, finishes⟩ := sound
      cases event with
      | producer event =>
          simp only [threadStep] at stepped
          split_ifs at stepped
          obtain ⟨loop_, passed, same⟩ := Option.map_eq_some_iff.mp stepped
          cases same
          refine ⟨_, reports_nothing body ⟨kind, fun done => ?_⟩ fun _ => id⟩
          exact ProducerLoop.finishes_of_step passed done
      | leave =>
          obtain ⟨point, left, same⟩ := Option.map_eq_some_iff.mp stepped
          cases same
          have none : TunnelLoop.none.Ran platform := trivial
          refine reports_afterLoop body (fun done => ?_) none (fun _ seen => seen.of_told rfl) left
          rcases finishes done with limited | stopped
          · simp [Worker.canFinish, kind, limited]
          · exact canFinish_of_stopped stopped
      | _ => cases stepped
  | returned =>
      cases event with
      | leave =>
          cases stepped
          exact ⟨_, reports_finished body (canFinish_of_stopped sound) trivial fun _ seen => seen.of_told rfl⟩
      | _ => cases stepped
  | leaving state detail left =>
      cases event with
      | conclude =>
          cases stepped
          refine ⟨_, reports_one .conclude rfl rfl ?_ sound fun _ => id⟩
          simp only [stepBody, body, ThreadPoint.body]
      | _ => cases stepped
  | reporting notice left =>
      cases event with
      | published =>
          cases stepped
          refine ⟨_, reports_one .published rfl rfl ?_ sound fun _ => id⟩
          simp only [stepBody, body, ThreadPoint.body]
      | _ => cases stepped
  | ended => cases event <;> cases stepped

end Threads

end DatagramTunneler
