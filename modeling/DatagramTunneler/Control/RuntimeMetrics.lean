import DatagramTunneler.Control.RuntimeInvariants
import DatagramTunneler.Foundation.Samples
import Mathlib.Algebra.BigOperators.Group.List.Basic
import Mathlib.Order.Bounds.Basic

/-! What the metrics of a worker are, as a function of all observations recorded for it. -/

set_option autoImplicit false

namespace DatagramTunneler

open Foundation

/-- An observation with the clock it is recorded at. -/
abbrev Recording := Clock × DatagramObservation

def Recording.detail (recording : Recording) : DatagramDetail :=
  ⟨recording.1.system, recording.2.bytes, recording.2.latency_milliseconds⟩

/-- The latencies of those observations that carry one. -/
def latencies (recordings : List Recording) : List ℚ :=
  recordings.filterMap (·.2.latency_milliseconds)

/-- Calls of `recordDatagram` for one worker, one after the other. -/
def Worker.recordDatagrams (worker : Worker) (recordings : List Recording) : Worker :=
  recordings.foldl (fun worker recording => worker.recordDatagram recording.1 recording.2) worker

/-! ## Percentiles -/

theorem percentile_eq (samples : List ℚ) (value : ℚ) :
    percentile samples value = samples[floorRank value samples.length]? := rfl

/-- A window of latencies in the order of `std::sort`. -/
def sortedSamples (window : List ℚ) : List ℚ := window.insertionSort (· ≤ ·)

section Sorted

variable (window : List ℚ)

theorem sortedSamples_pairwise : (sortedSamples window).Pairwise (· ≤ ·) :=
  List.pairwise_insertionSort _ window

theorem sortedSamples_perm : (sortedSamples window).Perm window :=
  List.perm_insertionSort _ window

@[simp] theorem length_sortedSamples : (sortedSamples window).length = window.length :=
  List.length_insertionSort _ window

@[simp] theorem mem_sortedSamples {sample : ℚ} :
    sample ∈ sortedSamples window ↔ sample ∈ window :=
  List.mem_insertionSort _

variable {window}

theorem sortedSamples_ne_nil (some_ : window ≠ []) : sortedSamples window ≠ [] := by
  apply List.ne_nil_of_length_pos
  rw [length_sortedSamples]
  exact List.length_pos_iff.mpr some_

theorem percentile_eq_getElem {share : ℚ} (atMost : share ≤ 1) (some_ : window ≠ []) :
    ∃ within : floorRank share window.length < (sortedSamples window).length,
      percentile (sortedSamples window) share =
        some (sortedSamples window)[floorRank share window.length] := by
  have within : floorRank share window.length < (sortedSamples window).length := by
    rw [length_sortedSamples]
    exact floorRank_lt atMost (List.length_pos_iff.mpr some_)
  refine ⟨within, ?_⟩
  rw [percentile_eq, length_sortedSamples, List.getElem?_eq_getElem within]

end Sorted

/-! ## Latency metrics -/

/-- The latency metrics are left as they are. -/
structure SameLatencyMetrics (before after : TunnelMetrics) : Prop where
  average : after.average_latency_milliseconds = before.average_latency_milliseconds
  p50 : after.p50_latency_milliseconds = before.p50_latency_milliseconds
  p99 : after.p99_latency_milliseconds = before.p99_latency_milliseconds
  maximum : after.maximum_latency_milliseconds = before.maximum_latency_milliseconds

/-- The latency metrics describe a window of latencies; an empty one has none. -/
structure LatencyMetrics (window : List ℚ) (metrics : TunnelMetrics) : Prop where
  average : metrics.average_latency_milliseconds =
    if window = [] then none else some (window.sum / window.length)
  p50 : metrics.p50_latency_milliseconds = percentile (sortedSamples window) (1 / 2)
  p99 : metrics.p99_latency_milliseconds = percentile (sortedSamples window) (99 / 100)
  maximum : metrics.maximum_latency_milliseconds = (sortedSamples window).getLast?

theorem LatencyMetrics.congr {window : List ℚ} {before after : TunnelMetrics}
    (describes : LatencyMetrics window before) (same : SameLatencyMetrics before after) :
    LatencyMetrics window after :=
  ⟨same.average.trans describes.average, same.p50.trans describes.p50,
    same.p99.trans describes.p99, same.maximum.trans describes.maximum⟩

/-- The reported percentiles are samples, in order, and below the largest one. -/
theorem LatencyMetrics.ordered {window : List ℚ} {metrics : TunnelMetrics}
    (describes : LatencyMetrics window metrics) (some_ : window ≠ []) :
    ∃ p50 p99 maximum, metrics.p50_latency_milliseconds = some p50 ∧
      metrics.p99_latency_milliseconds = some p99 ∧
      metrics.maximum_latency_milliseconds = some maximum ∧
      p50 ∈ window ∧ p99 ∈ window ∧ p50 ≤ p99 ∧ p99 ≤ maximum ∧
      IsGreatest {sample | sample ∈ window} maximum := by
  have sorted := sortedSamples_pairwise window
  have nonempty := sortedSamples_ne_nil some_
  obtain ⟨within50, p50⟩ := @percentile_eq_getElem window (1 / 2) (by norm_num) some_
  obtain ⟨within99, p99⟩ := @percentile_eq_getElem window (99 / 100) (by norm_num) some_
  have greatest : ∀ sample ∈ window, sample ≤ (sortedSamples window).getLast nonempty := by
    intro sample inside
    exact le_getLast sorted nonempty ((mem_sortedSamples window).mpr inside)
  have member : ∀ {index : Nat} (within : index < (sortedSamples window).length),
      (sortedSamples window)[index] ∈ window :=
    fun within => (mem_sortedSamples window).mp (List.getElem_mem within)
  refine ⟨_, _, (sortedSamples window).getLast nonempty, describes.p50.trans p50,
    describes.p99.trans p99, ?_, member within50, member within99, ?_, ?_, ?_⟩
  · rw [describes.maximum, List.getLast?_eq_some_getLast nonempty]
  · exact getElem_le_getElem sorted within99 (floorRank_mono (by norm_num))
  · exact greatest _ (member within99)
  · exact ⟨(mem_sortedSamples window).mp (List.getLast_mem nonempty), greatest⟩

/-! ## One recording -/

section Recording

variable (worker : Worker) (clock : Clock) (observation : DatagramObservation)

private theorem recordDatagram_datagram_count :
    (worker.recordDatagram clock observation).snapshot.metrics.datagram_count =
      worker.snapshot.metrics.datagram_count + 1 := by
  unfold Worker.recordDatagram Worker.recordLatency
  cases observation.latency_milliseconds <;> dsimp only <;> split <;> rfl

private theorem recordDatagram_byte_count :
    (worker.recordDatagram clock observation).snapshot.metrics.byte_count =
      worker.snapshot.metrics.byte_count + UInt64.ofNat observation.bytes := by
  unfold Worker.recordDatagram Worker.recordLatency
  cases observation.latency_milliseconds <;> dsimp only <;> split <;> rfl

private theorem recordDatagram_recent_datagrams {details : List DatagramDetail}
    (recent : worker.snapshot.recent_datagrams = details.rtake 10) :
    (worker.recordDatagram clock observation).snapshot.recent_datagrams =
      (details ++ [Recording.detail (clock, observation)]).rtake 10 := by
  rw [rtake_snoc, ← recent]
  unfold Worker.recordDatagram Worker.recordLatency
  obtain ⟨bytes, latency⟩ := observation
  cases latency <;> rfl

variable {observation}

private theorem recordDatagram_silent (silent : observation.latency_milliseconds = none) :
    SameLatencyMetrics worker.snapshot.metrics
        (worker.recordDatagram clock observation).snapshot.metrics ∧
      (worker.recordDatagram clock observation).latency_samples = worker.latency_samples := by
  unfold Worker.recordDatagram
  rw [silent]
  dsimp only
  split <;> exact ⟨⟨rfl, rfl, rfl, rfl⟩, rfl⟩

private theorem recordLatency_metrics (latency : ℚ) :
    LatencyMetrics (worker.recordLatency latency).latency_samples
      (worker.recordLatency latency).snapshot.metrics := by
  have some_ : (worker.recordLatency latency).latency_samples ≠ [] := by
    unfold Worker.recordLatency
    dsimp only
    split
    case isTrue full =>
        apply List.ne_nil_of_length_pos
        rw [List.length_drop]
        omega
    case isFalse => exact List.append_ne_nil_of_right_ne_nil _ (List.cons_ne_nil _ _)
  have perm := sortedSamples_perm (worker.recordLatency latency).latency_samples
  constructor
  case average =>
      rw [if_neg some_, ← perm.sum_eq, ← perm.length_eq]
      rfl
  all_goals rfl

private theorem recordDatagram_latency_samples {samples : List ℚ} {latency : ℚ}
    (carried : observation.latency_milliseconds = some latency)
    (held : worker.latency_samples = samples.rtake 1024) :
    (worker.recordDatagram clock observation).latency_samples =
      (samples ++ [latency]).rtake 1024 := by
  rw [rtake_snoc, ← held]
  unfold Worker.recordDatagram
  rw [carried]
  rfl

private theorem recordDatagram_metrics {latency : ℚ}
    (carried : observation.latency_milliseconds = some latency) :
    LatencyMetrics (worker.recordDatagram clock observation).latency_samples
      (worker.recordDatagram clock observation).snapshot.metrics := by
  unfold Worker.recordDatagram
  rw [carried]
  exact recordLatency_metrics _ latency

end Recording

/-! ## Sequences of recordings -/

/-- What a worker holds after a sequence of recordings. -/
structure Worker.Records (worker : Worker) (recordings : List Recording) : Prop where
  datagram_count : worker.snapshot.metrics.datagram_count = UInt64.ofNat recordings.length
  byte_count : worker.snapshot.metrics.byte_count =
    UInt64.ofNat (recordings.map (·.2.bytes)).sum
  recent_datagrams : worker.snapshot.recent_datagrams = (recordings.map Recording.detail).rtake 10
  latency_samples : worker.latency_samples = (latencies recordings).rtake 1024
  latency : LatencyMetrics ((latencies recordings).rtake 1024) worker.snapshot.metrics

private theorem makeWorker_records (clock : Clock) (call : ControlCall) (config : Config) :
    (ManagedTunnelRuntime.makeWorker clock call config).Records [] := by
  unfold ManagedTunnelRuntime.makeWorker
  constructor
  case latency => dsimp only; split <;> exact ⟨rfl, rfl, rfl, rfl⟩
  case latency_samples => rfl
  all_goals dsimp only; split <;> rfl

theorem Worker.Records.recordDatagram {worker : Worker} {recordings : List Recording}
    (records : worker.Records recordings) (clock : Clock) (observation : DatagramObservation) :
    (worker.recordDatagram clock observation).Records (recordings ++ [(clock, observation)]) := by
  have counted : (worker.recordDatagram clock observation).snapshot.metrics.datagram_count =
      UInt64.ofNat (recordings ++ [(clock, observation)]).length := by
    rw [recordDatagram_datagram_count, records.datagram_count, List.length_append,
      List.length_singleton, UInt64.ofNat_add]
    rfl
  have summed : (worker.recordDatagram clock observation).snapshot.metrics.byte_count =
      UInt64.ofNat ((recordings ++ [(clock, observation)]).map (·.2.bytes)).sum := by
    rw [recordDatagram_byte_count, records.byte_count, List.map_append, List.sum_append,
      UInt64.ofNat_add]
    simp only [List.map_cons, List.map_nil, List.sum_singleton]
  have recent : (worker.recordDatagram clock observation).snapshot.recent_datagrams =
      ((recordings ++ [(clock, observation)]).map Recording.detail).rtake 10 := by
    rw [List.map_append]
    exact recordDatagram_recent_datagrams worker clock observation records.recent_datagrams
  cases carried : observation.latency_milliseconds with
  | none =>
      obtain ⟨same, samples⟩ := recordDatagram_silent worker clock carried
      have window : latencies (recordings ++ [(clock, observation)]) = latencies recordings := by
        simp [latencies, carried]
      exact {
        datagram_count := counted
        byte_count := summed
        recent_datagrams := recent
        latency_samples := by rw [samples, window, records.latency_samples]
        latency := by rw [window]; exact records.latency.congr same }
  | some latency =>
      have window : latencies (recordings ++ [(clock, observation)]) =
          latencies recordings ++ [latency] := by
        simp [latencies, carried]
      have samples := recordDatagram_latency_samples worker clock carried records.latency_samples
      exact {
        datagram_count := counted
        byte_count := summed
        recent_datagrams := recent
        latency_samples := by rw [samples, window]
        latency := by
          rw [window, ← samples]
          exact recordDatagram_metrics worker clock carried }

theorem recordDatagrams_records (clock : Clock) (call : ControlCall) (config : Config)
    (recordings : List Recording) :
    ((ManagedTunnelRuntime.makeWorker clock call config).recordDatagrams recordings).Records
      recordings := by
  induction recordings using List.reverseRecOn with
  | nil => exact makeWorker_records clock call config
  | append_singleton recordings recording ih =>
      unfold Worker.recordDatagrams at ih ⊢
      rw [List.foldl_append]
      exact ih.recordDatagram recording.1 recording.2

/-- The metrics of a worker are the exact function of the observations that its snapshot
promises, and an observation without a latency does not touch the latency metrics. -/
theorem recordDatagrams_metrics (clock : Clock) (call : ControlCall) (config : Config)
    (recordings : List Recording) :
    let worker := (ManagedTunnelRuntime.makeWorker clock call config).recordDatagrams recordings
    let metrics := worker.snapshot.metrics
    let window := (latencies recordings).rtake 1024
    metrics.datagram_count.toNat = recordings.length % 2 ^ 64 ∧
      metrics.byte_count.toNat = (recordings.map (·.2.bytes)).sum % 2 ^ 64 ∧
      worker.snapshot.recent_datagrams = (recordings.map Recording.detail).rtake 10 ∧
      (latencies recordings ≠ [] →
        metrics.average_latency_milliseconds = some (window.sum / window.length) ∧
        ∃ p50 p99 maximum, metrics.p50_latency_milliseconds = some p50 ∧
          metrics.p99_latency_milliseconds = some p99 ∧
          metrics.maximum_latency_milliseconds = some maximum ∧
          p50 ∈ window ∧ p99 ∈ window ∧ p50 ≤ p99 ∧ p99 ≤ maximum ∧
          IsGreatest {sample | sample ∈ window} maximum) ∧
      (∀ worker : Worker, ∀ clock : Clock, ∀ observation : DatagramObservation,
        observation.latency_milliseconds = none →
          SameLatencyMetrics worker.snapshot.metrics
            (worker.recordDatagram clock observation).snapshot.metrics) ∧
      ∀ samples : List ℚ, samples ≠ [] → ∀ share, 0 ≤ share → share ≤ 1 →
        (percentile samples share).isSome = true := by
  have records := recordDatagrams_records clock call config recordings
  refine ⟨?_, ?_, records.recent_datagrams, ?_, ?_, ?_⟩
  · rw [records.datagram_count, UInt64.toNat_ofNat']
  · rw [records.byte_count, UInt64.toNat_ofNat']
  · intro some_
    have nonempty := @rtake_ne_nil _ 1024 _ (by decide) some_
    have average := records.latency.average
    rw [if_neg nonempty] at average
    exact ⟨average, records.latency.ordered nonempty⟩
  · intro worker clock observation silent
    exact (recordDatagram_silent worker clock silent).1
  · intro samples some_ share _ atMost
    have within := floorRank_lt atMost (List.length_pos_iff.mpr some_)
    rw [percentile_eq, List.getElem?_eq_getElem within]
    rfl

/-! ## Runs -/

/-- The observations that a schedule records for a worker. -/
def recorded (worker : WorkerPtr) : Clock → List RuntimeLabel → List Recording
  | _, [] => []
  | _, .tick clock :: labels => recorded worker clock labels
  | clock, .worker other (.datagram observation) :: labels =>
      if other = worker then (clock, observation) :: recorded worker clock labels
      else recorded worker clock labels
  | clock, _ :: labels => recorded worker clock labels

theorem recorded_worker_of_ne {worker other : WorkerPtr} (ne : other ≠ worker) (clock : Clock)
    (event : WorkerEvent) (labels : List RuntimeLabel) :
    recorded worker clock (.worker other event :: labels) = recorded worker clock labels := by
  cases event with
  | datagram observation => exact if_neg ne
  | begin | connected | finished | failed | conclude | published => rfl

theorem Worker.Records.congr {before after : Worker} {recordings : List Recording}
    (records : before.Records recordings)
    (metrics : after.snapshot.metrics = before.snapshot.metrics)
    (recent : after.snapshot.recent_datagrams = before.snapshot.recent_datagrams)
    (samples : after.latency_samples = before.latency_samples) : after.Records recordings where
  datagram_count := by rw [metrics, records.datagram_count]
  byte_count := by rw [metrics, records.byte_count]
  recent_datagrams := by rw [recent, records.recent_datagrams]
  latency_samples := by rw [samples, records.latency_samples]
  latency := metrics ▸ records.latency

namespace ManagedTunnelRuntime

private theorem records_of_callChange {before after : Worker} {recordings : List Recording}
    (records : before.Records recordings) (changed : CallChange before after) :
    after.Records recordings := by
  have requested : ∀ worker : Worker, worker.request_stop.latency_samples = worker.latency_samples := by
    intro worker
    unfold Worker.request_stop
    split <;> rfl
  cases changed with
  | stopped =>
      have snapshot := request_stop_snapshot (transition before .stopping (ascii "Stopping"))
      exact records.congr (by rw [snapshot]; rfl) (by rw [snapshot]; rfl) (requested _)
  | stopRequested =>
      have snapshot := request_stop_snapshot before
      exact records.congr (by rw [snapshot]) (by rw [snapshot]) (requested _)
  | joined | constructed | assigned => exact records.congr rfl rfl rfl

private theorem records_of_bodyStep {clock : Clock} {before after : Worker} {event : WorkerEvent}
    {recordings : List Recording} (records : before.Records recordings) (worker : WorkerPtr)
    (moved : BodyStep clock before event after) :
    after.Records (recordings ++ recorded worker clock [.worker worker event]) := by
  cases moved with
  | datagram =>
      rw [recorded, if_pos rfl]
      exact records.recordDatagram clock _
  | connecting | running | connected | finished | failed | concluded | announced | reported =>
      change Worker.Records _ (recordings ++ [])
      rw [List.append_nil]
      exact records.congr rfl rfl rfl

section Runs

variable {runtime : ManagedTunnelRuntime} {worker : WorkerPtr} {recordings : List Recording}

/-- What is known of a worker: its recordings, and that there are none before it is made. -/
structure Follows (runtime : ManagedTunnelRuntime) (worker : WorkerPtr)
    (recordings : List Recording) : Prop where
  records : (runtime.heap worker).Records recordings
  unmade : runtime.made ≤ worker → recordings = []

private theorem records_of_made {call : ControlCall} {point : CallPoint} {shared : ManagedTunnelRuntime}
    {state : CallerState} (advanced : CallStep runtime call point shared state)
    (outside : runtime.made ≤ worker) (inside : worker < shared.made) :
    (shared.heap worker).Records [] := by
  have impossible : ¬ worker < runtime.made := Nat.not_lt.mpr outside
  cases advanced with
  | @emplaced config =>
      obtain rfl : worker = runtime.made := Nat.eq_of_lt_succ_of_not_lt inside impossible
      change ((runtime.setWorker runtime.made (makeWorker runtime.clock call config)).heap
        runtime.made).Records []
      rw [setWorker_heap_self]
      exact makeWorker_records _ _ _
  | joined done | finishedJoined done =>
      rcases joinThread_cases done with ⟨-, rfl⟩ | ⟨-, -, rfl⟩ <;> exact absurd inside impossible
  | notManaged | alreadyFinished | stopped | stopPublished | notFound | found | removed | kept
  | unknownTunnel | needsClient | lookedUp | slotFree | slotActive | slotReleased | announced
  | initialPublished | constructed | assigned | erased => exact absurd inside impossible

private theorem default_records : ({} : Worker).Records [] := by
  constructor
  case latency => exact ⟨rfl, rfl, rfl, rfl⟩
  all_goals rfl

private theorem not_bodyStep_default {clock : Clock} {event : WorkerEvent} {value : Worker} :
    ¬BodyStep clock {} event value := by
  intro moved
  cases moved with
  | connecting here | running here | connected here | datagram here | finished here | failed here
  | concluded here | announced here | reported here => cases here

private theorem clock_of_callStep {call : ControlCall} {point : CallPoint} {shared : ManagedTunnelRuntime}
    {state : CallerState} (advanced : CallStep runtime call point shared state) :
    shared.clock = runtime.clock := by
  cases advanced with
  | joined done | finishedJoined done =>
      rcases joinThread_cases done with ⟨-, rfl⟩ | ⟨-, -, rfl⟩ <;> rfl
  | notManaged | alreadyFinished | stopped | stopPublished | notFound | found | removed | kept
  | unknownTunnel | needsClient | lookedUp | slotFree | slotActive | slotReleased | emplaced
  | announced | initialPublished | constructed | assigned | erased => rfl

theorem Follows.step (follows : Follows runtime worker recordings) (sound : Sound runtime)
    {label : RuntimeLabel} {next : ManagedTunnelRuntime}
    (stepped : runtime.step label = some next) :
    Follows next worker (recordings ++ recorded worker runtime.clock [label]) := by
  have soundNext := sound.step stepped
  have grown := made_of_step stepped
  cases stepped_of_step stepped with
  | tick | configure | call | threadFails =>
      change Follows _ worker (recordings ++ [])
      rw [List.append_nil]
      exact ⟨follows.records, follows.unmade⟩
  | @advance caller call point shared state running advanced =>
      change Follows _ worker (recordings ++ [])
      rw [List.append_nil]
      by_cases inside : worker < runtime.made
      · refine ⟨?_, fun outside => absurd inside (Nat.not_lt.mpr (grown.trans outside))⟩
        rw [setCaller_heap]
        rcases callChange_of_callStep sound running advanced inside with same | ⟨changed, -⟩
        · exact same ▸ follows.records
        · exact records_of_callChange follows.records changed
      · obtain rfl := follows.unmade (Nat.not_lt.mp inside)
        refine ⟨?_, fun _ => rfl⟩
        by_cases made : worker < shared.made
        · rw [setCaller_heap]
          exact records_of_made advanced (Nat.not_lt.mp inside) made
        · rw [soundNext.fresh worker (Nat.not_lt.mp made)]
          exact default_records
  | @worker other event value moved =>
      by_cases same : other = worker
      · subst same
        refine ⟨?_, ?_⟩
        · rw [setWorker_heap_self]
          exact records_of_bodyStep follows.records other moved
        · intro outside
          rw [sound.fresh other outside] at moved
          exact absurd moved not_bodyStep_default
      · rw [recorded_worker_of_ne same]
        change Follows _ worker (recordings ++ [])
        rw [List.append_nil]
        refine ⟨?_, follows.unmade⟩
        rw [setWorker_heap_of_ne _ _ (Ne.symm same)]
        exact follows.records

theorem recorded_cons {label : RuntimeLabel} {next : ManagedTunnelRuntime}
    (stepped : runtime.step label = some next) (labels : List RuntimeLabel) :
    recorded worker runtime.clock (label :: labels) =
      recorded worker runtime.clock [label] ++ recorded worker next.clock labels := by
  cases stepped_of_step stepped with
  | tick | configure | call | threadFails => rfl
  | @advance caller call point shared state running advanced =>
      change recorded worker runtime.clock labels = recorded worker shared.clock labels
      rw [clock_of_callStep advanced]
  | @worker other event value moved =>
      change _ = _ ++ recorded worker runtime.clock labels
      cases event with
      | datagram observation =>
          by_cases same : other = worker <;> simp [recorded, same]
      | begin | connected | finished | failed | conclude | published => rfl

/-- Whatever the other threads do, a worker holds what its own observations make of it. -/
theorem Follows.exec {labels : List RuntimeLabel} {final : ManagedTunnelRuntime}
    (follows : Follows runtime worker recordings) (sound : Sound runtime)
    (ran : managedTunnelRuntime.exec runtime labels = some final) :
    Follows final worker (recordings ++ recorded worker runtime.clock labels) := by
  induction labels generalizing runtime recordings with
  | nil =>
      cases ran
      change Follows _ worker (recordings ++ [])
      rw [List.append_nil]
      exact follows
  | cons label labels ih =>
      obtain ⟨next, stepped, ran⟩ := (managedTunnelRuntime.exec_cons_iff).mp ran
      have rest := ih (follows.step sound stepped) (sound.step stepped) ran
      rw [recorded_cons stepped, ← List.append_assoc]
      exact rest

theorem records_of_exec {configuration : TunnelConfiguration} {labels : List RuntimeLabel}
    (ran : managedTunnelRuntime.exec { configuration := configuration } labels = some runtime) :
    (runtime.heap worker).Records (recorded worker {} labels) := by
  have start : Follows { configuration := configuration } worker [] :=
    ⟨default_records, fun _ => rfl⟩
  exact (start.exec (sound_start configuration) ran).records

end Runs

end ManagedTunnelRuntime

end DatagramTunneler
