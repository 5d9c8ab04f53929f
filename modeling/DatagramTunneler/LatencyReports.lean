import DatagramTunneler.Control.RuntimeMetrics

/-! The three places that report latencies: the metrics of a managed worker, the
statistics line of the compact output and the periodic log line of a server. -/

set_option autoImplicit false

namespace DatagramTunneler

open Foundation

/-- The figures of one report. -/
structure LatencyReport where
  average : ℚ
  p50 : Option ℚ
  p99 : Option ℚ
  maximum : Option ℚ
  count : Nat
  deriving DecidableEq

/-! ## The log of a server -/

structure LatencyStatistics where
  samples_ : List ℚ := []
  last_report_ : ℚ
  deriving DecidableEq

namespace LatencyStatistics

/-- In seconds. -/
def kLatencyReportInterval : ℚ := 5

def record (statistics : LatencyStatistics) (milliseconds : ℚ) : LatencyStatistics :=
  { statistics with samples_ := statistics.samples_ ++ [milliseconds] }

/-- `samples_[static_cast<std::size_t>(std::ceil(percentile_value * samples_.size())) - 1]`. -/
def percentile (samples : List ℚ) (percentile_value : ℚ) : Option ℚ :=
  samples[⌈percentile_value * (samples.length : ℚ)⌉.toNat - 1]?

/-- What `reportIfDue` logs, if anything. -/
def reportIfDue (compactOutputEnabled : Bool) (now : ℚ) (statistics : LatencyStatistics) :
    LatencyStatistics × Option LatencyReport :=
  if now - statistics.last_report_ < kLatencyReportInterval ∨ statistics.samples_ = [] then
    (statistics, none)
  else if compactOutputEnabled then
    ({ samples_ := [], last_report_ := now }, none)
  else
    let samples := statistics.samples_.insertionSort (· ≤ ·)
    ({ samples_ := [], last_report_ := now },
      some ⟨samples.sum / samples.length, percentile samples (1 / 2), percentile samples (99 / 100),
        samples.getLast?, samples.length⟩)

end LatencyStatistics

/-! ## The compact output -/

/-- The part of the compact output that the latencies go through. -/
structure CompactOutput where
  enabled_ : Bool := false
  latency_samples_ : List ℚ := []
  deriving DecidableEq

namespace CompactOutput

def kMaxLatencySamples : Nat := 1024

def recordLatencyValue (output : CompactOutput) (milliseconds : ℚ) : CompactOutput :=
  if output.enabled_ = false then output
  else
    let window := output.latency_samples_ ++ [milliseconds]
    { output with
      latency_samples_ := if kMaxLatencySamples < window.length then window.drop 1 else window }

/-- `latency[static_cast<std::size_t>(percentile_value * (latency.size() - 1))]`. -/
def percentile (latency : List ℚ) (percentile_value : ℚ) : Option ℚ :=
  latency[⌊percentile_value * ((latency.length - 1 : Nat) : ℚ)⌋.toNat]?

/-- The latencies that `statisticsLine` prints; `none` where it prints that there are none. -/
def statisticsLine (output : CompactOutput) : Option LatencyReport :=
  if output.latency_samples_ = [] then none
  else
    let latency := output.latency_samples_.insertionSort (· ≤ ·)
    some ⟨latency.sum / latency.length, percentile latency (1 / 2), percentile latency (99 / 100),
      latency.getLast?, latency.length⟩

end CompactOutput

/-! ## Ranks -/

section Ranks

variable (share size : Nat)

private theorem floorRank_eq_div :
    floorRank ((share : ℚ) / (100 : Nat)) size = share * (size - 1) / 100 := by
  have product : (share : ℚ) / (100 : Nat) * ((size - 1 : Nat) : ℚ) =
      ((share * (size - 1) : Nat) : ℚ) / (100 : Nat) := by
    push_cast
    ring
  rw [floorRank, product, Rat.floor_natCast_div_natCast]
  omega

private theorem ceilRank_eq_div :
    ceilRank ((share : ℚ) / (100 : Nat)) size = (share * size + 99) / 100 - 1 := by
  have product : (share : ℚ) / (100 : Nat) * (size : ℚ) =
      ((share * size : Nat) : ℚ) / (100 : Nat) := by
    push_cast
    ring
  rw [ceilRank, product, Rat.ceil_natCast_div_natCast]
  omega

variable {size}

private theorem floorRank_half (some_ : 0 < size) : floorRank (1 / 2) size = ceilRank (1 / 2) size := by
  have half : (1 / 2 : ℚ) = ((50 : Nat) : ℚ) / (100 : Nat) := by norm_num
  rw [half, floorRank_eq_div, ceilRank_eq_div]
  omega

/-- The two 99th percentiles are the same sample for every hundredth size and the size after it. -/
theorem floorRank_ninetyNine_iff (some_ : 0 < size) :
    floorRank (99 / 100) size = ceilRank (99 / 100) size ↔ size % 100 ≤ 1 := by
  have ninetyNine : (99 / 100 : ℚ) = ((99 : Nat) : ℚ) / (100 : Nat) := by norm_num
  have ceil : (99 * size + 99) / 100 = 99 * (size / 100) + size % 100 := by omega
  rw [ninetyNine, floorRank_eq_div, ceilRank_eq_div, ceil]
  by_cases small : size % 100 ≤ 1
  · have floor : 99 * (size - 1) / 100 = 99 * (size / 100) + size % 100 - 1 := by omega
    omega
  · have floor : 99 * (size - 1) / 100 = 99 * (size / 100) + size % 100 - 2 := by omega
    omega

end Ranks

/-! ## Percentiles of the same samples -/

/-- A share of the samples is at or below the reported value. -/
def Covers (share : ℚ) (samples : List ℚ) (value : Option ℚ) : Prop :=
  ∃ reported, value = some reported ∧
    share * (samples.length : ℚ) ≤ ((samples.countP (· ≤ reported) : Nat) : ℚ)

section Percentiles

variable {share : ℚ} {samples : List ℚ}

private theorem ceilPercentile_eq (samples : List ℚ) (share : ℚ) :
    LatencyStatistics.percentile samples share = samples[ceilRank share samples.length]? := rfl

private theorem covers_getElem_iff (positive : 0 < share) {index : Nat}
    (within : index < (sortedSamples samples).length) :
    Covers share samples (some (sortedSamples samples)[index]) ↔
      ceilRank share samples.length < samples.countP (· ≤ (sortedSamples samples)[index]) := by
  have some_ : 0 < samples.length := by
    rw [length_sortedSamples] at within
    omega
  rw [← share_le_iff positive some_]
  constructor
  · intro covers
    obtain ⟨reported, same, enough⟩ := covers
    cases same
    exact enough
  · intro enough
    exact ⟨_, rfl, enough⟩

private theorem covers_ceilPercentile (positive : 0 < share) (atMost : share ≤ 1) (some_ : samples ≠ []) :
    Covers share samples (LatencyStatistics.percentile (sortedSamples samples) share) := by
  have within : ceilRank share samples.length < (sortedSamples samples).length := by
    rw [length_sortedSamples]
    exact ceilRank_lt atMost (List.length_pos_iff.mpr some_)
  rw [ceilPercentile_eq, length_sortedSamples, List.getElem?_eq_getElem within,
    covers_getElem_iff positive within, ← (sortedSamples_perm samples).countP_eq,
    lt_countP_le_iff (sortedSamples_pairwise samples) within]

/-- Rounding down reports the same sample as rounding up exactly when the ranks are the same or
no sample has just the lower rank below it. -/
theorem percentile_eq_ceilPercentile_iff (positive : 0 < share) (atMost : share ≤ 1)
    (some_ : samples ≠ []) :
    percentile (sortedSamples samples) share =
        LatencyStatistics.percentile (sortedSamples samples) share ↔
      floorRank share samples.length = ceilRank share samples.length ∨
        ∀ sample ∈ samples, samples.countP (· < sample) ≠ ceilRank share samples.length := by
  have size := List.length_pos_iff.mpr some_
  have within : ceilRank share samples.length < (sortedSamples samples).length := by
    rw [length_sortedSamples]
    exact ceilRank_lt atMost size
  rw [percentile_eq, ceilPercentile_eq, length_sortedSamples]
  rcases floorRank_eq_or_succ positive atMost size with same | next
  · simp only [same, true_or]
  · have apart : floorRank share samples.length ≠ ceilRank share samples.length := by omega
    rw [← next] at within ⊢
    rw [List.getElem?_eq_getElem within, List.getElem?_eq_getElem (by omega), Option.some.injEq,
      getElem_eq_succ_iff (sortedSamples_pairwise samples) within]
    simp only [mem_sortedSamples, (sortedSamples_perm samples).countP_eq]
    constructor
    · exact .inr
    · intro either
      cases either with
      | inl same => omega
      | inr tied => exact tied

private theorem percentile_half (some_ : samples ≠ []) :
    percentile (sortedSamples samples) (1 / 2) =
      LatencyStatistics.percentile (sortedSamples samples) (1 / 2) :=
  (percentile_eq_ceilPercentile_iff (by norm_num) (by norm_num) some_).mpr
    (.inl (floorRank_half (List.length_pos_iff.mpr some_)))

end Percentiles

/-! ## The reports -/

private theorem recordLatencyValue_enabled (window : List ℚ) (milliseconds : ℚ) :
    CompactOutput.recordLatencyValue { enabled_ := true, latency_samples_ := window } milliseconds =
      { enabled_ := true
        latency_samples_ := if 1024 < (window ++ [milliseconds]).length
          then (window ++ [milliseconds]).drop 1 else window ++ [milliseconds] } := rfl

private theorem recordLatencyValue_foldl (samples : List ℚ) :
    samples.foldl CompactOutput.recordLatencyValue { enabled_ := true } =
      { enabled_ := true, latency_samples_ := samples.rtake 1024 } := by
  induction samples using List.reverseRecOn with
  | nil => rfl
  | append_singleton samples sample ih =>
      rw [List.foldl_append, ih, rtake_snoc]
      exact recordLatencyValue_enabled _ sample

private theorem record_foldl (samples : List ℚ) (statistics : LatencyStatistics) :
    samples.foldl LatencyStatistics.record statistics =
      { statistics with samples_ := statistics.samples_ ++ samples } := by
  induction samples generalizing statistics with
  | nil => rw [List.append_nil]; rfl
  | cons sample samples ih =>
      rw [List.foldl_cons, ih]
      simp [LatencyStatistics.record]

/-- Three reports of the same samples agree on the percentiles and mean what these say. -/
structure ReportsAgree (samples : List ℚ) (metrics : TunnelMetrics) (line logged : LatencyReport) :
    Prop where
  metrics_p50 : metrics.p50_latency_milliseconds = logged.p50
  metrics_p99 : metrics.p99_latency_milliseconds = logged.p99
  line_p50 : line.p50 = logged.p50
  line_p99 : line.p99 = logged.p99
  metrics_covers_p50 : Covers (1 / 2) samples metrics.p50_latency_milliseconds
  metrics_covers_p99 : Covers (99 / 100) samples metrics.p99_latency_milliseconds
  line_covers_p50 : Covers (1 / 2) samples line.p50
  line_covers_p99 : Covers (99 / 100) samples line.p99
  logged_covers_p50 : Covers (1 / 2) samples logged.p50
  logged_covers_p99 : Covers (99 / 100) samples logged.p99

/-- The three reports of up to 1024 samples agree exactly when their number is a multiple of a
hundred or one more, or no sample has all but the last hundredth below it. -/
theorem latencyReports_agree_iff (clock : Clock) (call : ControlCall) (config : Config)
    (recordings : List Recording) (started now : ℚ) (some_ : latencies recordings ≠ [])
    (short : (latencies recordings).length ≤ 1024)
    (due : LatencyStatistics.kLatencyReportInterval ≤ now - started) :
    let samples := latencies recordings
    let worker := (ManagedTunnelRuntime.makeWorker clock call config).recordDatagrams recordings
    let output := samples.foldl CompactOutput.recordLatencyValue { enabled_ := true }
    let statistics := samples.foldl LatencyStatistics.record { last_report_ := started }
    ∃ line logged, output.statisticsLine = some line ∧
      (statistics.reportIfDue false now).2 = some logged ∧
      (ReportsAgree samples worker.snapshot.metrics line logged ↔
        samples.length % 100 ≤ 1 ∨ ∀ sample ∈ samples,
          samples.countP (· < sample) ≠ ceilRank (99 / 100) samples.length) := by
  intro samples worker output statistics
  have size : 0 < samples.length := List.length_pos_iff.mpr some_
  have window : samples.rtake 1024 = samples := rtake_of_length_le short
  have described : LatencyMetrics samples worker.snapshot.metrics := by
    have records := recordDatagrams_records clock call config recordings
    exact window ▸ records.latency
  have line : output.statisticsLine = some ⟨(sortedSamples samples).sum / (sortedSamples samples).length,
      percentile (sortedSamples samples) (1 / 2), percentile (sortedSamples samples) (99 / 100),
      (sortedSamples samples).getLast?, (sortedSamples samples).length⟩ := by
    have shown : output = { enabled_ := true, latency_samples_ := samples } := by
      rw [show output = _ from recordLatencyValue_foldl samples, window]
    rw [shown, CompactOutput.statisticsLine, if_neg some_]
    rfl
  have logged : (statistics.reportIfDue false now).2 =
      some ⟨(sortedSamples samples).sum / (sortedSamples samples).length,
        LatencyStatistics.percentile (sortedSamples samples) (1 / 2),
        LatencyStatistics.percentile (sortedSamples samples) (99 / 100),
        (sortedSamples samples).getLast?, (sortedSamples samples).length⟩ := by
    have collected : statistics = { samples_ := samples, last_report_ := started } :=
      record_foldl samples { last_report_ := started }
    have open_ : ¬(now - started < LatencyStatistics.kLatencyReportInterval ∨ samples = []) :=
      not_or.mpr ⟨not_lt.mpr due, some_⟩
    rw [collected, LatencyStatistics.reportIfDue, if_neg open_]
    rfl
  refine ⟨_, _, line, logged, ?_⟩
  rw [← floorRank_ninetyNine_iff size,
    ← percentile_eq_ceilPercentile_iff (by norm_num) (by norm_num) some_]
  have half := percentile_half some_
  have coversHalf := @covers_ceilPercentile (1 / 2) samples (by norm_num) (by norm_num) some_
  have covers := @covers_ceilPercentile (99 / 100) samples (by norm_num) (by norm_num) some_
  constructor
  · intro agree
    exact agree.line_p99
  · intro same
    exact {
      metrics_p50 := described.p50.trans half
      metrics_p99 := described.p99.trans same
      line_p50 := half
      line_p99 := same
      metrics_covers_p50 := (described.p50.trans half) ▸ coversHalf
      metrics_covers_p99 := (described.p99.trans same) ▸ covers
      line_covers_p50 := half ▸ coversHalf
      line_covers_p99 := same ▸ covers
      logged_covers_p50 := coversHalf
      logged_covers_p99 := covers }

theorem latencyReports_agree_one :
    let recordings : List Recording := [({}, ⟨1, some 3⟩), ({}, ⟨1, none⟩)]
    let worker := (ManagedTunnelRuntime.makeWorker {} (.start (ascii "a")) {}).recordDatagrams recordings
    ∃ line logged, ([3].foldl CompactOutput.recordLatencyValue { enabled_ := true }).statisticsLine =
        some line ∧
      (([3].foldl LatencyStatistics.record { last_report_ := 0 }).reportIfDue false 5).2 =
        some logged ∧ ReportsAgree [3] worker.snapshot.metrics line logged := by
  obtain ⟨line, logged, shown, report, agree⟩ :=
    latencyReports_agree_iff {} (.start (ascii "a")) {} [({}, ⟨1, some 3⟩), ({}, ⟨1, none⟩)] 0 5
      (List.cons_ne_nil _ _) (by decide) (by norm_num [LatencyStatistics.kLatencyReportInterval])
  exact ⟨line, logged, shown, report, agree.mpr (.inl (by decide))⟩

def twoLatencies : List Recording := [({}, ⟨1, some 1⟩), ({}, ⟨1, some 2⟩)]

/-- Of two latencies the log reports the larger one as the 99th percentile and the metrics
the smaller one. -/
theorem twoLatencies_disagree :
    let samples := latencies twoLatencies
    let worker := (ManagedTunnelRuntime.makeWorker {} (.start (ascii "a")) {}).recordDatagrams
      twoLatencies
    let output := samples.foldl CompactOutput.recordLatencyValue { enabled_ := true }
    let statistics := samples.foldl LatencyStatistics.record { last_report_ := 0 }
    ¬∃ line logged, output.statisticsLine = some line ∧
      (statistics.reportIfDue false 5).2 = some logged ∧
      ReportsAgree samples worker.snapshot.metrics line logged := by
  intro samples worker output statistics agree
  obtain ⟨line, logged, -, report, agree⟩ := agree
  have smaller : worker.snapshot.metrics.p99_latency_milliseconds = some 1 := by decide +kernel
  have larger : (statistics.reportIfDue false 5).2.map (·.p99) = some (some 2) := by decide +kernel
  rw [report] at larger
  have same := agree.metrics_p99.symm.trans smaller
  rw [Option.map_some, same] at larger
  revert larger
  decide

end DatagramTunneler
