import DatagramTunneler.Producer

/-! Whole runs of the producer: which datagrams go out, how they are paced and how a run
ends. The invariant counts the datagrams that went out; the number in the loop is that
count as the machine sees it. -/

set_option autoImplicit false

namespace DatagramTunneler

open Foundation

/-- The first datagrams of a producer. -/
def numberedDatagrams (options_ : ProducerOptions) (destination : SockAddrIn) (count : Nat) :
    List Publication :=
  (List.range count).map fun index =>
    let payload := DatagramProducer.payload options_ (UInt64.ofNat (index + 1))
    ⟨payload.length, payload, destination⟩

private theorem numberedDatagrams_succ (options_ : ProducerOptions) (destination : SockAddrIn) (count : Nat) :
    numberedDatagrams options_ destination (count + 1) = numberedDatagrams options_ destination count ++
      [⟨(DatagramProducer.payload options_ (UInt64.ofNat (count + 1))).length,
        DatagramProducer.payload options_ (UInt64.ofNat (count + 1)), destination⟩] := by
  simp [numberedDatagrams, List.range_succ]

/-- The number in the loop can pass the count. -/
def ProducerOptions.Countable (options_ : ProducerOptions) : Prop := options_.count.toNat + 1 < 2 ^ 64

instance (options_ : ProducerOptions) : Decidable options_.Countable :=
  inferInstanceAs (Decidable (_ < _))

/-- The loop would go on, were it not for a stop request. -/
def ProducerOptions.Wants (options_ : ProducerOptions) (number : UInt64) : Prop :=
  options_.count = 0 ∨ number ≤ options_.count

section Counting

variable {options_ : ProducerOptions} {count : Nat}

private theorem ProducerOptions.wants_of_countable (countable : options_.Countable)
    (within : options_.count ≠ 0 → count ≤ options_.count.toNat) :
    options_.Wants (UInt64.ofNat (count + 1)) ↔ (options_.count ≠ 0 → count + 1 ≤ options_.count.toNat) := by
  unfold Wants
  by_cases unlimited : options_.count = 0
  · simp [unlimited]
  · have bound := within unlimited
    have small : count + 1 < 2 ^ 64 := Nat.lt_of_le_of_lt (Nat.succ_le_succ bound) countable
    rw [UInt64.le_iff_toNat_le, UInt64.toNat_ofNat', Nat.mod_eq_of_lt small]
    simp [unlimited]

/-- The test in front of the sleep asks whether the next number is wanted too. -/
theorem ProducerOptions.sleeps_iff_of_countable (countable : options_.Countable)
    (within : options_.count ≠ 0 → count ≤ options_.count.toNat) :
    (options_.count = 0 ∨ UInt64.ofNat count < options_.count) ↔
      options_.Wants (UInt64.ofNat (count + 1)) := by
  rw [ProducerOptions.wants_of_countable countable within]
  by_cases unlimited : options_.count = 0
  · simp [unlimited]
  · have bound := within unlimited
    have small : count < 2 ^ 64 := Nat.lt_of_le_of_lt bound (Nat.lt_of_succ_lt countable)
    rw [UInt64.lt_iff_toNat_lt, UInt64.toNat_ofNat', Nat.mod_eq_of_lt small]
    exact or_iff_not_imp_left

end Counting

/-- The datagram with the number in the loop has gone out. -/
def ProducerPoint.hasSent : ProducerPoint → Bool
  | .test | .send => false
  | .record _ | .check | .sleep => true

namespace ProducerLoop

/-- What has been recorded, with what the loop is about to record. -/
def recordings (loop : ProducerLoop) : List Nat :=
  match loop.point with
  | .record bytes_sent => loop.recorded ++ [bytes_sent]
  | .test | .send | .check | .sleep => loop.recorded

/-- The sleeps so far, given where the loop stands: one for each datagram in front of the
next one, but none behind a datagram that was the last at the test in front of the sleep. -/
def Paced (options_ : ProducerOptions) (count : Nat) (loop : ProducerLoop) (sleeps : Nat) : Prop :=
  match loop.point with
  | .test => sleeps = count ∧ options_.Wants loop.number ∨
      sleeps + 1 = count ∧ (loop.stop_requested = true ∨ ¬options_.Wants loop.number)
  | .send => sleeps = count
  | .record _ | .check => sleeps + 1 = count
  | .sleep => sleeps + 1 = count ∧ (options_.count = 0 ∨ loop.number < options_.count)

/-- The loop after so many datagrams. -/
structure Produces (options_ : ProducerOptions) (destination : SockAddrIn) (count : Nat)
    (loop : ProducerLoop) : Prop where
  sent : loop.sent = numberedDatagrams options_ destination count
  sized : ∀ publication ∈ loop.sent, publication.length ≤ kMaxDatagramLength
  recorded : loop.recordings = loop.sent.map (·.length)
  within : options_.Countable → options_.count ≠ 0 → count ≤ options_.count.toNat
  paced : options_.Countable → ∃ sleeps,
    loop.slept = List.replicate sleeps options_.interval_ms.toNat ∧ Paced options_ count loop sleeps

/-- The loop while it runs: the number is that of the next datagram, or of the one just sent. -/
structure Producing (options_ : ProducerOptions) (destination : SockAddrIn) (count : Nat)
    (loop : ProducerLoop) : Prop extends Produces options_ destination count loop where
  running : loop.status = .running
  numbered : loop.number = UInt64.ofNat (if loop.point.hasSent then count else count + 1)
  wanted : loop.point = .send → options_.Wants loop.number

variable {options_ : ProducerOptions} {destination : SockAddrIn} {count : Nat} {loop next : ProducerLoop}

theorem Producing.start : Producing options_ destination 0 start where
  sent := rfl
  sized := by simp [ProducerLoop.start]
  recorded := rfl
  within := fun _ _ => Nat.zero_le _
  paced := fun countable => by
    have wanted := @ProducerOptions.wants_of_countable options_ 0 countable fun _ => Nat.zero_le _
    refine ⟨0, rfl, .inl ⟨rfl, wanted.mpr fun limited => ?_⟩⟩
    exact Nat.pos_of_ne_zero fun none => limited (UInt64.toNat_inj.mp none)
  running := rfl
  numbered := rfl
  wanted := fun point => by cases point

/-- What a step of a running loop can be. -/
inductive Steps (options_ : ProducerOptions) (destination : SockAddrIn) (loop : ProducerLoop) :
    ProducerEvent → ProducerLoop → Prop where
  | requested : Steps options_ destination loop .request_stop { loop with stop_requested := true }
  | passed : loop.point = .test → loop.stop_requested = false → options_.Wants loop.number →
      Steps options_ destination loop .test { loop with point := .send }
  | returned : loop.point = .test → loop.stop_requested = true ∨ ¬options_.Wants loop.number →
      Steps options_ destination loop .test { loop with status := .returned }
  | oversized (answer : SendtoAnswer) : loop.point = .send →
      kMaxDatagramLength < (DatagramProducer.payload options_ loop.number).length →
      Steps options_ destination loop (.sendto answer)
        (loop.fail (ascii "producer payload exceeds the maximum datagram length"))
  | unsent (answer : SendtoAnswer) : loop.point = .send →
      answer.bytes_sent ≠ (DatagramProducer.payload options_ loop.number).length →
      Steps options_ destination loop (.sendto answer)
        (loop.fail (DatagramProducer.failedCall "could not send dummy datagram" answer.error_code))
  | sent (answer : SendtoAnswer) : loop.point = .send →
      (DatagramProducer.payload options_ loop.number).length ≤ kMaxDatagramLength →
      answer.bytes_sent = (DatagramProducer.payload options_ loop.number).length →
      Steps options_ destination loop (.sendto answer)
        { loop with
          point := .record (DatagramProducer.payload options_ loop.number).length
          sent := loop.sent ++ [⟨(DatagramProducer.payload options_ loop.number).length,
            DatagramProducer.payload options_ loop.number, destination⟩] }
  | recorded (bytes_sent : Nat) : loop.point = .record bytes_sent →
      Steps options_ destination loop .record
        { loop with recorded := loop.recorded ++ [bytes_sent], point := .check }
  | sleeping : loop.point = .check → loop.stop_requested = false →
      (options_.count = 0 ∨ loop.number < options_.count) →
      Steps options_ destination loop .check { loop with point := .sleep }
  | finished : loop.point = .check →
      (loop.stop_requested = true ∨ ¬(options_.count = 0 ∨ loop.number < options_.count)) →
      Steps options_ destination loop .check loop.next
  | slept : loop.point = .sleep →
      Steps options_ destination loop .sleep
        { loop.next with slept := loop.slept ++ [options_.interval_ms.toNat] }

theorem step_cases {event : ProducerEvent}
    (stepped : ProducerLoop.step options_ destination loop event = some next) :
    loop.status = .running ∧ Steps options_ destination loop event next := by
  have running : loop.status = .running := by
    by_contra ended
    unfold ProducerLoop.step at stepped
    rw [if_pos ended] at stepped
    cases stepped
  refine ⟨running, ?_⟩
  unfold ProducerLoop.step at stepped
  rw [if_neg (not_not.mpr running)] at stepped
  split at stepped
  · cases stepped
    exact .requested
  · next point =>
      split_ifs at stepped with wanted
      · cases stepped
        exact .passed point (by simpa using wanted.1) wanted.2
      · cases stepped
        refine .returned point ?_
        rcases not_and_or.mp wanted with stopped | enough
        · exact .inl (by simpa using stopped)
        · exact .inr enough
  · next answer point =>
      cases stepped
      unfold ProducerLoop.sendto
      dsimp only
      split_ifs with long failed
      · exact .oversized answer point long
      · refine .unsent answer point fun same => ?_
        rw [same] at failed
        rcases failed with negative | other
        · omega
        · exact other (Int.toNat_natCast _)
      · have taken : answer.bytes_sent = (DatagramProducer.payload options_ loop.number).length := by
          omega
        have recorded : answer.bytes_sent.toNat = (DatagramProducer.payload options_ loop.number).length := by
          omega
        rw [recorded]
        exact .sent answer point (Nat.not_lt.mp long) taken
  · next bytes_sent point =>
      cases stepped
      exact .recorded bytes_sent point
  · next point =>
      split_ifs at stepped with sleeps
      · cases stepped
        exact .sleeping point (by simpa using sleeps.1) sleeps.2
      · cases stepped
        refine .finished point ?_
        rcases not_and_or.mp sleeps with stopped | enough
        · exact .inl (by simpa using stopped)
        · exact .inr enough
  · next point =>
      cases stepped
      exact .slept point
  · cases stepped

/-- How a run ends: with the count reached or on request, or with a datagram that is too long
or that the socket does not take whole. -/
inductive Ends (options_ : ProducerOptions) (count : Nat) (requested : Bool) : LoopStatus → Prop where
  | stopped : requested = true → Ends options_ count requested .returned
  | counted : ¬options_.Wants (UInt64.ofNat (count + 1)) → Ends options_ count requested .returned
  | oversized : kMaxDatagramLength < (DatagramProducer.payload options_ (UInt64.ofNat (count + 1))).length →
      Ends options_ count requested
        (.threw (ascii "producer payload exceeds the maximum datagram length"))
  | unsent (error_code : Nat) : Ends options_ count requested
        (.threw (DatagramProducer.failedCall "could not send dummy datagram" error_code))

/-- The loop when it has ended. A run that was left alone does not sleep behind its last
datagram. -/
structure Ended (options_ : ProducerOptions) (destination : SockAddrIn) (count : Nat)
    (loop : ProducerLoop) : Prop extends Produces options_ destination count loop where
  ends : Ends options_ count loop.stop_requested loop.status
  settled : loop.recorded = loop.recordings
  unslept : options_.Countable → loop.status = .returned → loop.stop_requested = false →
    loop.slept.length + 1 = count

/-! ## One step -/

private theorem Producing.number_ahead (producing : Producing options_ destination count loop)
    (ahead : loop.point.hasSent = false) : loop.number = UInt64.ofNat (count + 1) := by
  rw [producing.numbered, ahead]
  rfl

private theorem Producing.number_sent (producing : Producing options_ destination count loop)
    (behind : loop.point.hasSent = true) : loop.number = UInt64.ofNat count := by
  rw [producing.numbered, if_pos behind]

private theorem Producing.next_number (producing : Producing options_ destination count loop)
    (behind : loop.point.hasSent = true) : loop.next.number = UInt64.ofNat (count + 1) := by
  show loop.number + 1 = _
  rw [producing.number_sent behind, ← UInt64.ofNat_one, ← UInt64.ofNat_add]

private theorem Produces.atPoint (produces : Produces options_ destination count loop) {point : ProducerPoint}
    (here : loop.point = point) : Produces options_ destination count { loop with point := point } := by
  rw [← here]
  exact produces

theorem Producing.requested (producing : Producing options_ destination count loop) :
    Producing options_ destination count { loop with stop_requested := true } :=
  { producing with
    paced := fun countable => by
      obtain ⟨sleeps, slept, paced⟩ := producing.paced countable
      refine ⟨sleeps, slept, ?_⟩
      unfold Paced at paced ⊢
      cases point : loop.point with
      | test =>
          rw [point] at paced
          exact paced.imp id fun last => ⟨last.1, .inl rfl⟩
      | send | record _ | check | sleep =>
          rw [point] at paced
          exact paced }

theorem Producing.passed (producing : Producing options_ destination count loop)
    (point : loop.point = .test) (kept : loop.stop_requested = false) (wanted : options_.Wants loop.number) :
    Producing options_ destination count { loop with point := .send } :=
  { producing with
    recorded := (producing.toProduces.atPoint point).recorded
    paced := fun countable => by
      obtain ⟨sleeps, slept, due | last⟩ := (producing.toProduces.atPoint point).paced countable
      · exact ⟨sleeps, slept, due.1⟩
      · rcases last.2 with stopped | enough
        · rw [kept] at stopped
          cases stopped
        · exact absurd wanted enough
    numbered := producing.number_ahead (by rw [point]; rfl)
    wanted := fun _ => wanted }

theorem Producing.returned (producing : Producing options_ destination count loop)
    (point : loop.point = .test) (enough : loop.stop_requested = true ∨ ¬options_.Wants loop.number) :
    Ended options_ destination count { loop with status := .returned } :=
  { producing.toProduces with
    ends := by
      rcases enough with stopped | enough
      · exact .stopped stopped
      · rw [producing.number_ahead (by rw [point]; rfl)] at enough
        exact .counted enough
    settled := by simp only [recordings, point]
    unslept := fun countable _ kept => by
      have enough : ¬options_.Wants loop.number :=
        enough.resolve_left fun stopped => Bool.noConfusion (stopped.symm.trans kept)
      obtain ⟨sleeps, slept, due | last⟩ := (producing.toProduces.atPoint point).paced countable
      · exact absurd due.2 enough
      · rw [slept, List.length_replicate]
        exact last.1 }

theorem Producing.failed (producing : Producing options_ destination count loop) {message : Text}
    (point : loop.point = .send) (ends : Ends options_ count loop.stop_requested (.threw message)) :
    Ended options_ destination count (loop.fail message) :=
  { producing.toProduces with
    ends := ends
    settled := by simp only [recordings, fail, point]
    unslept := fun _ returned => by cases returned }

private theorem Producing.sent_one (producing : Producing options_ destination count loop)
    (point : loop.point = .send)
    (short : (DatagramProducer.payload options_ loop.number).length ≤ kMaxDatagramLength) :
    Producing options_ destination (count + 1)
      { loop with
        point := .record (DatagramProducer.payload options_ loop.number).length
        sent := loop.sent ++ [⟨(DatagramProducer.payload options_ loop.number).length,
          DatagramProducer.payload options_ loop.number, destination⟩] } := by
  have number := producing.number_ahead (by rw [point]; rfl)
  have wanted := producing.wanted point
  exact {
    sent := by simp only [numberedDatagrams_succ, producing.sent, number]
    sized := by
      intro publication inside
      rcases List.mem_append.mp inside with before | last
      · exact producing.sized publication before
      · rw [List.mem_singleton.mp last]
        exact short
    recorded := by
      have recorded := (producing.toProduces.atPoint point).recorded
      simp only [recordings] at recorded ⊢
      simp [recorded]
    within := fun countable limited => by
      rw [number, ProducerOptions.wants_of_countable countable (producing.within countable)] at wanted
      exact wanted limited
    paced := fun countable => by
      obtain ⟨sleeps, slept, paced⟩ := (producing.toProduces.atPoint point).paced countable
      exact ⟨sleeps, slept, congrArg (· + 1) paced⟩
    running := producing.running
    numbered := number
    wanted := fun point => by cases point }

private theorem Producing.recorded_one (producing : Producing options_ destination count loop) {bytes_sent : Nat}
    (point : loop.point = .record bytes_sent) :
    Producing options_ destination count
      { loop with recorded := loop.recorded ++ [bytes_sent], point := .check } :=
  { producing with
    recorded := (producing.toProduces.atPoint point).recorded
    paced := (producing.toProduces.atPoint point).paced
    numbered := producing.number_sent (by rw [point]; rfl)
    wanted := fun point => by cases point }

theorem Producing.sleeping (producing : Producing options_ destination count loop)
    (point : loop.point = .check) (more : options_.count = 0 ∨ loop.number < options_.count) :
    Producing options_ destination count { loop with point := .sleep } :=
  { producing with
    recorded := (producing.toProduces.atPoint point).recorded
    paced := fun countable => by
      obtain ⟨sleeps, slept, paced⟩ := (producing.toProduces.atPoint point).paced countable
      exact ⟨sleeps, slept, paced, more⟩
    numbered := producing.number_sent (by rw [point]; rfl)
    wanted := fun point => by cases point }

theorem Producing.finished (producing : Producing options_ destination count loop)
    (point : loop.point = .check)
    (last : loop.stop_requested = true ∨ ¬(options_.count = 0 ∨ loop.number < options_.count)) :
    Producing options_ destination count loop.next := by
  have following := producing.next_number (by rw [point]; rfl)
  exact { producing with
    recorded := (producing.toProduces.atPoint point).recorded
    paced := fun countable => by
      obtain ⟨sleeps, slept, paced⟩ := (producing.toProduces.atPoint point).paced countable
      rw [producing.number_sent (by rw [point]; rfl),
        ProducerOptions.sleeps_iff_of_countable countable (producing.within countable), ← following] at last
      exact ⟨sleeps, slept, .inr ⟨paced, last⟩⟩
    numbered := following
    wanted := fun point => by cases point }

private theorem Producing.slept_one (producing : Producing options_ destination count loop)
    (point : loop.point = .sleep) :
    Producing options_ destination count
      { loop.next with slept := loop.slept ++ [options_.interval_ms.toNat] } := by
  have following := producing.next_number (by rw [point]; rfl)
  exact { producing with
    recorded := (producing.toProduces.atPoint point).recorded
    paced := fun countable => by
      obtain ⟨sleeps, slept, counted, more⟩ := (producing.toProduces.atPoint point).paced countable
      rw [producing.number_sent (by rw [point]; rfl),
        ProducerOptions.sleeps_iff_of_countable countable (producing.within countable), ← following] at more
      refine ⟨sleeps + 1, ?_, .inl ⟨counted, more⟩⟩
      rw [List.replicate_succ', ← slept]
    numbered := following
    wanted := fun point => by cases point }

/-- A step sends one more datagram, none, or ends the run. -/
theorem Producing.step (producing : Producing options_ destination count loop) {event : ProducerEvent}
    (stepped : ProducerLoop.step options_ destination loop event = some next) :
    Producing options_ destination count next ∨ Producing options_ destination (count + 1) next ∨
      Ended options_ destination count next := by
  obtain ⟨running, steps⟩ := step_cases stepped
  cases steps with
  | requested => exact .inl producing.requested
  | passed point kept wanted => exact .inl (producing.passed point kept wanted)
  | returned point enough => exact .inr (.inr (producing.returned point enough))
  | oversized answer point long =>
      rw [producing.number_ahead (by rw [point]; rfl)] at long
      exact .inr (.inr (producing.failed point (.oversized long)))
  | unsent answer point other => exact .inr (.inr (producing.failed point (.unsent answer.error_code)))
  | sent answer point short taken => exact .inr (.inl (producing.sent_one point short))
  | recorded bytes_sent point => exact .inl (producing.recorded_one point)
  | sleeping point kept more => exact .inl (producing.sleeping point more)
  | finished point last => exact .inl (producing.finished point last)
  | slept point => exact .inl (producing.slept_one point)

/-! ## Whole runs -/

/-- What a run of so many datagrams has come to. -/
def Ran (options_ : ProducerOptions) (destination : SockAddrIn) (count : Nat) (loop : ProducerLoop) : Prop :=
  Producing options_ destination count loop ∨ Ended options_ destination count loop

private theorem Ends.not_running {requested : Bool} {status : LoopStatus}
    (ends : Ends options_ count requested status) : status ≠ .running := by
  cases ends <;> simp

theorem Ran.step (ran : Ran options_ destination count loop) {event : ProducerEvent}
    (stepped : ProducerLoop.step options_ destination loop event = some next) :
    ∃ count, Ran options_ destination count next := by
  rcases ran with producing | ended
  · rcases producing.step stepped with same | more | ended
    · exact ⟨_, .inl same⟩
    · exact ⟨_, .inl more⟩
    · exact ⟨_, .inr ended⟩
  · exact absurd (step_cases stepped).1 ended.ends.not_running

theorem Ran.exec {events : List ProducerEvent} (ran : Ran options_ destination count loop)
    (done : (runProducer options_ destination).exec loop events = some next) :
    ∃ count, Ran options_ destination count next := by
  refine @Machine.invariant_of_exec _ _ (runProducer options_ destination)
    (fun state => ∃ count, Ran options_ destination count state) ?_ _ _ _ done ⟨count, ran⟩
  intro state label onward ran stepped
  obtain ⟨count, ran⟩ := ran
  exact ran.step stepped

theorem Ran.toProduces (ran : Ran options_ destination count loop) :
    Produces options_ destination count loop :=
  ran.elim (·.toProduces) (·.toProduces)

theorem Ran.ended (ran : Ran options_ destination count loop) (settled : loop.status ≠ .running) :
    Ended options_ destination count loop :=
  ran.resolve_left fun producing => settled producing.running

private theorem stop_requested_step {event : ProducerEvent}
    (stepped : ProducerLoop.step options_ destination loop event = some next) :
    next.stop_requested = (loop.stop_requested || decide (event = .request_stop)) := by
  cases (step_cases stepped).2 <;> simp [fail, ProducerLoop.next]

theorem Paced.bounds {sleeps : Nat} (paced : Paced options_ count loop sleeps) :
    sleeps ≤ count ∧ count ≤ sleeps + 1 := by
  unfold Paced at paced
  split at paced <;> omega

end ProducerLoop

open ProducerLoop

variable {options_ : ProducerOptions} {destination : SockAddrIn}

namespace ProducerLoop

/-- The steps that are the loop's own. -/
def own (event : ProducerEvent) : Bool := event ≠ .request_stop

/-- How many steps of its own a bounded loop may still take. -/
def stepsLeft (options_ : ProducerOptions) (loop : ProducerLoop) : Nat :=
  if loop.status ≠ .running then 0
  else
    let left := options_.count.toNat + 1 - loop.number.toNat
    match loop.point with
    | .test => 5 * left + 1
    | .send => 5 * left
    | .record _ => 5 * left - 1
    | .check => 5 * left - 2
    | .sleep => 5 * left - 3

private theorem wants_iff {number : UInt64} (limited : options_.count ≠ 0) :
    options_.Wants number ↔ number.toNat ≤ options_.count.toNat := by
  unfold ProducerOptions.Wants
  rw [UInt64.le_iff_toNat_le]
  simp [limited]

private theorem Ran.stepsLeft_step (countable : options_.Countable) (limited : options_.count ≠ 0)
    {count : Nat} {loop next : ProducerLoop} (ran : Ran options_ destination count loop)
    {event : ProducerEvent} (stepped : ProducerLoop.step options_ destination loop event = some next) :
    stepsLeft options_ next + (if own event then 1 else 0) ≤ stepsLeft options_ loop := by
  obtain ⟨running, steps⟩ := step_cases stepped
  rcases ran with producing | ended
  · have bound := producing.within countable limited
    have small : count + 1 < 2 ^ 64 := Nat.lt_of_le_of_lt (Nat.succ_le_succ bound) countable
    have value : loop.number.toNat = if loop.point.hasSent then count else count + 1 := by
      rw [producing.numbered, UInt64.toNat_ofNat', Nat.mod_eq_of_lt]
      split_ifs <;> omega
    have following : loop.point.hasSent = true → loop.next.number.toNat = count + 1 := fun behind => by
      rw [producing.next_number behind, UInt64.toNat_ofNat', Nat.mod_eq_of_lt small]
    unfold stepsLeft
    rw [if_neg (not_not.mpr running)]
    cases steps with
    | requested => simp [running, own]
    | passed point kept wanted =>
        simp only [running, point, own]
        simp
    | returned point enough => simp [point, own]
    | oversized answer point long | unsent answer point other =>
        have wanted := (wants_iff limited).mp (producing.wanted point)
        simp only [fail, point, own]
        simp
        omega
    | sent answer point short taken =>
        have wanted := (wants_iff limited).mp (producing.wanted point)
        simp only [running, point, own]
        simp
        omega
    | recorded bytes_sent point =>
        rw [point] at value
        simp only [running, point, own, value, ProducerPoint.hasSent]
        simp
        omega
    | sleeping point kept more =>
        rw [point] at value
        simp only [running, point, own, value, ProducerPoint.hasSent]
        simp
        omega
    | finished point last =>
        rw [point] at value
        have following := following (by rw [point]; rfl)
        simp only [ProducerLoop.next] at following
        simp only [ProducerLoop.next, running, point, own, value, following, ProducerPoint.hasSent]
        simp
        omega
    | slept point =>
        rw [point] at value
        have following := following (by rw [point]; rfl)
        simp only [ProducerLoop.next] at following
        simp only [ProducerLoop.next, running, point, own, value, following, ProducerPoint.hasSent]
        simp
        omega
  · exact absurd running ended.ends.not_running

private theorem exists_own_step {loop : ProducerLoop} (running : loop.status = .running) :
    ∃ event, own event = true ∧ ((runProducer options_ destination).step loop event).isSome = true := by
  obtain ⟨number, point, stop_requested, sent, recorded, slept, status⟩ := loop
  cases running
  cases point with
  | test =>
      refine ⟨.test, rfl, ?_⟩
      simp only [runProducer, ProducerLoop.step]
      split_ifs <;> first | rfl | contradiction
  | send => exact ⟨.sendto ⟨0, 0⟩, rfl, rfl⟩
  | record bytes_sent => exact ⟨.record, rfl, rfl⟩
  | check =>
      refine ⟨.check, rfl, ?_⟩
      simp only [runProducer, ProducerLoop.step]
      split_ifs <;> first | rfl | contradiction
  | sleep => exact ⟨.sleep, rfl, rfl⟩

/-! ## After a stop request -/

/-- The loop is past the test in front of this point. -/
def due (point : ProducerPoint) (loop : ProducerLoop) : Nat :=
  if loop.status = .running ∧ loop.point = point then 1 else 0

def stepsToStop (loop : ProducerLoop) : Nat :=
  if loop.status ≠ .running then 0
  else match loop.point with
    | .test => 1
    | .send => 4
    | .record _ => 3
    | .check | .sleep => 2

private theorem due_send_sleep_le (loop : ProducerLoop) : due .send loop + due .sleep loop ≤ 1 := by
  unfold due
  split_ifs with sends sleeps
  · rw [sends.2] at sleeps
    cases sleeps.2
  all_goals decide

private theorem stepsToStop_le (loop : ProducerLoop) : stepsToStop loop ≤ 4 := by
  unfold stepsToStop
  split
  · decide
  · split <;> decide

section

variable {loop next : ProducerLoop} {event : ProducerEvent}

private theorem prefix_step (stepped : ProducerLoop.step options_ destination loop event = some next) :
    loop.sent <+: next.sent ∧ loop.slept <+: next.slept := by
  cases (step_cases stepped).2 with
  | sent answer point short taken => exact ⟨List.prefix_append _ _, List.prefix_rfl⟩
  | slept point => exact ⟨List.prefix_rfl, List.prefix_append _ _⟩
  | requested | passed | returned | oversized | unsent | recorded | sleeping | finished =>
      exact ⟨List.prefix_rfl, List.prefix_rfl⟩

private theorem stop_requested_kept (stopped : loop.stop_requested = true)
    (stepped : ProducerLoop.step options_ destination loop event = some next) :
    next.stop_requested = true := by
  rw [stop_requested_step stepped, stopped, Bool.true_or]

/-- Behind a stop request only what was due is still done. -/
theorem due_of_stopped (stopped : loop.stop_requested = true)
    (stepped : ProducerLoop.step options_ destination loop event = some next) :
    next.sent.length + next.slept.length + (due .send next + due .sleep next) ≤
      loop.sent.length + loop.slept.length + (due .send loop + due .sleep loop) := by
  obtain ⟨running, steps⟩ := step_cases stepped
  unfold due
  cases steps with
  | passed point kept wanted | sleeping point kept more =>
      rw [stopped] at kept
      cases kept
  | requested => exact Nat.le_refl _
  | returned point enough => simp
  | oversized answer point long | unsent answer point other => simp [fail]
  | sent answer point short taken =>
      simp only [running, point, List.length_append, List.length_singleton]
      simp
      omega
  | recorded bytes_sent point => simp
  | finished point last => simp [ProducerLoop.next]
  | slept point =>
      simp only [ProducerLoop.next, running, point, List.length_append, List.length_singleton]
      simp
      omega

private theorem stepsToStop_of_stopped (stopped : loop.stop_requested = true)
    (stepped : ProducerLoop.step options_ destination loop event = some next) :
    stepsToStop next + (if own event then 1 else 0) ≤ stepsToStop loop := by
  obtain ⟨running, steps⟩ := step_cases stepped
  unfold stepsToStop
  rw [if_neg (not_not.mpr running)]
  cases steps with
  | passed point kept wanted | sleeping point kept more =>
      rw [stopped] at kept
      cases kept
  | requested => simp [running, own]
  | returned point enough => simp [point, own]
  | oversized answer point long | unsent answer point other => simp [fail, point, own]
  | sent answer point short taken => simp [running, point, own]
  | recorded bytes_sent point => simp [running, point, own]
  | finished point last => simp [ProducerLoop.next, running, point, own]
  | slept point => simp [ProducerLoop.next, running, point, own]

end

end ProducerLoop

/-- A producer with a count that the number can pass ends: it takes no more than five steps
for each datagram and one more, and while it runs it can take the next one. -/
theorem runProducer_ends (countable : options_.Countable) (limited : options_.count ≠ 0)
    {events : List ProducerEvent} {loop : ProducerLoop}
    (ran : (runProducer options_ destination).exec start events = some loop) :
    events.countP own ≤ 5 * options_.count.toNat + 1 ∧
      (loop.status = .running → ∃ event, own event = true ∧
        ((runProducer options_ destination).step loop event).isSome = true) := by
  constructor
  · have bound := @Machine.countP_le_of_decreasing _ _ (runProducer options_ destination)
      (fun loop => ∃ count, Ran options_ destination count loop) own (stepsLeft options_)
      (fun ran stepped => ran.choose_spec.step stepped)
      (fun ran stepped => ran.choose_spec.stepsLeft_step countable limited stepped)
      _ _ _ ran ⟨0, .inl .start⟩
    have first : stepsLeft options_ start = 5 * options_.count.toNat + 1 := rfl
    omega
  · exact exists_own_step

/-- The producer of two datagrams can take its tenth step behind nine, and returns with it. -/
theorem runProducer_ends_sample : ∃ loop,
    (runProducer { payload_prefix := ascii "p", count := 2 } ⟨[], []⟩).exec start
      [.test, .sendto ⟨4, 0⟩, .record, .check, .sleep, .test, .sendto ⟨4, 0⟩, .record, .check] = some loop ∧
    [ProducerEvent.test, .sendto ⟨4, 0⟩, .record, .check, .sleep, .test, .sendto ⟨4, 0⟩, .record, .check].countP
      own ≤ 5 * 2 + 1 ∧
    (∃ event, own event = true ∧
      ((runProducer { payload_prefix := ascii "p", count := 2 } ⟨[], []⟩).step loop event).isSome = true) ∧
    ((runProducer { payload_prefix := ascii "p", count := 2 } ⟨[], []⟩).step loop .test).map (·.status) =
      some .returned := by
  have run : ((runProducer { payload_prefix := ascii "p", count := 2 } ⟨[], []⟩).exec start
      [.test, .sendto ⟨4, 0⟩, .record, .check, .sleep, .test, .sendto ⟨4, 0⟩, .record, .check]).map
      (fun loop => (loop.status, ((runProducer { payload_prefix := ascii "p", count := 2 } ⟨[], []⟩).step loop
        .test).map (·.status))) = some (.running, some .returned) := by decide
  obtain ⟨loop, ran, found⟩ := Option.map_eq_some_iff.mp run
  obtain ⟨bound, goesOn⟩ := runProducer_ends (by decide) (by decide) ran
  exact ⟨loop, ran, bound, goesOn (congrArg Prod.fst found), congrArg Prod.snd found⟩

/-- Behind a stop request at most one more datagram goes out or one more sleep is slept, the
one whose test was passed before, and the loop returns or fails within four steps of its own. -/
theorem runProducer_stops {after : List ProducerEvent} {reached loop : ProducerLoop}
    (stopped : (runProducer options_ destination).exec reached (.request_stop :: after) = some loop) :
    reached.sent <+: loop.sent ∧ reached.slept <+: loop.slept ∧
      loop.sent.length + loop.slept.length ≤ reached.sent.length + reached.slept.length + 1 ∧
      after.countP own ≤ 4 := by
  obtain ⟨requested, stepped, ran⟩ := (Machine.exec_cons_iff _).mp stopped
  have stepped : ProducerLoop.step options_ destination reached .request_stop = some requested := stepped
  obtain ⟨-, steps⟩ := step_cases stepped
  cases steps
  have kept := @Machine.invariant_of_exec _ _ (runProducer options_ destination)
    (fun loop => loop.stop_requested = true ∧ reached.sent <+: loop.sent ∧ reached.slept <+: loop.slept ∧
      loop.sent.length + loop.slept.length + (due .send loop + due .sleep loop) ≤
        reached.sent.length + reached.slept.length + (due .send reached + due .sleep reached))
    (fun held stepped => ⟨stop_requested_kept held.1 stepped,
      held.2.1.trans (prefix_step stepped).1, held.2.2.1.trans (prefix_step stepped).2,
      Nat.le_trans (due_of_stopped held.1 stepped) held.2.2.2⟩)
    _ _ _ ran ⟨rfl, List.prefix_rfl, List.prefix_rfl, Nat.le_refl _⟩
  have bound := @Machine.countP_le_of_decreasing _ _ (runProducer options_ destination)
    (fun loop => loop.stop_requested = true) own stepsToStop
    (fun held stepped => stop_requested_kept held stepped)
    (fun held stepped => stepsToStop_of_stopped held stepped) _ _ _ ran rfl
  have few := due_send_sleep_le reached
  have most := stepsToStop_le { reached with stop_requested := true }
  obtain ⟨-, sent, slept, counted⟩ := kept
  exact ⟨sent, slept, by omega, by omega⟩

/-- Stop is requested between the test in front of the sleep and the sleep. -/
theorem runProducer_stops_sample : ∃ reached loop,
    (runProducer { payload_prefix := ascii "p" } ⟨[], []⟩).exec start
      [.test, .sendto ⟨4, 0⟩, .record, .check] = some reached ∧
    (runProducer { payload_prefix := ascii "p" } ⟨[], []⟩).exec reached [.request_stop, .sleep, .test] =
      some loop ∧
    loop.status = .returned ∧ loop.slept = [1000] ∧
    loop.sent.length + loop.slept.length ≤ reached.sent.length + reached.slept.length + 1 := by
  have run : ((runProducer { payload_prefix := ascii "p" } ⟨[], []⟩).exec start
      ([.test, .sendto ⟨4, 0⟩, .record, .check] ++ [.request_stop, .sleep, .test])).map
      (fun loop => (loop.status, loop.slept)) = some (.returned, [1000]) := by decide
  obtain ⟨loop, ran, found⟩ := Option.map_eq_some_iff.mp run
  obtain ⟨reached, before, after⟩ := (Machine.exec_append_iff _).mp ran
  exact ⟨reached, loop, before, after, congrArg Prod.fst found, congrArg Prod.snd found,
    (runProducer_stops after).2.2.1⟩

end DatagramTunneler
