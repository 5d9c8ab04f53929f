import DatagramTunneler.Tunnel.Config
import Mathlib.Data.Nat.Find

/-! How the client waits for its TCP connection. Every pass of the wait reads the clock
twice, once to see whether the deadline has come and once for the time that is left. -/

set_option autoImplicit false

namespace DatagramTunneler

/-- In seconds. -/
def kTcpConnectTimeout : Int := 10

/-- In milliseconds. -/
def kTcpConnectPollInterval : Int := 250

structure Timeval where
  tv_sec : Int
  tv_usec : Int
  deriving DecidableEq, Repr

def Timeval.Valid (timeout : Timeval) : Prop :=
  0 ≤ timeout.tv_sec ∧ 0 ≤ timeout.tv_usec ∧ timeout.tv_usec < 1000000

instance (timeout : Timeval) : Decidable timeout.Valid := by
  unfold Timeval.Valid
  infer_instance

/-- What a call of `select` with a valid timeout reports. -/
inductive Selected where
  | timed_out
  | failed (error_code : Nat)
  /-- `getsockopt` fails or returns `SO_ERROR`; then the blocking mode may not come back. -/
  | ready (inspected : Except Nat Nat) (restored : Option Nat)

structure ErrorCodes where
  in_progress : Nat
  would_block : Nat
  already : Nat
  invalid : Nat

def isConnectInProgress (codes : ErrorCodes) (error_code : Nat) : Bool :=
  error_code == codes.in_progress || error_code == codes.would_block || error_code == codes.already

/-- All that the function finds. Readings of the clock are in nanoseconds, and a socket
call without an error has succeeded. -/
structure ConnectEnvironment where
  codes : ErrorCodes
  nonblocking : Option Nat := none
  connected : Option Nat
  restored : Option Nat := none
  readings : Nat → Int
  steady : ∀ reading, readings reading ≤ readings (reading + 1)
  stop_requested : Nat → Bool
  lasting : ∀ query, stop_requested query = true → stop_requested (query + 1) = true
  selects : Nat → Selected

namespace ConnectEnvironment

def deadline (found : ConnectEnvironment) : Int := found.readings 0 + kTcpConnectTimeout * 1000000000

/-- The clock when a pass of the wait is entered, and when the time left is computed. -/
def tested (found : ConnectEnvironment) (pass : Nat) : Int := found.readings (2 * pass + 1)

def measured (found : ConnectEnvironment) (pass : Nat) : Int := found.readings (2 * pass + 2)

def Enters (found : ConnectEnvironment) (pass : Nat) : Prop :=
  found.stop_requested pass = false ∧ found.tested pass < found.deadline

instance (found : ConnectEnvironment) (pass : Nat) : Decidable (found.Enters pass) := by
  unfold Enters
  infer_instance

def timeout (found : ConnectEnvironment) (pass : Nat) : Timeval :=
  let remaining := (found.deadline - found.measured pass).tdiv 1000
  let wait := min remaining (kTcpConnectPollInterval * 1000)
  ⟨wait.tdiv 1000000, wait.tmod 1000000⟩

def select (found : ConnectEnvironment) (pass : Nat) : Selected :=
  if (found.timeout pass).Valid then found.selects pass else .failed found.codes.invalid

end ConnectEnvironment

section Connect

variable (cfg : Config) (found : ConnectEnvironment)

def serverOf : Text :=
  c_str cfg.tcp_srv_ip_ ++ ascii ":" ++ to_string cfg.tcp_srv_port_.toNat

def cannotConnect (error_code : Nat) : Text := throwTunnelError
  (ascii "Unable to connect to server " ++ serverOf cfg ++ ascii ". Error " ++ to_string error_code ++
    ascii "!")

def cannotWait (error_code : Nat) : Text := throwTunnelError
  (ascii "Unable to wait for TCP connection to server " ++ serverOf cfg ++ ascii ". Error " ++
    to_string error_code ++ ascii "!")

def cannotInspect (error_code : Nat) : Text := throwTunnelError
  (ascii "Unable to inspect TCP connection to server " ++ serverOf cfg ++ ascii ". Error " ++
    to_string error_code ++ ascii "!")

def timedOut : Text := throwTunnelError
  (ascii "Timed out connecting to server " ++ serverOf cfg ++ ascii " after " ++
    to_string kTcpConnectTimeout.toNat ++ ascii " seconds.")

def restore : Option Nat → Except Text Bool
  | none => .ok true
  | some error_code => .error (throwTunnelError
      (ascii "Could not restore TCP socket blocking mode. Error " ++ to_string error_code))

def conclude (inspected : Except Nat Nat) (restored : Option Nat) : Except Text Bool :=
  match inspected with
  | .error error_code => .error (cannotInspect cfg error_code)
  | .ok socket_error =>
      if socket_error ≠ 0 then .error (cannotConnect cfg socket_error) else restore restored

/-- The wait from a pass on: the timeouts it gives to `select` and how the function ends,
unless there is no fuel for all of its passes. -/
def waitFrom : Nat → Nat → List Timeval × Option (Except Text Bool)
  | 0, _ => ([], none)
  | fuel + 1, pass =>
      if found.Enters pass then
        match found.select pass with
        | .timed_out =>
            let (timeouts, outcome) := waitFrom fuel (pass + 1)
            (found.timeout pass :: timeouts, outcome)
        | .failed error_code => ([found.timeout pass], some (.error (cannotWait cfg error_code)))
        | .ready inspected restored => ([found.timeout pass], some (conclude cfg inspected restored))
      else if found.stop_requested (pass + 1) then ([], some (.ok false))
      else ([], some (.error (timedOut cfg)))

def connectClientWithTimeout (fuel : Nat) : List Timeval × Option (Except Text Bool) :=
  match found.nonblocking with
  | some error_code => ([], some (.error (throwTunnelError
      (ascii "Could not set TCP socket to non-blocking mode. Error " ++ to_string error_code))))
  | none =>
      match found.connected with
      | none => ([], some (restore found.restored))
      | some error_code =>
          if !isConnectInProgress found.codes error_code then
            ([], some (.error (cannotConnect cfg error_code)))
          else waitFrom cfg found fuel 0

end Connect

/-! ## What the wait meets -/

namespace ConnectEnvironment

variable {found : ConnectEnvironment}

def Begins (found : ConnectEnvironment) : Prop :=
  found.nonblocking = none ∧
    ∃ error_code, found.connected = some error_code ∧ isConnectInProgress found.codes error_code = true

/-- Every pass so far is entered, and no `select` before the last one reports anything. -/
def Reaches (found : ConnectEnvironment) (pass : Nat) : Prop :=
  (∀ earlier < pass, found.Enters earlier ∧ found.selects earlier = .timed_out) ∧ found.Enters pass

structure Unanswered (found : ConnectEnvironment) : Prop where
  begins : found.Begins
  silent : ∀ pass, found.Reaches pass → ∀ inspected restored, found.selects pass ≠ .ready inspected restored
  unstopped : ∀ query, found.stop_requested query = false

/-- All timeouts are valid, and a wait without an answer times out. -/
structure WaitsValidly (cfg : Config) (found : ConnectEnvironment) : Prop where
  valid : ∀ fuel, ∀ timeout ∈ (connectClientWithTimeout cfg found fuel).1, timeout.Valid
  ends : found.Unanswered →
    ∃ fuel, (connectClientWithTimeout cfg found fuel).2 = some (.error (timedOut cfg))

/-- No pass that is entered before the deadline finds it a microsecond ago; without an answer,
the deadline comes and no `select` fails. -/
structure Prompt (found : ConnectEnvironment) : Prop where
  measured : found.Begins → ∀ pass, found.Reaches pass → found.measured pass < found.deadline + 1000
  comes : found.Unanswered → ∃ pass, found.deadline ≤ found.tested pass
  works : found.Unanswered → ∀ pass, found.Reaches pass → ∀ error_code,
    found.selects pass ≠ .failed error_code

end ConnectEnvironment

/-! ## The timeouts -/

private theorem tdiv_nonneg_iff (duration : Int) : 0 ≤ duration.tdiv 1000 ↔ -1000 < duration := by
  rcases Int.le_total 0 duration with left | late
  · rw [Int.tdiv_eq_ediv_of_nonneg left]
    omega
  · obtain ⟨past, rfl⟩ : ∃ past, duration = -past := ⟨-duration, by omega⟩
    rw [Int.neg_tdiv, Int.tdiv_eq_ediv_of_nonneg (by omega)]
    omega

private theorem valid_iff (wait : Int) :
    Timeval.Valid ⟨wait.tdiv 1000000, wait.tmod 1000000⟩ ↔ 0 ≤ wait := by
  unfold Timeval.Valid
  dsimp only
  constructor
  · intro valid
    have parts := Int.mul_tdiv_add_tmod wait 1000000
    omega
  · intro left
    rw [Int.tdiv_eq_ediv_of_nonneg left, Int.tmod_eq_emod_of_nonneg left]
    omega

namespace ConnectEnvironment

variable {cfg : Config} {found : ConnectEnvironment} {pass : Nat}

private theorem timeout_valid_iff (found : ConnectEnvironment) (pass : Nat) :
    (found.timeout pass).Valid ↔ found.measured pass < found.deadline + 1000 := by
  have left := tdiv_nonneg_iff (found.deadline - found.measured pass)
  unfold timeout kTcpConnectPollInterval
  dsimp only
  rw [valid_iff]
  omega

/-! ## Passes -/

/-- The pass is silent: it gives `select` a valid timeout and goes on. -/
def Silent (found : ConnectEnvironment) (pass : Nat) : Prop :=
  found.Enters pass ∧ found.selects pass = .timed_out ∧ found.measured pass < found.deadline + 1000

private theorem waitFrom_of_silent (silent : found.Silent pass) (fuel : Nat) :
    waitFrom cfg found (fuel + 1) pass =
      (found.timeout pass :: (waitFrom cfg found fuel (pass + 1)).1,
        (waitFrom cfg found fuel (pass + 1)).2) := by
  obtain ⟨enters, nothing, early⟩ := silent
  have selected : found.select pass = .timed_out := by
    rw [select, if_pos ((found.timeout_valid_iff pass).mpr early), nothing]
  rw [waitFrom, if_pos enters, selected]

private theorem waitFrom_of_failed (enters : found.Enters pass) {error_code : Nat}
    (failed : found.select pass = .failed error_code) (fuel : Nat) :
    (waitFrom cfg found (fuel + 1) pass).2 = some (.error (cannotWait cfg error_code)) := by
  rw [waitFrom, if_pos enters, failed]

private theorem waitFrom_of_late (late : found.deadline ≤ found.tested pass)
    (unstopped : found.stop_requested (pass + 1) = false) (fuel : Nat) :
    (waitFrom cfg found (fuel + 1) pass).2 = some (.error (timedOut cfg)) := by
  have left : ¬ found.Enters pass := fun enters => absurd enters.2 (Int.not_lt.mpr late)
  rw [waitFrom, if_neg left, unstopped]
  rfl

/-- A pass that is entered has its timeout, and the others are those of the next passes. -/
theorem mem_waitFrom (enters : found.Enters pass) (fuel : Nat) {timeout : Timeval} :
    timeout ∈ (waitFrom cfg found (fuel + 1) pass).1 ↔ timeout = found.timeout pass ∨
      (found.select pass = .timed_out ∧ timeout ∈ (waitFrom cfg found fuel (pass + 1)).1) := by
  rw [waitFrom, if_pos enters]
  cases found.select pass with
  | timed_out => simp
  | failed error_code => simp
  | ready inspected restored => simp

/-- Silent passes cost fuel, and nothing else happens in them. -/
theorem waitFrom_of_silent_passes (silent : ∀ earlier < pass, found.Silent earlier) (fuel : Nat) :
    waitFrom cfg found (pass + fuel) 0 =
      ((List.range pass).map found.timeout ++ (waitFrom cfg found fuel pass).1,
        (waitFrom cfg found fuel pass).2) := by
  induction pass generalizing fuel with
  | zero => rw [Nat.zero_add, List.range_zero, List.map_nil, List.nil_append]
  | succ pass ih =>
      have before := ih (fun earlier within => silent earlier (Nat.lt_succ_of_lt within)) (fuel + 1)
      rw [waitFrom_of_silent (silent pass (Nat.lt_succ_self pass))] at before
      rw [Nat.add_assoc, Nat.add_comm 1 fuel, before, List.range_succ, List.map_append,
        List.append_assoc]
      rfl

private theorem waitFrom_unfinished (silent : ∀ earlier < pass, found.Silent earlier) {fuel : Nat}
    (few : fuel ≤ pass) : (waitFrom cfg found fuel 0).2 = none := by
  have short := @waitFrom_of_silent_passes cfg found fuel
    (fun earlier within => silent earlier (Nat.lt_of_lt_of_le within few)) 0
  rw [Nat.add_zero] at short
  rw [short]
  rfl

private theorem connectClientWithTimeout_of_begins (begins : found.Begins) (fuel : Nat) :
    connectClientWithTimeout cfg found fuel = waitFrom cfg found fuel 0 := by
  obtain ⟨nonblocking, error_code, connected, progress⟩ := begins
  rw [connectClientWithTimeout, nonblocking, connected]
  dsimp only
  rw [progress]
  rfl

private theorem timeouts_of_not_begins (decided : ¬ found.Begins) (fuel : Nat) :
    (connectClientWithTimeout cfg found fuel).1 = [] := by
  unfold connectClientWithTimeout
  cases nonblocking : found.nonblocking with
  | some error_code => rfl
  | none =>
      cases connected : found.connected with
      | none => rfl
      | some error_code =>
          dsimp only
          split
          · rfl
          · next progress =>
              exact absurd ⟨nonblocking, error_code, connected, by simpa using progress⟩ decided

theorem Reaches.before (reaches : found.Reaches pass) {earlier : Nat} (within : earlier < pass) :
    found.Reaches earlier :=
  ⟨fun first before => reaches.1 first (Nat.lt_trans before within), (reaches.1 earlier within).1⟩

/-- Where no timeout so far is invalid, the passes before were silent. -/
theorem Reaches.silent (reaches : found.Reaches pass)
    (early : ∀ earlier < pass, found.Reaches earlier → found.measured earlier < found.deadline + 1000) :
    ∀ earlier < pass, found.Silent earlier := by
  intro earlier within
  obtain ⟨enters, nothing⟩ := reaches.1 earlier within
  exact ⟨enters, nothing, early earlier within (reaches.before within)⟩

/-! ## When the timeouts are valid -/

/-- Where no `select` fails by itself, all passes before the deadline go on. -/
theorem Unanswered.undecided (unanswered : found.Unanswered)
    (works : ∀ pass, found.Reaches pass → ∀ error_code, found.selects pass ≠ .failed error_code)
    {bound : Nat} (before : ∀ pass < bound, found.tested pass < found.deadline) :
    ∀ pass < bound, found.Reaches pass ∧ found.selects pass = .timed_out := by
  intro pass
  induction pass using Nat.strong_induction_on with
  | h pass ih =>
      intro within
      have reaches : found.Reaches pass := by
        refine ⟨?_, unanswered.unstopped pass, before pass within⟩
        intro earlier first
        obtain ⟨reached, silent⟩ := ih earlier first (Nat.lt_trans first within)
        exact ⟨reached.2, silent⟩
      refine ⟨reaches, ?_⟩
      cases selected : found.selects pass with
      | timed_out => rfl
      | failed error_code => exact absurd selected (works pass reaches error_code)
      | ready inspected restored => exact absurd selected (unanswered.silent pass reaches inspected restored)

theorem head?_throwTunnelError {front rest : Text} {byte : UInt8} (first : front.head? = some byte) :
    (throwTunnelError (front ++ rest)).head? = some byte := by
  rw [throwTunnelError, List.head?_take, if_neg (by decide), List.head?_append, first]
  rfl

private theorem cannotWait_ne_timedOut (cfg : Config) (error_code : Nat) :
    cannotWait cfg error_code ≠ timedOut cfg := by
  have wait : (cannotWait cfg error_code).head? = some (byteOf 'U') := by
    simp only [cannotWait, List.append_assoc]
    exact head?_throwTunnelError (by decide)
  have late : (timedOut cfg).head? = some (byteOf 'T') := by
    simp only [timedOut, List.append_assoc]
    exact head?_throwTunnelError (by decide)
  intro same
  rw [same, late] at wait
  revert wait
  decide

private theorem WaitsValidly.measured (valid : found.WaitsValidly cfg) (begins : found.Begins)
    (reaches : found.Reaches pass) : found.measured pass < found.deadline + 1000 := by
  induction pass using Nat.strong_induction_on with
  | h pass ih =>
      have silent := reaches.silent ih
      apply (found.timeout_valid_iff pass).mp
      apply valid.valid (pass + 1)
      rw [connectClientWithTimeout_of_begins begins, waitFrom_of_silent_passes silent]
      exact List.mem_append_right _ ((mem_waitFrom reaches.2 0).mpr (.inl rfl))

private theorem WaitsValidly.works (valid : found.WaitsValidly cfg) (unanswered : found.Unanswered)
    (reaches : found.Reaches pass) (error_code : Nat) : found.selects pass ≠ .failed error_code := by
  intro selected
  have silent := reaches.silent fun _ _ reached => valid.measured unanswered.begins reached
  have failed : found.select pass = .failed error_code := by
    rw [select, if_pos ((found.timeout_valid_iff pass).mpr (valid.measured unanswered.begins reaches)),
      selected]
  obtain ⟨fuel, outcome⟩ := valid.ends unanswered
  rw [connectClientWithTimeout_of_begins unanswered.begins] at outcome
  rcases Nat.lt_or_ge pass fuel with enough | few
  · obtain ⟨more, rfl⟩ := Nat.exists_eq_add_of_lt enough
    rw [Nat.add_assoc, waitFrom_of_silent_passes silent, waitFrom_of_failed reaches.2 failed] at outcome
    exact cannotWait_ne_timedOut cfg error_code (Except.error.inj (Option.some.inj outcome))
  · rw [waitFrom_unfinished silent few] at outcome
    cases outcome

theorem WaitsValidly.comes (valid : found.WaitsValidly cfg) (unanswered : found.Unanswered) :
    ∃ pass, found.deadline ≤ found.tested pass := by
  by_contra never
  have before : ∀ pass, found.tested pass < found.deadline := by
    intro pass
    exact Int.not_le.mp fun late => never ⟨pass, late⟩
  obtain ⟨fuel, outcome⟩ := valid.ends unanswered
  have silent : ∀ pass < fuel, found.Silent pass := by
    intro pass within
    obtain ⟨reaches, nothing⟩ := unanswered.undecided (fun _ reached => valid.works unanswered reached)
      (fun earlier _ => before earlier) pass within
    exact ⟨reaches.2, nothing, valid.measured unanswered.begins reaches⟩
  rw [connectClientWithTimeout_of_begins unanswered.begins,
    waitFrom_unfinished silent (Nat.le_refl fuel)] at outcome
  cases outcome

/-- From a pass that is come to silently, all timeouts are valid. -/
theorem Prompt.valid (prompt : found.Prompt) (begins : found.Begins)
    (passed : ∀ earlier < pass, found.Enters earlier ∧ found.selects earlier = .timed_out) (fuel : Nat) :
    ∀ timeout ∈ (waitFrom cfg found fuel pass).1, timeout.Valid := by
  induction fuel generalizing pass with
  | zero =>
      intro timeout inside
      cases inside
  | succ fuel ih =>
      intro timeout inside
      by_cases enters : found.Enters pass
      · have early := prompt.measured begins pass ⟨passed, enters⟩
        have here := (found.timeout_valid_iff pass).mpr early
        rcases (mem_waitFrom enters fuel).mp inside with rfl | ⟨silent, later⟩
        · exact here
        · rw [select, if_pos here] at silent
          refine ih ?_ timeout later
          intro earlier within
          rcases Nat.lt_succ_iff_lt_or_eq.mp within with before | rfl
          · exact passed earlier before
          · exact ⟨enters, silent⟩
      · rw [waitFrom, if_neg enters] at inside
        split at inside <;> cases inside

theorem Prompt.ends (prompt : found.Prompt) (unanswered : found.Unanswered) :
    ∃ fuel, (connectClientWithTimeout cfg found fuel).2 = some (.error (timedOut cfg)) := by
  have comes := prompt.comes unanswered
  have before : ∀ pass < Nat.find comes, found.tested pass < found.deadline := by
    intro pass within
    exact Int.not_le.mp (Nat.find_min comes within)
  have silent : ∀ pass < Nat.find comes, found.Silent pass := by
    intro pass within
    obtain ⟨reaches, nothing⟩ := unanswered.undecided (prompt.works unanswered) before pass within
    exact ⟨reaches.2, nothing, prompt.measured unanswered.begins pass reaches⟩
  refine ⟨Nat.find comes + 1, ?_⟩
  rw [connectClientWithTimeout_of_begins unanswered.begins, waitFrom_of_silent_passes silent]
  exact waitFrom_of_late (Nat.find_spec comes) (unanswered.unstopped _) 0

/-- All timeouts are valid, and a wait without an answer times out, exactly if no pass
reads a time before the deadline and then one that is a microsecond behind it, the deadline
comes, and no `select` fails by itself. -/
theorem waitsValidly_iff (cfg : Config) (found : ConnectEnvironment) :
    found.WaitsValidly cfg ↔ found.Prompt := by
  constructor
  · intro valid
    exact ⟨fun begins _ reaches => valid.measured begins reaches, valid.comes,
      fun unanswered _ reaches => valid.works unanswered reaches⟩
  · intro prompt
    refine ⟨?_, prompt.ends⟩
    intro fuel
    by_cases begins : found.Begins
    · rw [connectClientWithTimeout_of_begins begins]
      exact prompt.valid begins (fun _ none => absurd none (Nat.not_lt_zero _)) fuel
    · rw [timeouts_of_not_begins begins]
      intro timeout inside
      cases inside

/-- The first pass is entered a nanosecond before the deadline; the clock is read again
five microseconds behind it. -/
def overtaken : ConnectEnvironment where
  codes := ⟨115, 11, 114, 22⟩
  connected := some 115
  readings := fun reading => if reading = 0 then 0 else if reading = 1 then 9999999999 else 10000005000
  steady := by
    intro reading
    rw [if_neg (Nat.succ_ne_zero reading)]
    split_ifs <;> omega
  stop_requested := fun _ => false
  lasting := fun _ stopped => stopped
  selects := fun _ => .timed_out

theorem not_waitsValidly_overtaken : ¬ overtaken.WaitsValidly {} := by
  intro valid
  have timeouts : (connectClientWithTimeout {} overtaken 1).1 = [⟨0, -5⟩] := by decide
  have first := valid.valid 1 ⟨0, -5⟩ (timeouts ▸ List.mem_singleton_self _)
  revert first
  decide

end ConnectEnvironment

end DatagramTunneler
