import DatagramTunneler.Foundation.Fallible
import DatagramTunneler.Foundation.Ring
import DatagramTunneler.LiveOutput

/-! The events of the compact output. Every call first changes the output, if it is
enabled, and then draws it; the events that it draws are the last ones appended. -/

set_option autoImplicit false

namespace DatagramTunneler

open Foundation

namespace OutputCall

/-- The event that a call appends to an output that is enabled. -/
def event? : OutputCall → Option Text
  | .logMessage level formatted => some (levelName level ++ ascii "  " ++ LiveOutput.messageOf formatted)
  | .logCompactMessage level formatted =>
      if level = .info then some (LiveOutput.messageOf formatted)
      else some (levelName level ++ ascii "  " ++ LiveOutput.messageOf formatted)
  | _ => none

def enables (call : OutputCall) (enabled : Bool) : Bool :=
  match call with
  | .configureCompactOutput requested _ ansi _ => enabled || (requested && ansi)
  | _ => enabled

def draws (call : OutputCall) (enabled : Bool) : Bool :=
  match call with
  | .configureCompactOutput requested _ ansi _ => requested && (enabled || ansi)
  | .configureVerboseOutput _ => false
  | _ => enabled

/-- The events of all calls, beginning with an output that is enabled or not. -/
def appended : Bool → List (OutputCall × Screen) → List Text
  | _, [] => []
  | enabled, label :: labels =>
      (if enabled then label.1.event?.toList else []) ++ appended (label.1.enables enabled) labels

end OutputCall

private theorem CompactOutput.recordLatencyValue_enabled_ (output : CompactOutput) (milliseconds : ℚ) :
    (output.recordLatencyValue milliseconds).enabled_ = output.enabled_ := by
  unfold recordLatencyValue
  split <;> rfl

namespace LiveOutput

variable {output next : LiveOutput} {history : List Text}

/-- The ring of the events holds the end of what was appended. -/
def HoldsEvents (output : LiveOutput) (history : List Text) : Prop :=
  RingHolds output.events_ output.next_event_ output.event_count_ history

theorem holdsEvents_start : HoldsEvents {} [] := ringHolds_nil _

theorem HoldsEvents.appendEvent (holds : output.HoldsEvents history) (event : Text) :
    ∃ next, output.appendEvent event = some next ∧ next.HoldsEvents (history ++ [event]) ∧
      next.enabled_ = output.enabled_ := by
  have inside : output.next_event_ < kEventLines := holds.next_lt (by decide)
  rw [LiveOutput.appendEvent, dif_pos inside]
  exact ⟨_, rfl, holds.push inside event, rfl⟩

theorem HoldsEvents.selected (holds : output.HoldsEvents history) {index : Nat}
    (inside : index < output.event_count_) :
    output.selected index = (history.rtake kEventLines)[index]? := holds.read inside

theorem HoldsEvents.count (holds : output.HoldsEvents history) :
    output.event_count_ = (history.rtake kEventLines).length := by
  rw [holds.filled, List.rtake, List.length_drop]
  omega

private theorem filter_range_lt {count bound : Nat} (within : count ≤ bound) :
    (List.range bound).filter (· < count) = List.range count := by
  obtain ⟨more, rfl⟩ := Nat.exists_eq_add_of_le within
  have front : (List.range count).filter (· < count) = List.range count := by
    rw [List.filter_eq_self]
    intro index inside
    simpa using inside
  have back : ((List.range more).map (count + ·)).filter (· < count) = [] := by
    rw [List.filter_eq_nil_iff]
    intro index inside
    obtain ⟨offset, -, rfl⟩ := List.mem_map.mp inside
    simp
  rw [List.range_add, List.filter_append, front, back, List.append_nil]

theorem HoldsEvents.shownEvents (holds : output.HoldsEvents history) :
    output.shownEvents = some (history.rtake kEventLines) := by
  have few : output.event_count_ ≤ kEventLines := by
    rw [holds.filled]
    exact Nat.min_le_right _ _
  rw [LiveOutput.shownEvents, filter_range_lt few, holds.count]
  apply mapM_range
  intro index inside
  exact holds.selected (holds.count ▸ inside)

/-! ## Drawing -/

private theorem statisticsLine_isSome (output : LiveOutput) (screen : Screen) :
    (output.statisticsLine screen).isSome = true := by
  unfold LiveOutput.statisticsLine
  cases reported : output.toCompactOutput.statisticsLine with
  | none =>
      dsimp only
      split <;> rfl
  | some report =>
      rw [CompactOutput.statisticsLine] at reported
      split_ifs at reported with empty
      cases reported
      obtain ⟨_, p50⟩ := @percentile_eq_getElem output.latency_samples_ (1 / 2) (by norm_num) empty
      obtain ⟨_, p99⟩ := @percentile_eq_getElem output.latency_samples_ (99 / 100) (by norm_num) empty
      have largest := List.getLast?_eq_some_getLast (sortedSamples_ne_nil empty)
      have first : CompactOutput.percentile (output.latency_samples_.insertionSort (· ≤ ·)) (1 / 2) =
        some _ := p50
      have second : CompactOutput.percentile (output.latency_samples_.insertionSort (· ≤ ·)) (99 / 100) =
        some _ := p99
      have third : (output.latency_samples_.insertionSort (· ≤ ·)).getLast? = some _ := largest
      simp only [first, second, third, bind, Option.bind]
      split <;> rfl

def rowOf (events : List Text) (columns index : Nat) : Text :=
  (events[index]?.map fun event => c_str (fitTerminalLine event columns)).getD []

theorem HoldsEvents.eventRow (holds : output.HoldsEvents history) (columns index : Nat) :
    output.eventRow columns index = some (rowOf (history.rtake kEventLines) columns index) := by
  unfold LiveOutput.eventRow rowOf
  split
  · next inside =>
      have within : index < (history.rtake kEventLines).length := holds.count ▸ inside
      rw [holds.selected inside, List.getElem?_eq_getElem within]
      rfl
  · next outside =>
      rw [List.getElem?_eq_none (holds.count ▸ Nat.le_of_not_lt outside)]
      rfl

theorem HoldsEvents.render (holds : output.HoldsEvents history) (screen : Screen) :
    ∃ statistics, output.statisticsLine screen = some statistics ∧
      output.render screen = some (.frame screen.columns (ascii "\x1b[6A\r\x1b[2K" ++
        c_str (fitTerminalLine statistics screen.columns) ++ ascii "\n" ++
        ((List.range kEventLines).map (rowOf (history.rtake kEventLines) screen.columns)).flatMap
          fun row => ascii "\r\x1b[2K" ++ row ++ ascii "\n")) := by
  obtain ⟨statistics, line⟩ := Option.isSome_iff_exists.mp (output.statisticsLine_isSome screen)
  have rows : (List.range kEventLines).mapM (output.eventRow screen.columns) =
      some ((List.range kEventLines).map (rowOf (history.rtake kEventLines) screen.columns)) := by
    have each : output.eventRow screen.columns =
        fun index => some (rowOf (history.rtake kEventLines) screen.columns index) :=
      funext fun index => holds.eventRow screen.columns index
    rw [each]
    rfl
  refine ⟨statistics, line, ?_⟩
  rw [LiveOutput.render, line, Option.bind_eq_bind, Option.bind_some, rows]
  rfl

/-! ## Calls -/

/-- What a call does: it draws the new output, below what opens the display, or it
prints at most a line, and that only to an output that is not enabled. -/
inductive Called (output : LiveOutput) (screen : Screen) (call : OutputCall) :
    LiveOutput → List Printed → Prop
  | drawn {next : LiveOutput} {bytes : Text} : call.draws output.enabled_ = true →
      next.render screen = some (.frame screen.columns bytes) →
      Called output screen call next
        ((if output.enabled_ then [] else [.text (ascii "\x1b[?25l\n\n\n\n\n\n")]) ++
          [.frame screen.columns bytes])
  | undrawn {next : LiveOutput} {lines : List Text} : call.draws output.enabled_ = false →
      (output.enabled_ = true → lines = []) → Called output screen call next (lines.map .text)

section Calls

variable {screen : Screen} {call : OutputCall}

/-- What `HoldsEvents.acts` says of a call with these results. -/
structure Acts (output : LiveOutput) (screen : Screen) (call : OutputCall) (history : List Text)
    (next : LiveOutput) (printed : List Printed) : Prop where
  called : Called output screen call next printed
  holds : next.HoldsEvents (history ++ if output.enabled_ then call.event?.toList else [])
  enabled : next.enabled_ = call.enables output.enabled_

private theorem HoldsEvents.eventless (holds : output.HoldsEvents history) {enabled : Bool}
    (eventless : enabled = true → call.event? = none) :
    output.HoldsEvents (history ++ if enabled then call.event?.toList else []) := by
  split
  · next enabled =>
      rw [eventless enabled, Option.toList_none, List.append_nil]
      exact holds
  · rw [List.append_nil]
    exact holds

/-- A call that changes an enabled output, but for its flag, and draws it. -/
theorem HoldsEvents.redraw (holds : next.HoldsEvents (history ++ call.event?.toList))
    (same : next.enabled_ = output.enabled_) (enabled : output.enabled_ = true)
    (draws : call.draws output.enabled_ = output.enabled_)
    (enables : call.enables output.enabled_ = output.enabled_) :
    ∃ printed, next.redraw screen = some (next, printed) ∧ Acts output screen call history next printed := by
  obtain ⟨_, _, rendered⟩ := holds.render screen
  have called := Called.drawn (draws.trans enabled) rendered
  rw [if_pos enabled] at called
  refine ⟨_, by rw [LiveOutput.redraw, rendered]; rfl, called, ?_, same.trans enables.symm⟩
  rw [if_pos enabled]
  exact holds

theorem HoldsEvents.showEvent (holds : output.HoldsEvents history) (enabled : output.enabled_ = true)
    {event : Text} (tells : call.event? = some event)
    (draws : call.draws output.enabled_ = output.enabled_)
    (enables : call.enables output.enabled_ = output.enabled_) :
    ∃ next printed, output.showEvent screen event = some (next, printed) ∧
      Acts output screen call history next printed := by
  obtain ⟨next, appended, held, same⟩ := holds.appendEvent event
  have told : next.HoldsEvents (history ++ call.event?.toList) := by
    rw [tells]
    exact held
  obtain ⟨printed, redrawn, acts⟩ := told.redraw same enabled draws enables
  exact ⟨next, printed, by rw [LiveOutput.showEvent, appended]; exact redrawn, acts⟩

private theorem HoldsEvents.ignored (holds : output.HoldsEvents history) (disabled : output.enabled_ = false)
    (draws : call.draws output.enabled_ = output.enabled_)
    (enables : call.enables output.enabled_ = output.enabled_) (lines : List Text) :
    Acts output screen call history output (lines.map .text) where
  called := .undrawn (draws.trans disabled) fun enabled => by rw [disabled] at enabled; cases enabled
  holds := holds.eventless fun enabled => by rw [disabled] at enabled; cases enabled
  enabled := enables.symm

theorem HoldsEvents.configure (holds : output.HoldsEvents history) (requested : Bool) (context : Text)
    (ansi : Bool) (started : ℚ) :
    ∃ next printed, output.configure screen requested context ansi started = some (next, printed) ∧
      Acts output screen (.configureCompactOutput requested context ansi started) history next
        printed := by
  have unrequested : Acts output screen (.configureCompactOutput false context ansi started) history
      output [] := by
    refine ⟨@Called.undrawn output screen _ output [] rfl (fun _ => rfl), holds.eventless fun _ => rfl, ?_⟩
    simp [OutputCall.enables]
  -- Whatever changes, the ring does not, and the new output is drawn.
  have draws : ∀ next : LiveOutput, next.HoldsEvents history → next.enabled_ = true →
      output.enabled_ = true ∨ ansi = true → ∃ frame, next.render screen = some frame ∧
        Acts output screen (.configureCompactOutput true context ansi started) history next
          ((if output.enabled_ then [] else [.text (ascii "\x1b[?25l\n\n\n\n\n\n")]) ++ [frame]) := by
    intro next held enabled opens
    obtain ⟨_, _, rendered⟩ := held.render screen
    refine ⟨_, rendered, .drawn ?_ rendered, ?_, ?_⟩
    · simpa [OutputCall.draws] using opens
    · exact held.eventless fun _ => rfl
    · simpa [OutputCall.enables, enabled] using opens
  unfold LiveOutput.configure
  cases requested with
  | false => exact ⟨_, _, rfl, unrequested⟩
  | true =>
      cases enabled : output.enabled_ with
      | true =>
          obtain ⟨frame, rendered, acts⟩ := draws
            (if context.isEmpty then output else { output with context_ := context })
            (by split <;> exact holds) (by split <;> exact enabled) (.inl enabled)
          simp only [Bool.not_true, Bool.false_and, Bool.or_false, Bool.false_eq_true, if_false, if_true,
            rendered]
          rw [if_pos enabled] at acts
          exact ⟨_, _, rfl, acts⟩
      | false =>
          cases ansi with
          | false =>
              refine ⟨_, _, rfl, @Called.undrawn output screen _ output [] ?_ (fun _ => rfl),
                holds.eventless fun _ => rfl, ?_⟩
              · rw [enabled]
                rfl
              · rw [enabled]
                rfl
          | true =>
              obtain ⟨frame, rendered, acts⟩ := draws
                (if context.isEmpty then { output with enabled_ := true, started_at_ := started }
                  else { output with enabled_ := true, started_at_ := started, context_ := context })
                (by split <;> exact holds) (by split <;> rfl) (.inr rfl)
              rw [enabled] at acts
              simp only [Bool.not_true, Bool.and_false, Bool.or_false, Bool.false_eq_true, if_false]
              rw [rendered]
              exact ⟨_, _, rfl, acts⟩

/-- Every call returns; it appends its event and leaves the rest of the ring alone. -/
theorem HoldsEvents.acts (holds : output.HoldsEvents history) (screen : Screen) (call : OutputCall) :
    ∃ next printed, output.call screen call = some (next, printed) ∧
      Acts output screen call history next printed := by
  cases call with
  | configureCompactOutput requested context ansi started =>
      exact holds.configure requested context ansi started
  | configureVerboseOutput requested =>
      refine ⟨_, [], rfl, .undrawn rfl (fun _ => rfl), ?_, rfl⟩
      exact @HoldsEvents.eventless { output with verbose_ := requested } _ _ holds _ fun _ => rfl
  | logMessage level formatted =>
      simp only [LiveOutput.call, log]
      cases enabled : output.enabled_ with
      | true => exact holds.showEvent enabled rfl rfl rfl
      | false => exact ⟨_, _, rfl, holds.ignored enabled rfl rfl [_]⟩
  | logCompactMessage level formatted =>
      simp only [LiveOutput.call, logCompact]
      cases enabled : output.enabled_ with
      | true =>
          simp only [Bool.not_true, Bool.false_eq_true, if_false]
          split
          · next info => exact holds.showEvent enabled (by simp [OutputCall.event?, info]) rfl rfl
          · next other => exact holds.showEvent enabled (by simp [OutputCall.event?, other]) rfl rfl
      | false => exact ⟨_, _, rfl, holds.ignored enabled rfl rfl []⟩
  | recordDatagram bytes =>
      simp only [LiveOutput.call, record]
      cases enabled : output.enabled_ with
      | true =>
          have held : HoldsEvents { output with
            datagram_count_ := output.datagram_count_ + 1
            byte_count_ := output.byte_count_ + bytes } (history ++ []) := by
            rw [List.append_nil]
            exact holds
          exact ⟨_, @HoldsEvents.redraw output _ _ screen (.recordDatagram bytes) held rfl enabled rfl rfl⟩
      | false => exact ⟨_, _, rfl, holds.ignored enabled rfl rfl []⟩
  | recordLatency milliseconds =>
      simp only [LiveOutput.call, recordLatency]
      cases enabled : output.enabled_ with
      | true =>
          have held : HoldsEvents { output with
            toCompactOutput := output.toCompactOutput.recordLatencyValue milliseconds } (history ++ []) := by
            rw [List.append_nil]
            exact holds
          exact ⟨_, @HoldsEvents.redraw output _ _ screen (.recordLatency milliseconds) held
            (output.toCompactOutput.recordLatencyValue_enabled_ milliseconds) enabled rfl rfl⟩
      | false => exact ⟨_, _, rfl, holds.ignored enabled rfl rfl []⟩

end Calls

end LiveOutput

/-! ## Runs -/

namespace Display

open OutputCall

variable {display : Display} {history : List Text}

theorem foldl_print_output (printed : List Printed) (display : Display) :
    (printed.foldl print display).output = display.output := by
  induction printed generalizing display with
  | nil => rfl
  | cons head printed ih =>
      rw [List.foldl_cons, ih]
      cases head <;> rfl

private theorem step_of_holds (holds : display.output.HoldsEvents history) (call : OutputCall) (screen : Screen) :
    ∃ next, display.step (call, screen) = some next ∧
      next.output.HoldsEvents (history ++ if display.output.enabled_ then call.event?.toList else []) ∧
      next.output.enabled_ = call.enables display.output.enabled_ := by
  obtain ⟨output, printed, called, acts⟩ := holds.acts screen call
  refine ⟨_, by rw [step, called]; rfl, ?_, ?_⟩
  · rw [foldl_print_output]
    exact acts.holds
  · rw [foldl_print_output]
    exact acts.enabled

theorem exec_of_holds (holds : display.output.HoldsEvents history)
    (labels : List (OutputCall × Screen)) :
    ∃ final, liveDisplay.exec display labels = some final ∧
      final.output.HoldsEvents (history ++ appended display.output.enabled_ labels) := by
  induction labels generalizing display history with
  | nil => exact ⟨display, rfl, by rwa [appended, List.append_nil]⟩
  | cons label labels ih =>
      obtain ⟨next, stepped, held, enabled⟩ := step_of_holds holds label.1 label.2
      obtain ⟨final, ran, rest⟩ := ih held
      refine ⟨final, (Machine.exec_cons_iff _).mpr ⟨next, stepped, ran⟩, ?_⟩
      rw [List.append_assoc, enabled] at rest
      exact rest

/-- Whatever is called, no array is read or written beyond its end, and the rows show
the last events appended so far, the oldest one first. -/
theorem shownEvents_last (labels : List (OutputCall × Screen)) :
    ∃ display events, liveDisplay.exec {} labels = some display ∧
      display.output.next_event_ < kEventLines ∧ display.output.shownEvents = some events ∧
      events <:+ appended false labels ∧
      events.length = min (appended false labels).length kEventLines ∧
      ∀ columns index, display.output.eventRow columns index =
        some (LiveOutput.rowOf events columns index) := by
  obtain ⟨display, ran, holds⟩ := @exec_of_holds {} [] LiveOutput.holdsEvents_start labels
  have held : display.output.HoldsEvents (appended false labels) := holds
  refine ⟨display, _, ran, held.next_lt (by decide), held.shownEvents, List.drop_suffix _ _, ?_,
    held.eventRow⟩
  rw [← held.count, held.filled]

end Display

end DatagramTunneler
