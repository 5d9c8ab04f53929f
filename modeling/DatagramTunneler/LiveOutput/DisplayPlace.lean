import DatagramTunneler.LiveOutput.EventRing

/-! Whether the compact display stays where it is. The next frame begins six rows above
the end of the last one, so every frame has to be six rows high. -/

set_option autoImplicit false

namespace DatagramTunneler

open Foundation

/-! ## What is visible -/

/-- How far a terminal is in an escape sequence. -/
inductive EscapeMode where
  | plain
  | escape
  | sequence
  deriving DecidableEq, Repr

/-- The characters a terminal shows of these bytes: no control characters, no escape
sequences, and one for all bytes of a character in UTF-8. -/
def visibleFrom : EscapeMode → Text → Nat
  | _, [] => 0
  | .plain, byte :: rest =>
      if byte = 0x1b then visibleFrom .escape rest
      else if byte < 0x20 ∨ byte = 0x7f ∨ (0x80 ≤ byte ∧ byte < 0xc0) then visibleFrom .plain rest
      else visibleFrom .plain rest + 1
  | .escape, byte :: rest =>
      if byte = byteOf '[' then visibleFrom .sequence rest else visibleFrom .plain rest
  | .sequence, byte :: rest =>
      if 0x40 ≤ byte ∧ byte < 0x7f then visibleFrom .plain rest else visibleFrom .sequence rest

def visible (line : Text) : Nat := visibleFrom .plain line

private theorem visibleFrom_le_length (mode : EscapeMode) (line : Text) : visibleFrom mode line ≤ line.length := by
  induction line generalizing mode with
  | nil => cases mode <;> exact Nat.le_refl _
  | cons byte line ih =>
      have plain := ih .plain
      have escape := ih .escape
      have sequence := ih .sequence
      cases mode <;> simp only [visibleFrom, List.length_cons] <;> split_ifs <;> omega

/-! ## Lines that fit -/

/-- How many bytes of a line of this size are kept. -/
def keptLength (size columns : Nat) : Nat :=
  let maximum := if 1 < columns then columns - 1 else 1
  if size ≤ maximum then size else if maximum ≤ 3 then maximum else maximum - 3

section Lines

variable {line : Text} {columns : Nat}

private theorem length_fitTerminalLine (line : Text) (columns : Nat) :
    (fitTerminalLine line columns).length ≤ max (columns - 1) 1 := by
  have dots : (ascii "...").length = 3 := by decide
  unfold fitTerminalLine
  have room : (if 1 < columns then columns - 1 else 1) = max (columns - 1) 1 := by
    split <;> omega
  rw [room]
  dsimp only
  split
  · next fits => exact fits
  · split
    · exact List.length_take_le _ _
    · rw [List.length_append, List.length_take, dots]
      omega

private theorem fitTerminalLine_eq (line : Text) (columns : Nat) :
    ∃ dots, fitTerminalLine line columns = line.take (keptLength line.length columns) ++ dots ∧
      byteOf '\n' ∉ dots := by
  unfold fitTerminalLine keptLength
  generalize (if 1 < columns then columns - 1 else 1) = maximum
  dsimp only
  by_cases fits : line.length ≤ maximum
  · rw [if_pos fits, if_pos fits, List.take_length]
    exact ⟨[], (List.append_nil _).symm, List.not_mem_nil⟩
  · rw [if_neg fits, if_neg fits]
    by_cases narrow : maximum ≤ 3
    · rw [if_pos narrow, if_pos narrow]
      exact ⟨[], (List.append_nil _).symm, List.not_mem_nil⟩
    · rw [if_neg narrow, if_neg narrow]
      exact ⟨ascii "...", rfl, by decide⟩

private theorem c_str_append (first last : Text) :
    ∃ rest, c_str (first ++ last) = c_str first ++ rest ∧ rest ⊆ last := by
  unfold c_str
  rw [List.takeWhile_append]
  split
  · next whole =>
      have same := (List.takeWhile_prefix fun byte : UInt8 => decide (byte ≠ 0)).eq_of_length whole
      exact ⟨last.takeWhile (· ≠ 0), by rw [same], List.takeWhile_subset _⟩
  · exact ⟨[], (List.append_nil _).symm, List.nil_subset _⟩

/-- What is behind a text adds no newline to it, if it has none. -/
theorem newline_mem_c_str_append {first last : Text} (clean : byteOf '\n' ∉ last) :
    byteOf '\n' ∈ c_str (first ++ last) ↔ byteOf '\n' ∈ c_str first := by
  obtain ⟨rest, text, within⟩ := c_str_append first last
  rw [text, List.mem_append]
  exact or_iff_left fun inside => clean (within inside)

/-- A text breaks its row by a newline in the part of it that is shown. -/
theorem newline_mem_fitted :
    byteOf '\n' ∈ c_str (fitTerminalLine line columns) ↔
      byteOf '\n' ∈ c_str (line.take (keptLength line.length columns)) := by
  obtain ⟨dots, split, clean⟩ := fitTerminalLine_eq line columns
  rw [split]
  exact newline_mem_c_str_append clean

end Lines

/-! ## The statistics line -/

private theorem newline_not_mem_to_string (value : Nat) : byteOf '\n' ∉ to_string value := by
  intro inside
  exact absurd (isdigit_to_string inside) (by decide)

private theorem newline_not_mem_fixed (places : Nat) (value : ℚ) : byteOf '\n' ∉ fixed places value := by
  have zero : byteOf '\n' ≠ byteOf '0' := by decide
  have point : byteOf '\n' ≠ byteOf '.' := by decide
  have minus : byteOf '\n' ≠ byteOf '-' := by decide
  unfold fixed
  dsimp only
  split <;> simp [newline_not_mem_to_string, List.mem_replicate, zero, point, minus]

private theorem newline_not_mem_traffic (output : LiveOutput) (now : ℚ) {unit_ : Text}
    (clean : byteOf '\n' ∉ unit_) : byteOf '\n' ∉ output.traffic now unit_ := by
  have packets : byteOf '\n' ∉ ascii " pkts | " := by decide
  have bar : byteOf '\n' ∉ ascii " | " := by decide
  have rate : byteOf '\n' ∉ ascii " B/s | " := by decide
  simp [LiveOutput.traffic, newline_not_mem_to_string, newline_not_mem_fixed, packets, bar, rate, clean]

private theorem statisticsLine_eq {output : LiveOutput} {screen : Screen} {line : Text}
    (shown : output.statisticsLine screen = some line) :
    ∃ rest, line = snprintf 320 (output.heading ++ rest) ∧ byteOf '\n' ∉ rest := by
  have traffic := fun {unit_ : Text} (clean : byteOf '\n' ∉ unit_) =>
    newline_not_mem_traffic output screen.now clean
  unfold LiveOutput.statisticsLine at shown
  split at shown
  · dsimp only at shown
    split at shown <;> cases shown
    · exact ⟨_, rfl, by simp +decide [traffic]⟩
    · exact ⟨_, rfl, by simp +decide [traffic]⟩
  · next report reported =>
      obtain ⟨p50, -, shown⟩ := Option.bind_eq_some_iff.mp shown
      obtain ⟨p99, -, shown⟩ := Option.bind_eq_some_iff.mp shown
      obtain ⟨maximum, -, shown⟩ := Option.bind_eq_some_iff.mp shown
      dsimp only at shown
      split at shown <;> cases shown
      · exact ⟨_, rfl, by simp +decide [traffic, newline_not_mem_fixed]⟩
      · exact ⟨_, rfl, by simp +decide [traffic, newline_not_mem_fixed]⟩

/-- The part of a text that is shown where the whole line has this size. -/
def shownPart (text : Text) (size columns : Nat) : Text := c_str (text.take (keptLength size columns))

private theorem keptLength_le (size columns : Nat) : keptLength size columns ≤ size := by
  unfold keptLength
  dsimp only
  split_ifs <;> omega

private theorem newline_mem_statistics {output : LiveOutput} {screen : Screen} {line : Text}
    (shown : output.statisticsLine screen = some line) :
    byteOf '\n' ∈ c_str (fitTerminalLine line screen.columns) ↔
      byteOf '\n' ∈ shownPart output.heading line.length screen.columns := by
  obtain ⟨rest, same, clean⟩ := statisticsLine_eq shown
  have within : keptLength line.length screen.columns ≤ 319 := by
    have short : line.length ≤ 319 := by
      rw [same]
      exact List.length_take_le _ _
    exact (keptLength_le _ _).trans short
  rw [newline_mem_fitted, shownPart]
  generalize keptLength line.length screen.columns = kept at within ⊢
  have split : line.take kept =
      output.heading.take kept ++ rest.take (kept - output.heading.length) := by
    rw [same, snprintf, List.take_take, Nat.min_eq_left within, List.take_append]
  rw [split]
  exact newline_mem_c_str_append fun inside => clean (List.mem_of_mem_take inside)

/-! ## One frame -/

/-- No text that is drawn has a newline in the part of it that is shown. -/
structure LiveOutput.Unbroken (output : LiveOutput) (screen : Screen) : Prop where
  heading : ∀ line, output.statisticsLine screen = some line →
    byteOf '\n' ∉ shownPart output.heading line.length screen.columns
  events : ∀ events, output.shownEvents = some events → ∀ event ∈ events,
    byteOf '\n' ∉ shownPart event event.length screen.columns

structure SixRows (columns : Nat) (bytes : Text) : Prop where
  newlines : bytes.count (byteOf '\n') = 6
  fits : ∀ line ∈ getlines bytes, visible line ≤ max (columns - 1) 1

private theorem count_flatMap_rows (rows : List Text) :
    (rows.flatMap fun row => ascii "\r\x1b[2K" ++ row ++ ascii "\n").count (byteOf '\n') =
      rows.length + rows.flatten.count (byteOf '\n') := by
  have clear : (ascii "\r\x1b[2K").count (byteOf '\n') = 0 := by decide
  have newline : (ascii "\n").count (byteOf '\n') = 1 := by decide
  induction rows with
  | nil => rfl
  | cons row rows ih =>
      rw [List.flatMap_cons, List.count_append, List.count_append, List.count_append, ih, clear,
        newline, List.flatten_cons, List.count_append, List.length_cons]
      omega

private theorem mem_rows_iff {events : List Text} {columns : Nat} (few : events.length ≤ kEventLines) :
    byteOf '\n' ∈ ((List.range kEventLines).map (LiveOutput.rowOf events columns)).flatten ↔
      ∃ event ∈ events, byteOf '\n' ∈ c_str (fitTerminalLine event columns) := by
  rw [List.mem_flatten]
  constructor
  · intro held
    obtain ⟨row, listed, inside⟩ := held
    obtain ⟨index, -, rfl⟩ := List.mem_map.mp listed
    unfold LiveOutput.rowOf at inside
    cases here : events[index]? with
    | none =>
        rw [here] at inside
        cases inside
    | some event =>
        rw [here] at inside
        exact ⟨event, List.mem_of_getElem? here, inside⟩
  · intro held
    obtain ⟨event, listed, inside⟩ := held
    obtain ⟨index, within, rfl⟩ := List.getElem_of_mem listed
    refine ⟨LiveOutput.rowOf events columns index, List.mem_map.mpr ⟨index, ?_, rfl⟩, ?_⟩
    · exact List.mem_range.mpr (Nat.lt_of_lt_of_le within few)
    · rw [LiveOutput.rowOf, List.getElem?_eq_getElem within]
      exact inside

private theorem visible_statistics (text : Text) : visible (ascii "\x1b[6A\r\x1b[2K" ++ text) = visible text := rfl

private theorem visible_row (text : Text) : visible (ascii "\r\x1b[2K" ++ text) = visible text := rfl

private theorem visible_fitted (line : Text) (columns : Nat) :
    visible (c_str (fitTerminalLine line columns)) ≤ max (columns - 1) 1 := by
  have shorter : (c_str (fitTerminalLine line columns)).length ≤
      (fitTerminalLine line columns).length := (List.takeWhile_prefix _).length_le
  exact (visibleFrom_le_length _ _).trans (shorter.trans (length_fitTerminalLine line columns))

private theorem visible_rowOf (events : List Text) (columns index : Nat) :
    visible (LiveOutput.rowOf events columns index) ≤ max (columns - 1) 1 := by
  unfold LiveOutput.rowOf
  cases events[index]? with
  | none => exact Nat.zero_le _
  | some event => exact visible_fitted event columns

/-- Without newlines of their own, the lines of a frame are the texts it is made of. -/
theorem getlines_frame {statistics : Text} {rows : List Text} (statisticsClean : byteOf '\n' ∉ statistics)
    (rowsClean : ∀ row ∈ rows, byteOf '\n' ∉ row) :
    getlines (ascii "\x1b[6A\r\x1b[2K" ++ statistics ++ ascii "\n" ++
        rows.flatMap fun row => ascii "\r\x1b[2K" ++ row ++ ascii "\n") =
      (ascii "\x1b[6A\r\x1b[2K" ++ statistics) :: rows.map (ascii "\r\x1b[2K" ++ ·) := by
  have up : byteOf '\n' ∉ ascii "\x1b[6A\r\x1b[2K" := by decide
  have clear : byteOf '\n' ∉ ascii "\r\x1b[2K" := by decide
  have newline : ascii "\n" = [byteOf '\n'] := by decide
  have lines := @getlines_flatMap ((ascii "\x1b[6A\r\x1b[2K" ++ statistics) ::
      rows.map (ascii "\r\x1b[2K" ++ ·)) ?_
  · rw [List.flatMap_cons, List.flatMap_map] at lines
    rw [newline]
    exact lines
  · intro line inside
    rcases List.mem_cons.mp inside with rfl | inside
    · simp [up, statisticsClean]
    · obtain ⟨row, listed, rfl⟩ := List.mem_map.mp inside
      simp [clear, rowsClean row listed]

namespace LiveOutput

variable {output : LiveOutput} {history : List Text} {screen : Screen}

private theorem HoldsEvents.unbroken_iff (holds : output.HoldsEvents history) {statistics : Text}
    (line : output.statisticsLine screen = some statistics) :
    output.Unbroken screen ↔
      byteOf '\n' ∉ c_str (fitTerminalLine statistics screen.columns) ∧
        byteOf '\n' ∉ ((List.range kEventLines).map
          (rowOf (history.rtake kEventLines) screen.columns)).flatten := by
  have few : (history.rtake kEventLines).length ≤ kEventLines := by
    rw [← holds.count, holds.filled]
    exact Nat.min_le_right _ _
  rw [newline_mem_statistics line, mem_rows_iff few]
  constructor
  · intro unbroken
    refine ⟨unbroken.heading statistics line, ?_⟩
    intro broken
    obtain ⟨event, listed, inside⟩ := broken
    exact unbroken.events _ holds.shownEvents event listed (newline_mem_fitted.mp inside)
  · intro clean
    constructor
    · intro other same
      cases line.symm.trans same
      exact clean.1
    · intro events same event listed inside
      cases holds.shownEvents.symm.trans same
      exact clean.2 ⟨event, listed, newline_mem_fitted.mpr inside⟩

private theorem HoldsEvents.sixRows_iff (holds : output.HoldsEvents history) {bytes : Text}
    (rendered : output.render screen = some (.frame screen.columns bytes)) :
    SixRows screen.columns bytes ↔ output.Unbroken screen := by
  obtain ⟨statistics, line, shape⟩ := holds.render screen
  cases rendered.symm.trans shape
  rw [holds.unbroken_iff line]
  have up : (ascii "\x1b[6A\r\x1b[2K").count (byteOf '\n') = 0 := by decide
  have newline : (ascii "\n").count (byteOf '\n') = 1 := by decide
  have rows : (List.map (rowOf (history.rtake kEventLines) screen.columns)
    (List.range kEventLines)).length = 5 := by
    rw [List.length_map, List.length_range]
    rfl
  have count : (ascii "\x1b[6A\r\x1b[2K" ++ c_str (fitTerminalLine statistics screen.columns) ++
      ascii "\n" ++ ((List.range kEventLines).map
        (rowOf (history.rtake kEventLines) screen.columns)).flatMap fun row =>
          ascii "\r\x1b[2K" ++ row ++ ascii "\n").count (byteOf '\n') =
      6 + (c_str (fitTerminalLine statistics screen.columns)).count (byteOf '\n') +
        ((List.range kEventLines).map
          (rowOf (history.rtake kEventLines) screen.columns)).flatten.count (byteOf '\n') := by
    rw [List.count_append, List.count_append, List.count_append, count_flatMap_rows, up, newline, rows]
    omega
  constructor
  · intro six
    have none := count.symm.trans six.newlines
    exact ⟨List.count_eq_zero.mp (by omega), List.count_eq_zero.mp (by omega)⟩
  · intro clean
    constructor
    · rw [count, List.count_eq_zero.mpr clean.1, List.count_eq_zero.mpr clean.2]
    · have each : ∀ row ∈ (List.range kEventLines).map
          (rowOf (history.rtake kEventLines) screen.columns), byteOf '\n' ∉ row := by
        intro row listed inside
        exact clean.2 (List.mem_flatten.mpr ⟨row, listed, inside⟩)
      rw [getlines_frame clean.1 each]
      intro shown inside
      rcases List.mem_cons.mp inside with rfl | inside
      · rw [visible_statistics]
        exact visible_fitted _ _
      · obtain ⟨row, listed, rfl⟩ := List.mem_map.mp inside
        obtain ⟨index, -, rfl⟩ := List.mem_map.mp listed
        rw [visible_row]
        exact visible_rowOf _ _ _

end LiveOutput

/-! ## Runs -/

private theorem OutputCall.enables_eq (call : OutputCall) (enabled : Bool) :
    call.enables enabled = (enabled || call.draws enabled) := by
  cases call with
  | configureCompactOutput requested context ansi started =>
      cases enabled <;> cases requested <;> rfl
  | configureVerboseOutput | logMessage | logCompactMessage | recordDatagram | recordLatency =>
      cases enabled <;> rfl

namespace Display

variable {display next : Display} {label : OutputCall × Screen}

/-- All frames are six rows high and begin in the same row. -/
structure KeepsPlace (display : Display) : Prop where
  rows : ∀ frame ∈ display.frames, SixRows frame.columns frame.bytes
  top : ∀ first ∈ display.frames, ∀ last ∈ display.frames, first.top = last.top

/-- What a call draws, if it draws, has no newline where it is shown. -/
def drawsUnbroken (display : Display) (label : OutputCall × Screen) : Prop :=
  label.1.draws display.output.enabled_ = true →
    ∀ next, display.step label = some next → next.output.Unbroken label.2

/-- The cursor of an open display is below the last frame. -/
structure Placed (display : Display) : Prop where
  holds : ∃ history, display.output.HoldsEvents history
  unopened : display.output.enabled_ = false → display.frames = []
  below : display.output.enabled_ = true → ∃ earlier frame, display.frames = earlier ++ [frame] ∧
    display.row = frame.top + frame.bytes.count (byteOf '\n')

private theorem placed_start : Placed {} where
  holds := ⟨[], LiveOutput.holdsEvents_start⟩
  unopened := fun _ => rfl
  below := by intro enabled; cases enabled

private theorem foldl_print_lines (lines : List Text) (display : Display) :
    ((lines.map Printed.text).foldl print display).frames = display.frames := by
  induction lines generalizing display with
  | nil => rfl
  | cons line lines ih => exact ih _

inductive Stepped (display : Display) (label : OutputCall × Screen) (next : Display) : Prop
  | undrawn : label.1.draws display.output.enabled_ = false → next.frames = display.frames →
      (display.output.enabled_ = true → next.row = display.row) → Stepped display label next
  | drawn {top : Int} {bytes : Text} : label.1.draws display.output.enabled_ = true →
      next.output.render label.2 = some (.frame label.2.columns bytes) →
      next.frames = display.frames ++ [⟨label.2.columns, top, bytes⟩] →
      next.row = top + bytes.count (byteOf '\n') →
      (display.output.enabled_ = true → top = display.row - 6) → Stepped display label next

theorem stepped_of_step (placed : Placed display) (step : display.step label = some next) :
    Stepped display label next ∧ next.output.enabled_ = label.1.enables display.output.enabled_ ∧
      ∃ history, next.output.HoldsEvents history := by
  obtain ⟨history, holds⟩ := placed.holds
  obtain ⟨output, printed, called, acts⟩ := holds.acts label.2 label.1
  rw [Display.step, called] at step
  cases step
  have same := foldl_print_output printed { display with output := output }
  refine ⟨?_, by rw [same]; exact acts.enabled, _, by rw [same]; exact acts.holds⟩
  cases acts.called with
  | undrawn draws silent =>
      refine .undrawn draws (foldl_print_lines _ _) ?_
      intro enabled
      rw [silent enabled]
      rfl
  | drawn draws rendered =>
      have shown := (congrArg (·.render label.2) same).trans rendered
      by_cases enabled : display.output.enabled_ = true
      · rw [if_pos enabled] at shown ⊢
        exact .drawn draws shown rfl rfl fun _ => rfl
      · rw [if_neg enabled] at shown ⊢
        exact .drawn draws shown rfl rfl fun opened => absurd opened enabled

theorem Placed.step (placed : Placed display) (step : display.step label = some next) : Placed next := by
  obtain ⟨stepped, enabled, holds⟩ := stepped_of_step placed step
  rw [OutputCall.enables_eq] at enabled
  cases stepped with
  | undrawn draws frames row =>
      rw [draws, Bool.or_false] at enabled
      refine ⟨holds, ?_, ?_⟩
      · intro closed
        rw [frames]
        exact placed.unopened (enabled ▸ closed)
      · intro opened
        have before : display.output.enabled_ = true := enabled ▸ opened
        rw [frames, row before]
        exact placed.below before
  | drawn draws rendered frames row =>
      rw [draws, Bool.or_true] at enabled
      refine ⟨holds, ?_, ?_⟩
      · intro closed
        rw [enabled] at closed
        cases closed
      · intro _
        exact ⟨_, _, frames, row⟩

/-- A frame of an open display begins where the last one does, if that is six rows high. -/
theorem Placed.top_eq (placed : Placed display) (keeps : KeepsPlace display) {top : Int}
    (above : display.output.enabled_ = true → top = display.row - 6) :
    ∀ frame ∈ display.frames, frame.top = top := by
  intro frame drawn
  cases enabled : display.output.enabled_ with
  | false =>
      rw [placed.unopened enabled] at drawn
      cases drawn
  | true =>
      obtain ⟨earlier, last, frames, row⟩ := placed.below enabled
      have within : last ∈ display.frames := by
        rw [frames]
        exact List.mem_append_right _ (List.mem_singleton_self _)
      have same := keeps.top frame drawn last within
      have six := (keeps.rows last within).newlines
      have up := above enabled
      omega

private theorem keepsPlace_step (placed : Placed display) (keeps : KeepsPlace display)
    (step : display.step label = some next) : KeepsPlace next ↔ drawsUnbroken display label := by
  obtain ⟨stepped, -, history, holds⟩ := stepped_of_step placed step
  cases stepped with
  | undrawn draws frames row =>
      have same : KeepsPlace next := ⟨by rw [frames]; exact keeps.rows, by rw [frames]; exact keeps.top⟩
      refine ⟨fun _ drawn => ?_, fun _ => same⟩
      rw [draws] at drawn
      cases drawn
  | @drawn top bytes draws rendered frames row above =>
      have exact := holds.sixRows_iff rendered
      constructor
      · intro kept _ other same
        cases step.symm.trans same
        exact exact.mp (kept.rows ⟨label.2.columns, top, bytes⟩ (by rw [frames]; simp))
      · intro allowed
        have six := exact.mpr (allowed draws next step)
        have level : ∀ frame ∈ next.frames, frame.top = top := by
          intro frame drawn
          rw [frames] at drawn
          rcases List.mem_append.mp drawn with earlier | new
          · exact placed.top_eq keeps above frame earlier
          · rw [List.mem_singleton.mp new]
        constructor
        · intro frame drawn
          rw [frames] at drawn
          rcases List.mem_append.mp drawn with earlier | new
          · exact keeps.rows frame earlier
          · rw [List.mem_singleton.mp new]
            exact six
        · intro first drawn last drawn_
          rw [level first drawn, level last drawn_]

/-- Whatever is called and however wide the terminal is, all frames are six rows high and
in the same place exactly if no frame shows a newline of the context or of an event. -/
theorem keepsPlace_iff (labels : List (OutputCall × Screen)) :
    liveDisplay.Along KeepsPlace {} labels ↔ liveDisplay.Guarded drawsUnbroken {} labels := by
  obtain ⟨final, ran, -⟩ := @exec_of_holds {} [] LiveOutput.holdsEvents_start labels
  have nothing : KeepsPlace {} :=
    ⟨fun _ drawn => (List.not_mem_nil drawn).elim, fun _ drawn => (List.not_mem_nil drawn).elim⟩
  exact Machine.along_iff_guarded (fun placed step => Placed.step placed step)
    (fun placed keeps step => keepsPlace_step placed keeps step) ran placed_start nothing

/-- The warning of the command line about a server that publishes to the client's group. -/
def sameGroupWarning : Text :=
  ascii "The server is set to publish " ++ ascii "tunneled packets on the same " ++
    ascii "multicast group joined by the client." ++ ascii "This is dangerous if both client " ++
    ascii "and server are on the same subnet." ++ ascii "\nPress Ctrl-C to quit " ++
    ascii "or any key to continue"

/-- It is logged on a compact display of 200 columns. -/
def warned : List (OutputCall × Screen) :=
  [(.configureCompactOutput true [] true 0, ⟨200, 0⟩), (.logMessage .warning sameGroupWarning, ⟨200, 1⟩)]

/-- The warning takes two rows, so that its frame is seven rows high. -/
theorem not_keepsPlace_warned : ¬ liveDisplay.Along KeepsPlace {} warned := by
  intro keeps
  have broken : ((liveDisplay.exec {} warned).map fun display =>
      display.frames.map fun frame => frame.bytes.count (byteOf '\n')) = some [6, 7] := by
    decide +kernel
  obtain ⟨final, ran, counts⟩ := Option.map_eq_some_iff.mp broken
  have six := (keeps warned (List.prefix_refl _) final ran).rows
  obtain ⟨frame, drawn, seven⟩ := List.mem_map.mp (counts ▸ List.mem_of_mem_getLast? rfl :
    7 ∈ final.frames.map fun frame => frame.bytes.count (byteOf '\n'))
  have := (six frame drawn).newlines
  omega

end Display

end DatagramTunneler
