import DatagramTunneler.Foundation.Machine
import DatagramTunneler.LatencyReports

/-! The compact output: a statistics line and the last events below it, drawn again in
the same place of the terminal after every change. Reading beyond an array is `none`. -/

set_option autoImplicit false

namespace DatagramTunneler

open Foundation

inductive LogLevel where
  | info
  | warning
  | error
  | death
  deriving DecidableEq, Repr

def levelName : LogLevel → Text
  | .info => ascii "INFO"
  | .warning => ascii "WARNING"
  | .error => ascii "ERROR"
  | .death => ascii "DEATH"

def kEventLines : Nat := 5

def fitTerminalLine (line : Text) (columns : Nat) : Text :=
  let maximum := if 1 < columns then columns - 1 else 1
  if line.length ≤ maximum then line
  else if maximum ≤ 3 then line.take maximum
  else line.take (maximum - 3) ++ ascii "..."

/-- What `snprintf` leaves in a buffer of this size. -/
def snprintf (size : Nat) (text : Text) : Text := text.take (size - 1)

/-- `%.1f` and `%.2f`; a tie goes to the even digit. -/
def fixed (places : Nat) (value : ℚ) : Text :=
  let scaled := value.num.natAbs * 10 ^ places
  let twice := 2 * (scaled % value.den)
  let below := scaled / value.den
  let units := if twice < value.den ∨ (twice = value.den ∧ below % 2 = 0) then below else below + 1
  let fraction := to_string (units % 10 ^ places)
  (if value < 0 then [byteOf '-'] else []) ++ to_string (units / 10 ^ places) ++ [byteOf '.'] ++
    List.replicate (places - fraction.length) (byteOf '0') ++ fraction

/-- What a call finds: the width of the terminal and the clock, in seconds. -/
structure Screen where
  columns : Nat
  now : ℚ

/-- What goes to standard output; a frame is all that one call of `render` prints. -/
inductive Printed where
  | text (bytes : Text)
  | frame (columns : Nat) (bytes : Text)
  deriving DecidableEq, Repr

/-- The class `CompactOutput` with all of its members. -/
structure LiveOutput extends CompactOutput where
  verbose_ : Bool := false
  context_ : Text := []
  events_ : Vector Text kEventLines := Vector.replicate kEventLines []
  next_event_ : Nat := 0
  event_count_ : Nat := 0
  datagram_count_ : UInt64 := 0
  byte_count_ : UInt64 := 0
  started_at_ : ℚ := 0

namespace LiveOutput

def heading (output : LiveOutput) : Text :=
  if output.context_.isEmpty then ascii "Stats" else c_str output.context_

def averageSize (output : LiveOutput) : ℚ :=
  if output.datagram_count_ = 0 then 0
  else (output.byte_count_.toNat : ℚ) / (output.datagram_count_.toNat : ℚ)

def throughput (output : LiveOutput) (now : ℚ) : ℚ :=
  let elapsed_seconds := now - output.started_at_
  if elapsed_seconds ≤ 0 then 0 else (output.byte_count_.toNat : ℚ) / elapsed_seconds

/-- The statistics up to the latencies, with the unit of the average in words or without. -/
def traffic (output : LiveOutput) (now : ℚ) (unit_ : Text) : Text :=
  ascii " | " ++ to_string output.datagram_count_.toNat ++ ascii " pkts | " ++
    fixed 1 output.averageSize ++ unit_ ++ ascii " | " ++ fixed 1 (output.throughput now) ++
    ascii " B/s | "

def statisticsLine (output : LiveOutput) (screen : Screen) : Option Text :=
  match output.toCompactOutput.statisticsLine with
  | none =>
      let full_line := snprintf 320 (output.heading ++
        (output.traffic screen.now (ascii " B avg") ++ ascii "latency: unavailable"))
      if full_line.length < screen.columns then some full_line
      else some (snprintf 320 (output.heading ++
        (output.traffic screen.now (ascii " B") ++ ascii "lat: n/a")))
  | some report => do
      let p50 ← report.p50
      let p99 ← report.p99
      let maximum ← report.maximum
      let full_line := snprintf 320 (output.heading ++
        (output.traffic screen.now (ascii " B avg") ++ ascii "lat ms: " ++ fixed 2 report.average ++
          ascii " avg / " ++ fixed 2 p50 ++ ascii " p50 / " ++ fixed 2 p99 ++ ascii " p99 / " ++
          fixed 2 maximum ++ ascii " max"))
      if full_line.length < screen.columns then return full_line
      else return snprintf 320 (output.heading ++
        (output.traffic screen.now (ascii " B") ++ ascii "latencies avg/p50/p99/max " ++
          fixed 2 report.average ++ ascii "/" ++ fixed 2 p50 ++ ascii "/" ++ fixed 2 p99 ++
          ascii "/" ++ fixed 2 maximum ++ ascii " ms"))

def selected (output : LiveOutput) (index : Nat) : Option Text :=
  let first_event := if output.event_count_ = kEventLines then output.next_event_ else 0
  output.events_[(first_event + index) % kEventLines]?

def shownEvents (output : LiveOutput) : Option (List Text) :=
  ((List.range kEventLines).filter (· < output.event_count_)).mapM output.selected

def eventRow (output : LiveOutput) (columns index : Nat) : Option Text :=
  if index < output.event_count_ then
    (output.selected index).map fun event => c_str (fitTerminalLine event columns)
  else some []

def render (output : LiveOutput) (screen : Screen) : Option Printed := do
  let statistics ← output.statisticsLine screen
  let rows ← (List.range kEventLines).mapM (output.eventRow screen.columns)
  return .frame screen.columns (ascii "\x1b[6A\r\x1b[2K" ++
    c_str (fitTerminalLine statistics screen.columns) ++ ascii "\n" ++
    rows.flatMap fun row => ascii "\r\x1b[2K" ++ row ++ ascii "\n")

def redraw (output : LiveOutput) (screen : Screen) : Option (LiveOutput × List Printed) :=
  (output.render screen).map fun frame => (output, [frame])

/-- `ansi` is what `enableAnsiTerminal` returns and `started` the clock behind it. -/
def configure (output : LiveOutput) (screen : Screen) (requested : Bool) (context : Text)
    (ansi : Bool) (started : ℚ) : Option (LiveOutput × List Printed) :=
  if !requested || (!output.enabled_ && !ansi) then some (output, [])
  else
    let (output, opened) : LiveOutput × List Printed :=
      if output.enabled_ then (output, [])
      else ({ output with enabled_ := true, started_at_ := started },
        [.text (ascii "\x1b[?25l\n\n\n\n\n\n")])
    let output := if context.isEmpty then output else { output with context_ := context }
    (output.render screen).map fun frame => (output, opened ++ [frame])

def appendEvent (output : LiveOutput) (event : Text) : Option LiveOutput :=
  if inside : output.next_event_ < kEventLines then
    some { output with
      events_ := output.events_.set output.next_event_ event
      next_event_ := (output.next_event_ + 1) % kEventLines
      event_count_ :=
        if output.event_count_ < kEventLines then output.event_count_ + 1 else output.event_count_ }
  else none

def showEvent (output : LiveOutput) (screen : Screen) (event : Text) :
    Option (LiveOutput × List Printed) :=
  (output.appendEvent event).bind fun output => output.redraw screen

def log (output : LiveOutput) (screen : Screen) (level : LogLevel) (message : Text) :
    Option (LiveOutput × List Printed) :=
  if !output.enabled_ then
    let name := levelName level
    some (output, [.text (name ++ List.replicate (9 - name.length) (byteOf ' ') ++ ascii " " ++
      message ++ ascii "\n")])
  else output.showEvent screen (levelName level ++ ascii "  " ++ message)

def logCompact (output : LiveOutput) (screen : Screen) (level : LogLevel) (message : Text) :
    Option (LiveOutput × List Printed) :=
  if !output.enabled_ then some (output, [])
  else if level = .info then output.showEvent screen message
  else output.showEvent screen (levelName level ++ ascii "  " ++ message)

def record (output : LiveOutput) (screen : Screen) (bytes : UInt64) :
    Option (LiveOutput × List Printed) :=
  if !output.enabled_ then some (output, [])
  else redraw { output with
    datagram_count_ := output.datagram_count_ + 1
    byte_count_ := output.byte_count_ + bytes } screen

def recordLatency (output : LiveOutput) (screen : Screen) (milliseconds : ℚ) :
    Option (LiveOutput × List Printed) :=
  if !output.enabled_ then some (output, [])
  else redraw { output with
    toCompactOutput := output.toCompactOutput.recordLatencyValue milliseconds } screen

/-- The text that `vsnprintf` leaves in the buffer for a message. -/
def messageOf (formatted : Text) : Text := c_str (snprintf 1024 formatted)

end LiveOutput

/-- The calls of the program; a message is the whole text its format stands for. -/
inductive OutputCall where
  | configureCompactOutput (requested : Bool) (context : Text) (ansi : Bool) (started : ℚ)
  | configureVerboseOutput (requested : Bool)
  | logMessage (level : LogLevel) (formatted : Text)
  | logCompactMessage (level : LogLevel) (formatted : Text)
  | recordDatagram (bytes : UInt64)
  | recordLatency (milliseconds : ℚ)

def LiveOutput.call (output : LiveOutput) (screen : Screen) :
    OutputCall → Option (LiveOutput × List Printed)
  | .configureCompactOutput requested context ansi started =>
      output.configure screen requested context ansi started
  | .configureVerboseOutput requested => some ({ output with verbose_ := requested }, [])
  | .logMessage level formatted => output.log screen level (messageOf formatted)
  | .logCompactMessage level formatted => output.logCompact screen level (messageOf formatted)
  | .recordDatagram bytes => output.record screen bytes
  | .recordLatency milliseconds => output.recordLatency screen milliseconds

/-! ## The terminal -/

structure DrawnFrame where
  columns : Nat
  /-- The row of its statistics line. -/
  top : Int
  bytes : Text
  deriving DecidableEq, Repr

/-- The output with its terminal, as far as newlines and the frames move the cursor. -/
structure Display where
  output : LiveOutput := {}
  row : Int := 0
  frames : List DrawnFrame := []

namespace Display

/-- A frame begins six rows above the cursor. -/
def print (display : Display) : Printed → Display
  | .text bytes => { display with row := display.row + bytes.count (byteOf '\n') }
  | .frame columns bytes => { display with
      row := display.row - 6 + bytes.count (byteOf '\n')
      frames := display.frames ++ [⟨columns, display.row - 6, bytes⟩] }

def step (display : Display) (label : OutputCall × Screen) : Option Display :=
  (display.output.call label.2 label.1).map fun (output, printed) =>
    printed.foldl print { display with output := output }

end Display

def liveDisplay : Machine Display (OutputCall × Screen) := ⟨Display.step⟩

end DatagramTunneler
