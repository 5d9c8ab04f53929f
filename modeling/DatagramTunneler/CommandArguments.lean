import DatagramTunneler.Text

/-! Reading the arguments of the named-tunnel commands, and the command line of the
editor that `config edit` runs. -/

set_option autoImplicit false

namespace DatagramTunneler

/-- `std::stoull` in base 10: the value, and how much of the text it took. -/
def stoull (value : Text) : Except Text (Nat × Nat) :=
  let terminated := c_str value
  let unsigned := terminated.dropWhile isspace
  let negative := unsigned.head? == some (byteOf '-')
  let signed := negative || unsigned.head? == some (byteOf '+')
  let digits := (if signed then unsigned.tail else unsigned).takeWhile isdigit
  let parsed_length := terminated.length - unsigned.length + (if signed then 1 else 0) + digits.length
  if digits.isEmpty then .error (ascii "stoull")
  else if unsignedLongBound ≤ digitsValue digits then .error (ascii "stoull")
  else if negative then .ok ((unsignedLongBound - digitsValue digits) % unsignedLongBound, parsed_length)
  else .ok (digitsValue digits, parsed_length)

def parsePositiveSize (value option : Text) : Except Text Nat :=
  let invalid := option ++ ascii " must be a positive integer"
  match stoull value with
  | .error _ => .error invalid
  | .ok (parsed, parsed_length) =>
      if parsed_length ≠ value.length ∨ parsed = 0 ∨ unsignedLongBound - 1 < parsed then .error invalid
      else .ok parsed

/-- The local variables of `splitEditorCommand`. -/
structure EditorCommandReader where
  arguments : List Text := []
  argument : Text := []
  quote : UInt8 := 0
  escaped : Bool := false
  deriving DecidableEq, Repr

namespace EditorCommandReader

/-- One pass of the loop over the characters. -/
def read (reader : EditorCommandReader) (character : UInt8) : EditorCommandReader :=
  if reader.escaped then { reader with argument := reader.argument ++ [character], escaped := false }
  else if character = byteOf '\\' then { reader with escaped := true }
  else if reader.quote ≠ 0 then
    if character = reader.quote then { reader with quote := 0 }
    else { reader with argument := reader.argument ++ [character] }
  else if character = byteOf '\'' ∨ character = byteOf '"' then { reader with quote := character }
  else if isspace character then
    if reader.argument.isEmpty then reader
    else { reader with arguments := reader.arguments ++ [reader.argument], argument := [] }
  else { reader with argument := reader.argument ++ [character] }

/-- What follows the loop. -/
def finish (reader : EditorCommandReader) : Except Text (List Text) :=
  if reader.escaped ∨ reader.quote ≠ 0 then
    .error (ascii "VISUAL or EDITOR contains an incomplete escape or quote")
  else
    let arguments := if reader.argument.isEmpty then reader.arguments
      else reader.arguments ++ [reader.argument]
    if arguments.isEmpty then .error (ascii "VISUAL or EDITOR must name an editor executable")
    else .ok arguments

end EditorCommandReader

def splitEditorCommand (command : Text) : Except Text (List Text) :=
  (command.foldl EditorCommandReader.read {}).finish

end DatagramTunneler
