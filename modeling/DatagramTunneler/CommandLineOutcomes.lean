import DatagramTunneler.CommandLine
import DatagramTunneler.NumericText

/-! How reading the options of a direct invocation ends. Only a number that does not
fit an `int`, at a place where a port is read, gets past the handlers. -/

set_option autoImplicit false

namespace DatagramTunneler

open Foundation

/-- The leading number with its sign, where there is one. -/
def signedNumber (value : Text) : Option Int :=
  if (leadingNumber value).2.isEmpty then none
  else if (leadingNumber value).1 then some (-digitsValue (leadingNumber value).2)
  else some (digitsValue (leadingNumber value).2)

def StartsWithPort (value : Text) : Prop :=
  ∃ number, signedNumber value = some number ∧ 0 ≤ number ∧ number ≤ 65535

def ExceedsInt (value : Text) : Prop :=
  ∃ number, signedNumber value = some number ∧ (number < -2147483648 ∨ 2147483647 < number)

private theorem getPort_eq (value : Text) : getPort value = match signedNumber value with
    | none => DEATH (ascii "Invalid port " ++ c_str value ++ ascii "!")
    | some number =>
        if number < -2147483648 ∨ 2147483647 < number then .error .uncaught
        else if number < 0 ∨ 65535 < number then
          DEATH (ascii "Invalid port " ++ (if number < 0 then ascii "-" else []) ++
            to_string number.natAbs ++ ascii "!")
        else .ok (UInt16.ofNat number.toNat) := by
  have read : stoi value = match signedNumber value with
      | none => .error .invalid_argument
      | some number =>
          if number < -2147483648 ∨ 2147483647 < number then .error .out_of_range else .ok number := by
    have unfolded : stoi value =
        let number : Int := if (leadingNumber value).1 then -digitsValue (leadingNumber value).2
          else digitsValue (leadingNumber value).2
        if (leadingNumber value).2.isEmpty then .error .invalid_argument
        else if number < -2147483648 ∨ 2147483647 < number then .error .out_of_range
        else .ok number := rfl
    rw [unfolded]
    unfold signedNumber
    cases (leadingNumber value).2.isEmpty <;> cases (leadingNumber value).1 <;> rfl
  unfold getPort
  rw [read]
  cases signedNumber value with
  | none => rfl
  | some number =>
      dsimp only
      by_cases large : number < -2147483648 ∨ 2147483647 < number
      · rw [if_pos large, if_pos large]
      · rw [if_neg large, if_neg large]

private theorem getPort_uncaught_iff {value : Text} : getPort value = .error .uncaught ↔ ExceedsInt value := by
  rw [getPort_eq]
  unfold ExceedsInt
  cases signedNumber value with
  | none => simp [DEATH]
  | some number =>
      simp only [Option.some.injEq, exists_eq_left']
      by_cases large : number < -2147483648 ∨ 2147483647 < number
      · simp [large]
      · rw [if_neg large]
        refine iff_of_false ?_ large
        split_ifs <;> simp [DEATH]

private theorem getPort_ok_iff {value : Text} : (∃ port, getPort value = .ok port) ↔ StartsWithPort value := by
  rw [getPort_eq]
  unfold StartsWithPort
  cases signedNumber value with
  | none => simp [DEATH]
  | some number =>
      simp only [Option.some.injEq, exists_eq_left']
      by_cases large : number < -2147483648 ∨ 2147483647 < number
      · rw [if_pos large]
        exact iff_of_false (by simp) (by omega)
      · by_cases other : number < 0 ∨ 65535 < number
        · rw [if_neg large, if_pos other]
          exact iff_of_false (by simp [DEATH]) (by omega)
        · rw [if_neg large, if_neg other]
          exact iff_of_true ⟨_, rfl⟩ (by omega)

/-- The part of an endpoint that is read as its port. -/
def portOf (argument : Text) : Option Text :=
  match find argument (byteOf ':') with
  | none => none
  | some pos => if pos + 1 = argument.length then none else some (argument.drop (pos + 1))

def before (port : Option Text) (texts : List Text) : List Text :=
  match port with
  | none => []
  | some text => text :: texts

/-- The texts that are read as ports one after another, as long as each of them is one
and nothing else is wrong in front of it. -/
def portTexts (side_selected is_client : Bool) : List Text → List Text
  | [] => []
  | option :: arguments =>
      if option = ascii "--server" ∨ option = ascii "-s" then portTexts true false arguments
      else if option = ascii "--client" ∨ option = ascii "-c" then portTexts true true arguments
      else if option = ascii "--verbose" then portTexts side_selected is_client arguments
      else if !side_selected then []
      else match arguments with
        | [] => []
        | argument :: arguments =>
            if option = ascii "--udpiface" ∨ option = ascii "-i" then
              portTexts side_selected is_client arguments
            else if option = ascii "--tcpiface" ∨ option = ascii "-j" then
              portTexts side_selected is_client arguments
            else if option = ascii "--udpgroup" ∨ option = ascii "-u" then
              before (portOf argument) (portTexts side_selected is_client arguments)
            else if option = ascii "--tcpsrv" ∨ option = ascii "-t" then
              before (if is_client then portOf argument else some argument)
                (portTexts side_selected is_client arguments)
            else []

private theorem portTexts_cons (side_selected is_client : Bool) (option : Text) (arguments : List Text) :
    portTexts side_selected is_client (option :: arguments) =
      if option = ascii "--server" ∨ option = ascii "-s" then portTexts true false arguments
      else if option = ascii "--client" ∨ option = ascii "-c" then portTexts true true arguments
      else if option = ascii "--verbose" then portTexts side_selected is_client arguments
      else if !side_selected then []
      else match arguments with
        | [] => []
        | argument :: arguments =>
            if option = ascii "--udpiface" ∨ option = ascii "-i" then
              portTexts side_selected is_client arguments
            else if option = ascii "--tcpiface" ∨ option = ascii "-j" then
              portTexts side_selected is_client arguments
            else if option = ascii "--udpgroup" ∨ option = ascii "-u" then
              before (portOf argument) (portTexts side_selected is_client arguments)
            else if option = ascii "--tcpsrv" ∨ option = ascii "-t" then
              before (if is_client then portOf argument else some argument)
                (portTexts side_selected is_client arguments)
            else [] := by
  rw [portTexts.eq_def]

/-- A text whose number exceeds an `int`, behind nothing but ports. -/
def Overflows : List Text → Prop
  | [] => False
  | text :: texts => ExceedsInt text ∨ StartsWithPort text ∧ Overflows texts

private theorem getIpAndPort_eq (argument : Text) : getIpAndPort argument = match portOf argument with
    | none => DEATH (ascii "Invalid ip-port argument '" ++ c_str argument ++ ascii "'.")
    | some text => do
        let port ← getPort text
        return (argument.takeWhile (· ≠ byteOf ':'), port) := by
  unfold getIpAndPort portOf
  cases found : find argument (byteOf ':') with
  | none => rfl
  | some pos =>
      obtain ⟨front, back, rfl, clean, rfl⟩ := find_eq_some.mp found
      have address : (front ++ byteOf ':' :: back).takeWhile (· ≠ byteOf ':') = front := by
        have passed : ∀ byte ∈ front, decide (byte ≠ byteOf ':') = true := by
          intro byte inside
          exact decide_eq_true fun same => clean (same ▸ inside)
        rw [List.takeWhile_append_of_pos passed, List.takeWhile_cons_of_neg (by simp), List.append_nil]
      dsimp only
      rw [address, List.take_left]
      split_ifs <;> rfl

private theorem bind_uncaught_iff {First Last : Type} {source : Except CommandLineFailure First}
    {continuation : First → Except CommandLineFailure Last} :
    source >>= continuation = .error .uncaught ↔
      source = .error .uncaught ∨ ∃ first, source = .ok first ∧ continuation first = .error .uncaught := by
  cases source with
  | error failure => simp [bind, Except.bind]
  | ok first => simp [bind, Except.bind]

/-- An option that reads a port fails where the port does, and goes on where it does not. -/
theorem port_bind_uncaught_iff {Last : Type} {text : Text}
    {continuation : UInt16 → Except CommandLineFailure Last} {rest : Prop}
    (goesOn : ∀ port, continuation port = .error .uncaught ↔ rest) :
    (getPort text >>= continuation = .error .uncaught) ↔ ExceedsInt text ∨ StartsWithPort text ∧ rest := by
  rw [bind_uncaught_iff, getPort_uncaught_iff, ← getPort_ok_iff]
  simp only [goesOn]
  constructor
  · intro held
    rcases held with exceeds | ⟨port, read, holds⟩
    · exact .inl exceeds
    · exact .inr ⟨⟨port, read⟩, holds⟩
  · intro held
    rcases held with exceeds | ⟨⟨port, read⟩, holds⟩
    · exact .inl exceeds
    · exact .inr ⟨port, read, holds⟩

private theorem endpoint_uncaught_iff {Last : Type} {argument : Text}
    {continuation : Text × UInt16 → Except CommandLineFailure Last} {texts : List Text}
    (goesOn : ∀ endpoint, continuation endpoint = .error .uncaught ↔ Overflows texts) :
    (getIpAndPort argument >>= continuation = .error .uncaught) ↔
      Overflows (before (portOf argument) texts) := by
  rw [getIpAndPort_eq]
  cases portOf argument with
  | none => simp [before, Overflows, DEATH, bind, Except.bind]
  | some text =>
      simp only [before, Overflows, bind_assoc, pure_bind]
      exact port_bind_uncaught_iff fun port => goesOn _

private theorem readOptions_uncaught_iff {side_selected : Bool} {cfg : Config} {arguments : List Text} :
    CommandLine.readOptions side_selected cfg arguments = .error .uncaught ↔
      Overflows (portTexts side_selected cfg.is_client_ arguments) := by
  fun_induction CommandLine.readOptions side_selected cfg arguments with
  | case1 => simp [portTexts, Overflows]
  | case2 side_selected cfg option arguments server ih =>
      rw [ih, portTexts_cons, if_pos server]
  | case3 side_selected cfg option arguments server client ih =>
      rw [ih, portTexts_cons, if_neg server, if_pos client]
  | case4 side_selected cfg arguments server client ih =>
      rw [ih, portTexts_cons, if_neg server, if_neg client, if_pos rfl]
  | case5 side_selected cfg option arguments server client verbose unselected =>
      rw [portTexts_cons, if_neg server, if_neg client, if_neg verbose, if_pos unselected]
      simp [DEATH, Overflows]
  | case6 side_selected cfg option server client verbose selected =>
      rw [portTexts_cons, if_neg server, if_neg client, if_neg verbose, if_neg selected]
      simp [DEATH, Overflows]
  | case7 side_selected cfg option server client verbose selected argument arguments ih =>
      rw [portTexts_cons, if_neg server, if_neg client, if_neg verbose, if_neg selected]
      dsimp only
      unfold CommandLine.readOption
      by_cases udpiface : option = ascii "--udpiface" ∨ option = ascii "-i"
      · rw [if_pos udpiface, if_pos udpiface]
        exact ih _
      · rw [if_neg udpiface, if_neg udpiface]
        by_cases tcpiface : option = ascii "--tcpiface" ∨ option = ascii "-j"
        · rw [if_pos tcpiface, if_pos tcpiface]
          exact ih _
        · rw [if_neg tcpiface, if_neg tcpiface]
          by_cases udpgroup : option = ascii "--udpgroup" ∨ option = ascii "-u"
          · rw [if_pos udpgroup, if_pos udpgroup, bind_assoc]
            exact endpoint_uncaught_iff fun endpoint => ih _
          · rw [if_neg udpgroup, if_neg udpgroup]
            by_cases tcpsrv : option = ascii "--tcpsrv" ∨ option = ascii "-t"
            · rw [if_pos tcpsrv, if_pos tcpsrv]
              cases side : cfg.is_client_ with
              | true =>
                  simp only [if_true, bind_assoc]
                  exact endpoint_uncaught_iff fun endpoint => side ▸ ih _
              | false =>
                  simp only [Bool.false_eq_true, if_false, bind_assoc]
                  exact port_bind_uncaught_iff fun port => side ▸ ih _
            · rw [if_neg tcpsrv, if_neg tcpsrv]
              simp [DEATH, Overflows, bind, Except.bind]

/-- The ends that the caller provides for: a config that is complete, one that is not,
and `DEATH`. -/
def ProvidedFor (outcome : Except CommandLineFailure (Bool × Config)) : Prop :=
  (∃ cfg, outcome = .ok (true, cfg) ∧ cfg.isComplete = true) ∨ (∃ cfg, outcome = .ok (false, cfg)) ∨
    ∃ message, outcome = .error (.death message)

theorem parseCommandLineConfig_providedFor_iff (argv : List Text) (cfg : Config) :
    ProvidedFor (parseCommandLineConfig argv cfg) ↔
      ¬ Overflows (portTexts false cfg.is_client_ argv.tail) := by
  have uncaught := @readOptions_uncaught_iff false { cfg with use_clt_grp_ := true } argv.tail
  dsimp only at uncaught
  rw [← uncaught]
  unfold parseCommandLineConfig
  cases CommandLine.readOptions false { cfg with use_clt_grp_ := true } argv.tail with
  | error failure =>
      cases failure with
      | death message => exact iff_of_true (.inr (.inr ⟨message, rfl⟩)) (by simp)
      | uncaught =>
          refine iff_of_false ?_ (by simp)
          rintro (⟨_, same, _⟩ | ⟨_, same⟩ | ⟨_, same⟩) <;> cases same
  | ok read =>
      refine iff_of_true ?_ (by simp)
      cases complete : read.isComplete with
      | true => exact .inl ⟨read, by simp [bind, Except.bind, complete]; rfl, complete⟩
      | false => exact .inr (.inl ⟨read, by simp [bind, Except.bind, complete]; rfl⟩)

/-- A server with a listen port that is too large for an `int`. -/
theorem largePort_uncaught : ¬ ProvidedFor (parseCommandLineConfig
    [ascii "dgramtunneler", ascii "--server", ascii "-t", ascii "99999999999"] {}) := by
  have escapes : parseCommandLineConfig
      [ascii "dgramtunneler", ascii "--server", ascii "-t", ascii "99999999999"] {} = .error .uncaught := by
    decide
  rw [escapes]
  rintro (⟨_, same, _⟩ | ⟨_, same⟩ | ⟨_, same⟩) <;> cases same

end DatagramTunneler
