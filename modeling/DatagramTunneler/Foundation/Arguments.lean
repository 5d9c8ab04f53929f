import DatagramTunneler.Foundation.Fallible

/-! Arguments of a command, read from left to right. An argument takes effect by
itself, or it is an option that takes the argument behind it for its value. Reading
succeeds exactly if the arguments are such words, one behind the other, and each of
them takes effect; of the words that set a field the last one counts. -/

set_option autoImplicit false

namespace Foundation

inductive ArgumentWord (Argument : Type) where
  | alone (argument : Argument)
  | valued (option value : Argument)
  deriving DecidableEq, Repr

def ArgumentWord.arguments {Argument : Type} : ArgumentWord Argument → List Argument
  | .alone argument => [argument]
  | .valued option value => [option, value]

/-- What a command does with its arguments: which of them take a value, what it says of
one that has none, and what a word does. -/
structure ArgumentReader (Argument State Error : Type) where
  takesValue : Argument → Bool
  missing : Argument → Error
  apply : State → ArgumentWord Argument → Except Error State

namespace ArgumentReader

variable {Argument State Error : Type} (reader : ArgumentReader Argument State Error)

/-- The loop over the arguments. -/
def read (state : State) : List Argument → Except Error State
  | [] => .ok state
  | argument :: rest =>
      if reader.takesValue argument then
        match rest with
        | [] => .error (reader.missing argument)
        | value :: rest => do
            let state ← reader.apply state (.valued argument value)
            read state rest
      else do
        let state ← reader.apply state (.alone argument)
        read state rest

/-- A word where it is read as one. -/
def Fits : ArgumentWord Argument → Prop
  | .alone argument => reader.takesValue argument = false
  | .valued option _ => reader.takesValue option = true

/-- The arguments as words. -/
structure Spells (words : List (ArgumentWord Argument)) (arguments : List Argument) : Prop where
  fits : ∀ word ∈ words, reader.Fits word
  arguments : words.flatMap ArgumentWord.arguments = arguments

variable {reader} {words : List (ArgumentWord Argument)} {arguments : List Argument}
  {word : ArgumentWord Argument} {state final : State} {error : Error}

theorem Spells.cons (fits : reader.Fits word) (spells : reader.Spells words arguments) :
    reader.Spells (word :: words) (word.arguments ++ arguments) where
  fits := List.forall_mem_cons.mpr ⟨fits, spells.fits⟩
  arguments := by rw [List.flatMap_cons, spells.arguments]

private theorem read_cons (fits : reader.Fits word) (arguments : List Argument) :
    reader.read state (word.arguments ++ arguments) =
      (reader.apply state word >>= fun state => reader.read state arguments) := by
  cases word with
  | alone argument =>
      have bare : ¬ reader.takesValue argument = true := Bool.eq_false_iff.mp fits
      rw [ArgumentWord.arguments, List.singleton_append, read.eq_def]
      simp only [if_neg bare]
  | valued option value =>
      have takes : reader.takesValue option = true := fits
      rw [ArgumentWord.arguments, List.cons_append, List.singleton_append, read.eq_def]
      simp only [if_pos takes]

/-- Arguments that are words are read word by word. -/
theorem Spells.read (spells : reader.Spells words arguments) (state : State) :
    reader.read state arguments = words.foldlM reader.apply state := by
  obtain ⟨fits, rfl⟩ := spells
  induction words generalizing state with
  | nil => rfl
  | cons word words ih =>
      rw [List.forall_mem_cons] at fits
      rw [List.flatMap_cons, read_cons fits.1, List.foldlM_cons]
      exact congrArg _ (funext fun next => ih next fits.2)

end ArgumentReader

/-! ## Operands and values -/

section

variable {Argument Value : Type}

def ArgumentWord.operand? : ArgumentWord Argument → Option Argument
  | .alone argument => some argument
  | .valued _ _ => none

def operandsOf (words : List (ArgumentWord Argument)) : List Argument :=
  words.filterMap ArgumentWord.operand?

variable {option name value argument : Argument} {words : List (ArgumentWord Argument)}

@[simp] theorem operandsOf_alone :
    operandsOf (.alone argument :: words) = argument :: operandsOf words := rfl

@[simp] theorem operandsOf_valued : operandsOf (.valued name value :: words) = operandsOf words := rfl

variable [DecidableEq Argument]

def ArgumentWord.value? (option : Argument) : ArgumentWord Argument → Option Argument
  | .alone _ => none
  | .valued name value => if name = option then some value else none

/-- The values that an option is given, one after another. -/
def valuesGiven (option : Argument) (words : List (ArgumentWord Argument)) : List Argument :=
  words.filterMap (·.value? option)

/-- The value an option has in the end. -/
def lastOf (read : Argument → Value) (option : Argument) (words : List (ArgumentWord Argument))
    (default_ : Value) : Value :=
  ((valuesGiven option words).getLast?.map read).getD default_

@[simp] theorem valuesGiven_alone :
    valuesGiven option (.alone argument :: words) = valuesGiven option words := rfl

@[simp] theorem valuesGiven_valued : valuesGiven option (.valued name value :: words) =
    if name = option then value :: valuesGiven option words else valuesGiven option words := by
  unfold valuesGiven
  split_ifs with same
  · exact List.filterMap_cons_some (if_pos same)
  · exact List.filterMap_cons_none (if_neg same)

variable {read : Argument → Value} {default_ : Value}

@[simp] theorem lastOf_alone :
    lastOf read option (.alone argument :: words) default_ = lastOf read option words default_ := rfl

/-- A value stands until there is a later one. -/
@[simp] theorem lastOf_valued : lastOf read option (.valued name value :: words) default_ =
    lastOf read option words (if name = option then read value else default_) := by
  unfold lastOf
  rw [valuesGiven_valued]
  split_ifs
  · cases words_ : (valuesGiven option words).getLast? <;> simp [List.getLast?_cons, words_]
  · rfl

/-- The arguments that stand for themselves, where each of these options has the argument behind
it for its value. -/
def standing (valued : List Argument) : List Argument → List Argument
  | [] => []
  | argument :: rest =>
      if argument ∈ valued then
        match rest with
        | [] => []
        | _ :: rest => standing valued rest
      else argument :: standing valued rest

theorem standing_alone {valued arguments : List Argument} (bare : argument ∉ valued) :
    standing valued (argument :: arguments) = argument :: standing valued arguments := by
  rw [standing.eq_def]
  exact if_neg bare

theorem standing_valued {valued arguments : List Argument} {value : Argument} (takes : argument ∈ valued) :
    standing valued (argument :: value :: arguments) = standing valued arguments := by
  rw [standing.eq_def]
  exact if_pos takes

/-- A word where these options are all that have values. -/
def ArgumentWord.Among (valued : List Argument) : ArgumentWord Argument → Prop
  | .alone argument => argument ∉ valued
  | .valued option _ => option ∈ valued

theorem standing_arguments {valued : List Argument} (among : ∀ word ∈ words, word.Among valued) :
    standing valued (words.flatMap ArgumentWord.arguments) = operandsOf words := by
  induction words with
  | nil => rfl
  | cons word words ih =>
      rw [List.forall_mem_cons] at among
      have later := ih among.2
      cases word with
      | alone argument =>
          have bare : argument ∉ valued := among.1
          rw [List.flatMap_cons, ArgumentWord.arguments, List.singleton_append, standing_alone bare, later,
            operandsOf_alone]
      | valued option value =>
          have takes : option ∈ valued := among.1
          rw [List.flatMap_cons, ArgumentWord.arguments, List.cons_append, List.singleton_append,
            standing_valued takes, later, operandsOf_valued]

/-- Where the options are those of the reader, these are the operands. -/
theorem ArgumentReader.Spells.standing {State Error : Type} {reader : ArgumentReader Argument State Error}
    {arguments valued : List Argument} (spells : reader.Spells words arguments)
    (options : ∀ argument, reader.takesValue argument = true ↔ argument ∈ valued) :
    standing valued arguments = operandsOf words := by
  obtain ⟨fits, rfl⟩ := spells
  refine standing_arguments fun word listed => ?_
  have fit := fits word listed
  cases word with
  | alone argument =>
      intro inside
      rw [ArgumentReader.Fits, (options argument).mpr inside] at fit
      cases fit
  | valued option value => exact (options option).mp fit

end

end Foundation
