import Mathlib.Data.List.Basic
import Mathlib.Data.List.Induction

/-! How a POSIX shell splits one command line into words: blanks separate, quotes
and backslashes are removed, a word that begins with `#` begins a comment. Where
the words depend on more than the line (an operator, an expansion, a pattern, an
open quote, a second line) there is no answer. -/

set_option autoImplicit false

namespace Foundation

abbrev ShellWord := List UInt8

inductive Quote where
  | bare
  | escaped
  | single
  | double
  | doubleEscaped
  deriving DecidableEq, Repr

/-- Inside quotes. -/
def Quote.Open (quote : Quote) : Prop := quote = .single ∨ quote = .double ∨ quote = .doubleEscaped

structure ShellReader where
  words : List ShellWord := []
  /-- The word being read. -/
  word : Option ShellWord := none
  quote : Quote := .bare
  commented : Bool := false
  deriving DecidableEq, Repr

namespace ShellReader

def isBlank (byte : UInt8) : Bool := byte == 0x20 || byte == 0x09

def singleQuote : UInt8 := 0x27
def doubleQuote : UInt8 := 0x22
def backslash : UInt8 := 0x5c
def numberSign : UInt8 := 0x23
def tilde : UInt8 := 0x7e

/-- Neither may stand in a command line: NUL and the newline. -/
def endsLine (byte : UInt8) : Bool := byte == 0 || byte == 0x0a

/-- Outside quotes: the operators, `$`, the backquote, and the characters of patterns. An open
bracket counts as one of these even where nothing closes it, and it would stand for itself. -/
def isActive (byte : UInt8) : Bool :=
  [0x7c, 0x26, 0x3b, 0x3c, 0x3e, 0x28, 0x29, 0x24, 0x60, 0x2a, 0x3f, 0x5b].contains byte

/-- A byte that stands for itself outside quotes, inside a word at least. -/
def isOrdinary (byte : UInt8) : Bool :=
  !(isBlank byte || endsLine byte || isActive byte || byte == singleQuote || byte == doubleQuote ||
    byte == backslash)

def push (reader : ShellReader) (bytes : ShellWord) (quote : Quote) : ShellReader :=
  { reader with word := some (reader.word.getD [] ++ bytes), quote := quote }

def close (reader : ShellReader) : ShellReader :=
  match reader.word with
  | none => reader
  | some word => { reader with words := reader.words ++ [word], word := none }

def readBare (reader : ShellReader) (byte : UInt8) : Option ShellReader :=
  if isBlank byte then some reader.close
  else if byte == singleQuote then some (reader.push [] .single)
  else if byte == doubleQuote then some (reader.push [] .double)
  else if byte == backslash then some (reader.push [] .escaped)
  else if isActive byte then none
  else if reader.word = none ∧ byte = numberSign then some { reader with commented := true }
  else if reader.word = none ∧ byte = tilde then none
  else some (reader.push [byte] .bare)

def read (reader : ShellReader) (byte : UInt8) : Option ShellReader :=
  if endsLine byte then none
  else if reader.commented then some reader
  else match reader.quote with
    | .bare => reader.readBare byte
    | .escaped => some (reader.push [byte] .bare)
    | .single =>
        if byte == singleQuote then some (reader.push [] .bare) else some (reader.push [byte] .single)
    | .double =>
        if byte == doubleQuote then some (reader.push [] .bare)
        else if byte == backslash then some (reader.push [] .doubleEscaped)
        else if byte == 0x24 || byte == 0x60 then none
        else some (reader.push [byte] .double)
    | .doubleEscaped =>
        if byte == 0x24 || byte == 0x60 || byte == doubleQuote || byte == backslash then
          some (reader.push [byte] .double)
        else some (reader.push [backslash, byte] .double)

def finish (reader : ShellReader) : Option (List ShellWord) :=
  if reader.quote = .bare then some reader.close.words else none

end ShellReader

def shellWords (line : List UInt8) : Option (List ShellWord) :=
  (line.foldlM ShellReader.read {}).bind ShellReader.finish

/-- A word that the shell passes on as it is. -/
structure PlainWord (word : ShellWord) : Prop where
  nonempty : word ≠ []
  ordinary : ∀ byte ∈ word, ShellReader.isOrdinary byte = true
  front : word.head? ≠ some ShellReader.numberSign ∧ word.head? ≠ some ShellReader.tilde

instance (word : ShellWord) : Decidable (PlainWord word) :=
  decidable_of_iff (word ≠ [] ∧ word.all ShellReader.isOrdinary = true ∧
      (word.head? ≠ some ShellReader.numberSign ∧ word.head? ≠ some ShellReader.tilde))
    ⟨fun holds => ⟨holds.1, List.all_eq_true.mp holds.2.1, holds.2.2⟩,
      fun plain => ⟨plain.nonempty, List.all_eq_true.mpr plain.ordinary, plain.front⟩⟩

/-- More words behind a blank each. -/
def spaced (words : List ShellWord) : List UInt8 := words.flatMap fun word => 0x20 :: word

namespace ShellReader

variable {reader next : ShellReader} {byte : UInt8}

private theorem of_isOrdinary (ordinary : isOrdinary byte = true) :
    isBlank byte = false ∧ endsLine byte = false ∧ isActive byte = false ∧
      byte ≠ singleQuote ∧ byte ≠ doubleQuote ∧ byte ≠ backslash := by
  simpa [isOrdinary, and_assoc] using ordinary

/-- In front of or inside a word, an ordinary byte is added to it. -/
theorem read_ordinary (ordinary : isOrdinary byte = true) (bare : reader.quote = .bare)
    (outside : reader.commented = false)
    (front : reader.word = none → byte ≠ numberSign ∧ byte ≠ tilde) :
    reader.read byte = some (reader.push [byte] .bare) := by
  obtain ⟨blank, line, active, single, double, slash⟩ := of_isOrdinary ordinary
  have noComment : ¬ (reader.word = none ∧ byte = numberSign) := fun both => (front both.1).1 both.2
  have noTilde : ¬ (reader.word = none ∧ byte = tilde) := fun both => (front both.1).2 both.2
  simp [read, readBare, line, outside, bare, blank, active, single, double, slash, noComment, noTilde]

theorem read_blank (blank : isBlank byte = true) (bare : reader.quote = .bare)
    (outside : reader.commented = false) : reader.read byte = some reader.close := by
  have line : endsLine byte = false := by
    rcases (by simpa [isBlank] using blank : byte = 0x20 ∨ byte = 0x09) with rfl | rfl <;> rfl
  simp [read, readBare, line, outside, bare, blank]

private theorem foldlM_ordinary {front : List ShellWord} {word rest : ShellWord}
    (ordinary : ∀ byte ∈ rest, isOrdinary byte = true) :
    rest.foldlM read ⟨front, some word, .bare, false⟩ =
      some ⟨front, some (word ++ rest), .bare, false⟩ := by
  induction rest generalizing word with
  | nil => simp
  | cons byte rest ih =>
      have here := ordinary byte (List.mem_cons_self ..)
      rw [List.foldlM_cons, read_ordinary here rfl rfl (by simp)]
      exact (ih fun byte inside => ordinary byte (List.mem_cons_of_mem _ inside)).trans (by simp)

private theorem foldlM_plain {front : List ShellWord} {word : ShellWord} (plain : PlainWord word) :
    word.foldlM read ⟨front, none, .bare, false⟩ = some ⟨front, some word, .bare, false⟩ := by
  obtain ⟨byte, rest, rfl⟩ := List.exists_cons_of_ne_nil plain.nonempty
  have sign : byte ≠ numberSign := fun same => plain.front.1 (congrArg some same)
  have tilde : byte ≠ ShellReader.tilde := fun same => plain.front.2 (congrArg some same)
  rw [List.foldlM_cons, read_ordinary (plain.ordinary byte (List.mem_cons_self ..)) rfl rfl
    (fun _ => ⟨sign, tilde⟩)]
  exact foldlM_ordinary fun byte inside => plain.ordinary byte (List.mem_cons_of_mem _ inside)

private theorem foldlM_spaced {front words : List ShellWord} {word : ShellWord}
    (plain : ∀ word ∈ words, PlainWord word) :
    ∃ earlier last, (spaced words).foldlM read ⟨front, some word, .bare, false⟩ =
        some ⟨earlier, some last, .bare, false⟩ ∧
      earlier ++ [last] = front ++ word :: words := by
  induction words generalizing front word with
  | nil => exact ⟨front, word, rfl, rfl⟩
  | cons next words ih =>
      have opened : (0x20 :: next).foldlM read ⟨front, some word, .bare, false⟩ =
          some ⟨front ++ [word], some next, .bare, false⟩ := by
        rw [List.foldlM_cons, read_blank rfl rfl rfl]
        exact foldlM_plain (plain next (List.mem_cons_self ..))
      obtain ⟨earlier, last, ran, same⟩ := @ih (front ++ [word]) next
        fun word inside => plain word (List.mem_cons_of_mem _ inside)
      refine ⟨earlier, last, ?_, by simp [same]⟩
      rw [spaced, List.flatMap_cons, List.foldlM_append, opened]
      exact ran

end ShellReader

/-- Plain words come back as they were. -/
theorem shellWords_spaced {word : ShellWord} {words : List ShellWord} (first : PlainWord word)
    (plain : ∀ word ∈ words, PlainWord word) :
    shellWords (word ++ spaced words) = some (word :: words) := by
  obtain ⟨earlier, last, ran, same⟩ := @ShellReader.foldlM_spaced [] words word plain
  have whole : (word ++ spaced words).foldlM ShellReader.read {} =
      some ⟨earlier, some last, .bare, false⟩ := by
    rw [List.foldlM_append, ShellReader.foldlM_plain first]
    exact ran
  rw [shellWords, whole]
  exact congrArg some same

namespace ShellReader

variable {reader next : ShellReader} {byte : UInt8} {front : List ShellWord} {argument : ShellWord}

/-! ## What is not plain does not come back -/

/-- Bytes that a quote still owes to its word. -/
def pending : Quote → Nat
  | .doubleEscaped => 1
  | .bare | .escaped | .single | .double => 0

/-- What reading one byte can do. -/
inductive ReadStep (reader : ShellReader) (byte : UInt8) : ShellReader → Prop where
  | comment : reader.commented = true → ReadStep reader byte reader
  | closed : reader.commented = false → reader.quote = .bare → ReadStep reader byte reader.close
  | opened {quote : Quote} : reader.commented = false → reader.quote = .bare → pending quote = 0 →
      (quote = .escaped → byte = backslash) → ReadStep reader byte (reader.push [] quote)
  | begun : reader.quote = .bare → reader.word = none →
      ReadStep reader byte { reader with commented := true }
  | ordinary : reader.commented = false → reader.quote = .bare → isOrdinary byte = true →
      (reader.word = none → byte ≠ numberSign ∧ byte ≠ tilde) →
      ReadStep reader byte (reader.push [byte] .bare)
  | quoted {bytes : ShellWord} {quote : Quote} : reader.commented = false → reader.quote ≠ .bare →
      bytes.length + pending quote ≤ pending reader.quote + 1 → quote ≠ .escaped →
      ReadStep reader byte (reader.push bytes quote)

private theorem readStep_of_readBare (line : endsLine byte = false) (outside : reader.commented = false)
    (bare : reader.quote = .bare) (stepped : reader.readBare byte = some next) :
    ReadStep reader byte next := by
  unfold readBare at stepped
  split_ifs at stepped with blank single double slash active sign home
  · cases stepped
    exact .closed outside bare
  · cases stepped
    exact .opened outside bare rfl (by simp)
  · cases stepped
    exact .opened outside bare rfl (by simp)
  · cases stepped
    exact .opened outside bare rfl fun _ => by simpa using slash
  · cases stepped
    exact .begun bare sign.1
  · cases stepped
    refine .ordinary outside bare ?_ fun none => ⟨fun same => sign ⟨none, same⟩,
      fun same => home ⟨none, same⟩⟩
    simp_all [isOrdinary]

private theorem readStep_of_read (stepped : reader.read byte = some next) : ReadStep reader byte next := by
  unfold ShellReader.read at stepped
  cases line : endsLine byte with
  | true => simp [line] at stepped
  | false =>
      cases outside : reader.commented with
      | true =>
          simp only [line, outside, if_true, if_false, Bool.false_eq_true] at stepped
          cases stepped
          exact .comment outside
      | false =>
          simp only [line, outside, if_false, Bool.false_eq_true] at stepped
          cases quote : reader.quote with
          | bare =>
              rw [quote] at stepped
              exact readStep_of_readBare line outside quote stepped
          | escaped =>
              rw [quote] at stepped
              cases stepped
              exact .quoted outside (by simp [quote]) (by simp [pending]) (by simp)
          | single | double | doubleEscaped =>
              simp only [quote] at stepped
              split_ifs at stepped
              all_goals
                cases stepped
                exact .quoted outside (by simp [quote]) (by simp [pending, quote]) (by simp)

/-- Fewer bytes have gone into any word than have been read of the argument. -/
structure Lost (front : List ShellWord) (argument : ShellWord) (reader : ShellReader) : Prop where
  closed : ∃ closed, reader.words = front ++ closed ∧ ∀ word ∈ closed, word.length < argument.length
  short : (reader.word.getD []).length + pending reader.quote < argument.length
  escaped : reader.quote = .escaped → argument.getLast? = some backslash
  commented : reader.commented = true → reader.quote = .bare

theorem Lost.push (lost : Lost front argument reader) {bytes : ShellWord} {quote : Quote}
    (inside : reader.commented = false)
    (room : (reader.word.getD []).length + bytes.length + pending quote ≤ argument.length)
    (escaped : quote = .escaped → byte = backslash) :
    Lost front (argument ++ [byte]) (reader.push bytes quote) := by
  obtain ⟨closed, words, bound⟩ := lost.closed
  exact {
    closed := ⟨closed, words, fun word inside => by
      have less := bound word inside
      rw [List.length_append]
      omega⟩
    short := by
      simp only [ShellReader.push, Option.getD_some, List.length_append, List.length_singleton]
      omega
    escaped := fun here => by rw [escaped here]; simp
    commented := fun here => by simp [ShellReader.push, inside] at here }

theorem Lost.close (lost : Lost front argument reader) (bare : reader.quote = .bare) :
    Lost front (argument ++ [byte]) reader.close := by
  obtain ⟨closed, words, bound⟩ := lost.closed
  have short := lost.short
  rw [bare] at short
  cases here : reader.word with
  | none =>
      have same : reader.close = reader := by simp [ShellReader.close, here]
      rw [same]
      exact {
        closed := ⟨closed, words, fun word inside => by
          have less := bound word inside
          rw [List.length_append]
          omega⟩
        short := by simp [here, bare, pending]
        escaped := fun escaped => by simp [bare] at escaped
        commented := fun _ => bare }
  | some last =>
      have same : reader.close = { reader with words := reader.words ++ [last], word := none } := by
        simp [ShellReader.close, here]
      rw [same]
      rw [here] at short
      exact {
        closed := by
          refine ⟨closed ++ [last], by simp [words], fun word inside => ?_⟩
          rcases List.mem_append.mp inside with inside | inside
          · have less := bound word inside
            rw [List.length_append]
            omega
          · rw [List.mem_singleton.mp inside, List.length_append]
            exact Nat.lt_of_lt_of_le (Nat.lt_of_le_of_lt (Nat.le_add_right _ _) short)
              (Nat.le_add_right _ _)
        short := by simp [bare, pending]
        escaped := fun escaped => by simp [bare] at escaped
        commented := fun _ => bare }

/-- Reading on never makes up for a lost byte. -/
theorem Lost.read (lost : Lost front argument reader) (stepped : reader.read byte = some next) :
    Lost front (argument ++ [byte]) next := by
  have short := lost.short
  cases readStep_of_read stepped with
  | comment inside =>
      obtain ⟨closed, words, bound⟩ := lost.closed
      have bare := lost.commented inside
      exact {
        closed := ⟨closed, words, fun word inside => by
          have less := bound word inside
          rw [List.length_append]
          omega⟩
        short := by rw [List.length_append]; omega
        escaped := fun escaped => by simp [bare] at escaped
        commented := lost.commented }
  | closed outside bare => exact lost.close bare
  | opened outside bare owes escaped =>
      rw [bare] at short
      exact lost.push outside (by rw [owes]; simp only [pending, List.length_nil] at short ⊢; omega) escaped
  | begun bare none =>
      obtain ⟨closed, words, bound⟩ := lost.closed
      exact {
        closed := ⟨closed, words, fun word inside => by
          have less := bound word inside
          rw [List.length_append]
          omega⟩
        short := by
          rw [List.length_append]
          exact Nat.lt_add_right _ short
        escaped := fun escaped => by simp [bare] at escaped
        commented := fun _ => bare }
  | ordinary outside bare =>
      rw [bare] at short
      exact lost.push outside (by simp only [pending, List.length_singleton] at short ⊢; omega)
        (by simp)
  | quoted outside _ fits unescaped =>
      exact lost.push outside (by omega) fun escaped => absurd escaped unescaped

/-- Until something is lost, what has been read is the word. -/
structure Kept (front : List ShellWord) (argument : ShellWord) (reader : ShellReader) : Prop where
  state : reader = ⟨front, if argument = [] then none else some argument, .bare, false⟩
  ordinary : ∀ byte ∈ argument, isOrdinary byte = true
  head : argument.head? ≠ some numberSign ∧ argument.head? ≠ some tilde

theorem Kept.read (kept : Kept front argument reader) (stepped : reader.read byte = some next) :
    Kept front (argument ++ [byte]) next ∨ Lost front (argument ++ [byte]) next := by
  obtain ⟨rfl, ordinary, head⟩ := kept
  have size : ((if argument = [] then none else some argument : Option ShellWord).getD []).length =
      argument.length := by
    split
    · next empty => rw [empty]; rfl
    · rfl
  cases readStep_of_read stepped with
  | comment inside => cases inside
  | quoted _ quoted => exact absurd rfl quoted
  | closed =>
      right
      by_cases empty : argument = []
      · subst empty
        exact ⟨⟨[], by simp [ShellReader.close], by simp⟩, by simp [ShellReader.close, pending],
          by simp [ShellReader.close], by simp [ShellReader.close]⟩
      · simp only [if_neg empty, ShellReader.close]
        exact ⟨⟨[argument], rfl, by simp⟩, by simp [pending], by simp, by simp⟩
  | opened outside bare owes escaped =>
      right
      refine ⟨⟨[], by simp [ShellReader.push], by simp⟩, ?_, ?_, by simp [ShellReader.push]⟩
      · simp only [ShellReader.push, Option.getD_some, List.append_nil, owes, size]
        simp
      · intro here
        rw [escaped here]
        simp
  | begun bare none =>
      right
      refine ⟨⟨[], by simp, by simp⟩, ?_, by simp, by simp⟩
      simp only [size, pending]
      simp
  | ordinary outside bare here first =>
      left
      refine ⟨?_, ?_, ?_⟩
      · by_cases empty : argument = [] <;> simp [ShellReader.push, empty]
      · intro other inside
        rcases List.mem_append.mp inside with inside | inside
        · exact ordinary other inside
        · rw [List.mem_singleton.mp inside]
          exact here
      · cases argument with
        | nil =>
            have apart := first rfl
            simpa using apart
        | cons initial rest => exact head

private theorem kept_or_lost (ran : argument.foldlM ShellReader.read ⟨front, none, .bare, false⟩ = some reader) :
    Kept front argument reader ∨ Lost front argument reader := by
  induction argument using List.reverseRecOn generalizing reader with
  | nil =>
      cases ran
      exact .inl ⟨rfl, by simp, by simp⟩
  | append_singleton argument byte ih =>
      rw [List.foldlM_append] at ran
      obtain ⟨before, earlier, ran⟩ := Option.bind_eq_some_iff.mp ran
      have stepped : before.read byte = some reader := by simpa using ran
      rcases ih earlier with kept | lost
      · exact kept.read stepped
      · exact .inr (lost.read stepped)

/-- Every word there is so far is an earlier one or shorter than the argument. -/
theorem Lost.not_mem (lost : Lost front argument reader) (foreign : argument ∉ front) :
    argument ∉ reader.close.words := by
  obtain ⟨closed, words, bound⟩ := lost.closed
  have short := lost.short
  have finished : argument ∉ reader.words := by
    rw [words, List.mem_append, not_or]
    exact ⟨foreign, fun inside => Nat.lt_irrefl _ (bound argument inside)⟩
  unfold ShellReader.close
  split
  · exact finished
  · next word here =>
      rw [here] at short
      intro inside
      rcases List.mem_append.mp inside with inside | inside
      · exact finished inside
      · rw [← List.mem_singleton.mp inside] at short
        simp only [Option.getD_some] at short
        omega

private theorem foldlM_commented {bytes : List UInt8} (inside : reader.commented = true)
    (ran : bytes.foldlM ShellReader.read reader = some next) : next = reader := by
  induction bytes with
  | nil => cases ran; rfl
  | cons byte bytes ih =>
      rw [List.foldlM_cons] at ran
      obtain ⟨middle, stepped, ran⟩ := Option.bind_eq_some_iff.mp ran
      have same : middle = reader := by
        unfold ShellReader.read at stepped
        split_ifs at stepped
        exact (Option.some.inj stepped).symm
      exact ih (same ▸ ran)

/-- Without a quote a quoted text goes on. -/
theorem foldlM_open {bytes : List UInt8}
    (unquoted : ∀ byte ∈ bytes, byte ≠ singleQuote ∧ byte ≠ doubleQuote ∧ byte ≠ backslash)
    (outside : reader.commented = false) (quoted : reader.quote.Open)
    (ran : bytes.foldlM ShellReader.read reader = some next) : next.quote.Open := by
  induction bytes generalizing reader with
  | nil => cases ran; exact quoted
  | cons byte bytes ih =>
      rw [List.foldlM_cons] at ran
      obtain ⟨middle, stepped, ran⟩ := Option.bind_eq_some_iff.mp ran
      obtain ⟨single, double, slash⟩ := unquoted byte (List.mem_cons_self ..)
      have later := fun other inside => unquoted other (List.mem_cons_of_mem _ inside)
      have goes : middle.commented = false ∧ middle.quote.Open := by
        unfold ShellReader.read at stepped
        rcases quoted with here | here | here
        all_goals
          simp only [here, outside, single, double, slash, beq_iff_eq, if_false, Bool.false_eq_true]
            at stepped
          split_ifs at stepped
          all_goals
            cases stepped
            simp [ShellReader.push, outside, Quote.Open]
      exact ih later goes.1 goes.2 ran

private theorem close_eq (bare : reader.quote = .bare) (outside : reader.commented = false) :
    reader.close = ⟨reader.close.words, none, .bare, false⟩ := by
  obtain ⟨words, word, quote, commented⟩ := reader
  cases bare
  cases outside
  cases word <;> rfl

private theorem unquoted_spaced {back : List ShellWord} (plain : ∀ word ∈ back, PlainWord word) :
    ∀ byte ∈ spaced back, byte ≠ singleQuote ∧ byte ≠ doubleQuote ∧ byte ≠ backslash := by
  intro byte inside
  obtain ⟨word, listed, inside⟩ := List.mem_flatMap.mp inside
  rcases List.mem_cons.mp inside with rfl | inside
  · decide
  · exact (of_isOrdinary ((plain word listed).ordinary byte inside)).2.2.2

/-- The state behind a line whose last words are plain. -/
theorem close_of_spaced {front back : List ShellWord} {word : ShellWord}
    (plain : ∀ word ∈ back, PlainWord word)
    (ran : (spaced back).foldlM ShellReader.read ⟨front, some word, .bare, false⟩ = some next) :
    next.close.words = front ++ word :: back := by
  obtain ⟨earlier, last, known, same⟩ := @foldlM_spaced front back word plain
  cases ran.symm.trans known
  exact same

/-- A lost argument is no word of the whole line. -/
theorem Lost.not_mem_line (lost : Lost front argument reader) {back words : List ShellWord}
    (plain : ∀ word ∈ back, PlainWord word) (foreign : argument ∉ front) (unplain : argument ∉ back)
    (split : ((spaced back).foldlM ShellReader.read reader).bind finish = some words) :
    argument ∉ words := by
  obtain ⟨final, ran, finished⟩ := Option.bind_eq_some_iff.mp split
  have bare : final.quote = .bare := by
    unfold finish at finished
    split_ifs at finished with bare
    exact bare
  have listed : words = final.close.words := by
    rw [finish, if_pos bare] at finished
    exact (Option.some.inj finished).symm
  cases inside : reader.commented with
  | true =>
      rw [listed, foldlM_commented inside ran]
      exact lost.not_mem foreign
  | false =>
      cases quote : reader.quote with
      | bare =>
          cases back with
          | nil =>
              cases ran
              rw [listed]
              exact lost.not_mem foreign
          | cons word back =>
              have entered : (0x20 :: word).foldlM ShellReader.read reader =
                  some ⟨reader.close.words, some word, .bare, false⟩ := by
                rw [List.foldlM_cons, read_blank rfl quote inside, close_eq quote inside]
                exact foldlM_plain (plain word (List.mem_cons_self ..))
              rw [spaced, List.flatMap_cons, List.foldlM_append, entered] at ran
              have later := fun word inside => plain word (List.mem_cons_of_mem _ inside)
              rw [listed, close_of_spaced later ran, List.mem_append, not_or]
              exact ⟨lost.not_mem foreign, unplain⟩
      | escaped =>
          cases back with
          | nil =>
              cases ran
              rw [quote] at bare
              cases bare
          | cons word back =>
              have here := plain word (List.mem_cons_self ..)
              have entered : (0x20 :: word).foldlM ShellReader.read reader =
                  some ⟨reader.words, some (reader.word.getD [] ++ [0x20] ++ word), .bare, false⟩ := by
                have blank : reader.read 0x20 =
                    some ⟨reader.words, some (reader.word.getD [] ++ [0x20]), .bare, false⟩ := by
                  simp [ShellReader.read, endsLine, inside, quote, ShellReader.push]
                rw [List.foldlM_cons, blank]
                exact foldlM_ordinary here.ordinary
              rw [spaced, List.flatMap_cons, List.foldlM_append, entered] at ran
              have later := fun word inside => plain word (List.mem_cons_of_mem _ inside)
              rw [listed, close_of_spaced later ran, List.mem_append, not_or]
              constructor
              · intro finished
                obtain ⟨closed, words, bound⟩ := lost.closed
                rw [words] at finished
                rcases List.mem_append.mp finished with known | short
                · exact foreign known
                · exact Nat.lt_irrefl _ (bound argument short)
              · intro inside
                rcases List.mem_cons.mp inside with same | known
                · -- The argument ends in its backslash, the word it runs into does not.
                  have last := lost.escaped quote
                  rw [same, List.getLast?_append_of_ne_nil _ here.nonempty] at last
                  have ordinary := here.ordinary _ (List.mem_of_getLast? last)
                  cases ordinary
                · exact unplain (List.mem_cons_of_mem _ known)
      | single | double | doubleEscaped =>
          have still := foldlM_open (unquoted_spaced plain) inside (by simp [Quote.Open, quote]) ran
          rw [bare] at still
          simp [Quote.Open] at still

end ShellReader

/-- A command line is one line. -/
theorem endsLine_of_shellWords {line : List UInt8} {words : List ShellWord}
    (split : shellWords line = some words) : ∀ byte ∈ line, ShellReader.endsLine byte = false := by
  obtain ⟨reader, ran, -⟩ := Option.bind_eq_some_iff.mp split
  have reads : ∀ (line : List UInt8) (first last : ShellReader), line.foldlM ShellReader.read first = some last →
      ∀ byte ∈ line, ShellReader.endsLine byte = false := by
    intro line
    induction line with
    | nil => simp
    | cons head line ih =>
        intro first last ran byte inside
        rw [List.foldlM_cons] at ran
        obtain ⟨middle, stepped, ran⟩ := Option.bind_eq_some_iff.mp ran
        rcases List.mem_cons.mp inside with rfl | inside
        · unfold ShellReader.read at stepped
          split_ifs at stepped with ends
          all_goals simpa using ends
        · exact ih middle last ran byte inside
  exact reads line _ reader ran

/-- An argument between plain words comes back as a word only if it is plain. -/
theorem plainWord_of_mem {first argument : ShellWord} {front back words : List ShellWord}
    (before : ∀ word ∈ first :: front, PlainWord word) (after : ∀ word ∈ back, PlainWord word)
    (nonempty : argument ≠ [])
    (split : shellWords (first ++ spaced front ++ 0x20 :: argument ++ spaced back) = some words)
    (inside : argument ∈ words) : PlainWord argument := by
  by_contra unplain
  obtain ⟨earlier, last, ran, same⟩ := @ShellReader.foldlM_spaced [] front first
    fun word inside => before word (List.mem_cons_of_mem _ inside)
  have opened : (first ++ spaced front ++ [0x20]).foldlM ShellReader.read {} =
      some ⟨first :: front, none, .bare, false⟩ := by
    rw [List.foldlM_append, List.foldlM_append,
      ShellReader.foldlM_plain (before first (List.mem_cons_self ..))]
    refine Option.bind_eq_some_iff.mpr ⟨_, ran, ?_⟩
    rw [List.foldlM_cons, ShellReader.read_blank rfl rfl rfl, ShellReader.close]
    simpa using same
  have layout : first ++ spaced front ++ 0x20 :: argument ++ spaced back =
      first ++ spaced front ++ [0x20] ++ (argument ++ spaced back) := by simp
  rw [shellWords, layout, List.foldlM_append, opened] at split
  have split : ((argument ++ spaced back).foldlM ShellReader.read
      ⟨first :: front, none, .bare, false⟩).bind ShellReader.finish = some words := split
  rw [List.foldlM_append] at split
  cases scanned : argument.foldlM ShellReader.read ⟨first :: front, none, .bare, false⟩ with
  | none =>
      rw [scanned] at split
      cases split
  | some reader =>
      rw [scanned] at split
      rcases ShellReader.kept_or_lost scanned with kept | lost
      · exact unplain ⟨nonempty, kept.ordinary, kept.head⟩
      · exact lost.not_mem_line after (fun known => unplain (before argument known))
          (fun known => unplain (after argument known)) split inside

example : shellWords "a 'b c' d\\e #f".toUTF8.toList =
    some ["a".toUTF8.toList, "b c".toUTF8.toList, "de".toUTF8.toList] := by decide +kernel

end Foundation
