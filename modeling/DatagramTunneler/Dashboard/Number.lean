import DatagramTunneler.Dashboard.Script
import DatagramTunneler.Foundation.Trim
import Mathlib.Algebra.Order.Floor.Defs
import Mathlib.Data.Int.Log
import Mathlib.Data.Rat.Floor

/-! JavaScript's `Number` of a string: a numeric literal between white space,
rounded to the nearest double. Which zero it is does not matter here. -/

set_option autoImplicit false

namespace DatagramTunneler

inductive JsNumber where
  | nan
  | infinite (negative : Bool)
  | finite (value : ℚ)
  deriving DecidableEq

namespace JsNumber

open Foundation Script

def roundHalfEven (value : ℚ) : Int :=
  let below := ⌊value⌋
  let rest := value - below
  if rest < 1 / 2 then below
  else if 1 / 2 < rest then below + 1
  else if below % 2 = 0 then below
  else below + 1

/-- The nearest double; 53 bits are kept, fewer below the normal range. -/
def toDouble (value : ℚ) : JsNumber :=
  if value = 0 then .finite 0
  else
    let unit : ℚ := 2 ^ max (Int.log 2 |value| - 52) (-1074)
    let rounded := roundHalfEven (value / unit) * unit
    if 2 ^ 1024 ≤ |rounded| then .infinite (rounded < 0) else .finite rounded

def digitValue (character : Char) : Option Nat :=
  if '0' ≤ character ∧ character ≤ '9' then some (character.toNat - '0'.toNat)
  else if 'a' ≤ character ∧ character ≤ 'z' then some (character.toNat - 'a'.toNat + 10)
  else if 'A' ≤ character ∧ character ≤ 'Z' then some (character.toNat - 'A'.toNat + 10)
  else none

/-- At least one digit, and nothing else. -/
def natural (radix : Nat) (digits : JsString) : Option Nat :=
  if digits.isEmpty then none
  else digits.foldlM (fun value digit =>
    (digitValue digit).bind fun next => if next < radix then some (value * radix + next) else none) 0

def exponent : JsString → Option Int
  | [] => some 0
  | _ :: '+' :: digits => (natural 10 digits).map Int.ofNat
  | _ :: '-' :: digits => (natural 10 digits).map fun value => -Int.ofNat value
  | _ :: digits => (natural 10 digits).map Int.ofNat

def unsignedDecimal (text : JsString) : Option ℚ := do
  let mantissa := text.takeWhile fun character => character ≠ 'e' && character ≠ 'E'
  let whole := mantissa.takeWhile (· ≠ '.')
  let fraction := (mantissa.drop whole.length).drop 1
  let digits ← natural 10 (whole ++ fraction)
  let power ← exponent (text.drop mantissa.length)
  return digits * 10 ^ (power - fraction.length)

def decimal (negative : Bool) (text : JsString) : JsNumber :=
  if text = js "Infinity" then .infinite negative
  else match unsignedDecimal text with
    | none => .nan
    | some value => toDouble (if negative then -value else value)

def integer (radix : Nat) (digits : JsString) : JsNumber :=
  match natural radix digits with
  | none => .nan
  | some value => toDouble value

/-- `Number(value)`. -/
def ofString (value : JsString) : JsNumber :=
  match Script.trim value with
  | [] => .finite 0
  | '0' :: 'x' :: digits | '0' :: 'X' :: digits => integer 16 digits
  | '0' :: 'o' :: digits | '0' :: 'O' :: digits => integer 8 digits
  | '0' :: 'b' :: digits | '0' :: 'B' :: digits => integer 2 digits
  | '+' :: text => decimal false text
  | '-' :: text => decimal true text
  | text => decimal false text

/-! ## Digits and nothing but digits -/

private theorem natural_eq_none {radix : Nat} {digits : JsString} {character : Char}
    (foreign : digitValue character = none) (inside : character ∈ digits) : natural radix digits = none := by
  have stuck : ∀ start, digits.foldlM (fun value digit =>
      (digitValue digit).bind fun next => if next < radix then some (value * radix + next) else none)
        start = none := by
    induction digits with
    | nil => cases inside
    | cons digit digits ih =>
        intro start
        rw [List.foldlM_cons]
        rcases List.mem_cons.mp inside with rfl | inside
        · rw [foreign]
          rfl
        · cases (digitValue digit).bind fun next =>
            if next < radix then some (start * radix + next) else none with
          | none => rfl
          | some value => exact ih inside value
  unfold natural
  split
  · rfl
  · exact stuck 0

private theorem exponent_eq_none {mark character : Char} {digits : JsString}
    (foreign : digitValue character = none) (unsigned : character ≠ '+' ∧ character ≠ '-')
    (inside : character ∈ digits) : exponent (mark :: digits) = none := by
  unfold exponent
  split
  · next same => cases same
  · next same =>
      cases same
      rw [natural_eq_none foreign ((List.mem_cons.mp inside).resolve_left unsigned.1)]
      rfl
  · next same =>
      cases same
      rw [natural_eq_none foreign ((List.mem_cons.mp inside).resolve_left unsigned.2)]
      rfl
  · next same =>
      cases same
      rw [natural_eq_none foreign inside]
      rfl

theorem drop_takeWhile (accepted : Char → Bool) (text : JsString) :
    text.drop (text.takeWhile accepted).length = text.dropWhile accepted := by
  have split := List.takeWhile_append_dropWhile (p := accepted) (l := text)
  calc
    text.drop (text.takeWhile accepted).length =
        (text.takeWhile accepted ++ text.dropWhile accepted).drop (text.takeWhile accepted).length := by
      rw [split]
    _ = text.dropWhile accepted := List.drop_left

/-- What is not in front of the first rejected character is that one or behind it. -/
theorem mem_of_mem_dropWhile {accepted : Char → Bool} {text : JsString} {character : Char}
    (inside : character ∈ text.dropWhile accepted) (passed : accepted character = true) :
    ∃ first rest, text.dropWhile accepted = first :: rest ∧ character ∈ rest := by
  have rejected := List.head?_dropWhile_not accepted text
  cases shape : text.dropWhile accepted with
  | nil => rw [shape] at inside; cases inside
  | cons first rest =>
      rw [shape] at inside rejected
      refine ⟨first, rest, rfl, (List.mem_cons.mp inside).resolve_left ?_⟩
      intro same
      subst same
      simp [passed] at rejected

/-- Neither a quote nor a number sign is part of a number. -/
theorem unsignedDecimal_eq_none {text : JsString} {character : Char}
    (foreign : character = '"' ∨ character = '#') (inside : character ∈ text) :
    unsignedDecimal text = none := by
  have facts : digitValue character = none ∧ character ≠ 'e' ∧ character ≠ 'E' ∧ character ≠ '.' ∧
      character ≠ '+' ∧ character ≠ '-' := by rcases foreign with rfl | rfl <;> decide
  obtain ⟨noDigit, lower, upper, dot, plus, minus⟩ := facts
  unfold unsignedDecimal
  simp only [bind, Option.bind_eq_none_iff, drop_takeWhile]
  intro digits read power raised
  have split := List.takeWhile_append_dropWhile
    (p := fun character => character ≠ 'e' && character ≠ 'E') (l := text)
  rw [← split] at inside
  exfalso
  rcases List.mem_append.mp inside with inside | inside
  · generalize text.takeWhile (fun character => character ≠ 'e' && character ≠ 'E') = mantissa at inside read
    have listed : character ∈ mantissa.takeWhile (· ≠ '.') ++ (mantissa.dropWhile (· ≠ '.')).drop 1 := by
      rw [← List.takeWhile_append_dropWhile (p := (· ≠ '.')) (l := mantissa)] at inside
      rcases List.mem_append.mp inside with inside | inside
      · exact List.mem_append_left _ inside
      · obtain ⟨first, rest, shape, behind⟩ := mem_of_mem_dropWhile inside (by simpa using dot)
        rw [shape]
        exact List.mem_append_right _ behind
    cases read.symm.trans (natural_eq_none noDigit listed)
  · obtain ⟨first, rest, shape, behind⟩ := mem_of_mem_dropWhile inside (by simp [lower, upper])
    rw [shape] at raised
    cases raised.symm.trans (exponent_eq_none noDigit ⟨plus, minus⟩ behind)

private theorem decimal_eq_nan {negative : Bool} {text : JsString} {character : Char}
    (foreign : character = '"' ∨ character = '#') (inside : character ∈ text) :
    decimal negative text = .nan := by
  have other : text ≠ js "Infinity" := by
    intro same
    subst same
    revert inside
    rcases foreign with rfl | rfl <;> decide
  rw [decimal, if_neg other, unsignedDecimal_eq_none foreign inside]

private theorem integer_eq_nan {radix : Nat} {digits : JsString} {character : Char}
    (foreign : character = '"' ∨ character = '#') (inside : character ∈ digits) :
    integer radix digits = .nan := by
  have noDigit : digitValue character = none := by rcases foreign with rfl | rfl <;> decide
  rw [integer, natural_eq_none noDigit inside]

theorem ofString_eq_nan {value : JsString} {character : Char}
    (foreign : character = '"' ∨ character = '#') (inside : character ∈ Script.trim value) :
    ofString value = .nan := by
  have apart : character ∉ ['0', 'x', 'X', 'o', 'O', 'b', 'B', '+', '-'] := by
    rcases foreign with rfl | rfl <;> decide
  simp only [List.mem_cons, not_or] at apart
  unfold ofString
  split
  · next shape => rw [shape] at inside; cases inside
  iterate 6
    next shape =>
      rw [shape] at inside
      simp only [List.mem_cons, apart, false_or] at inside
      exact integer_eq_nan foreign inside
  iterate 2
    next shape =>
      rw [shape] at inside
      simp only [List.mem_cons, apart, false_or] at inside
      exact decimal_eq_nan foreign inside
  · exact decimal_eq_nan foreign inside

private theorem digitValue_of_isDigit {digit : Char} (accepted : isDigit digit = true) :
    digitValue digit = some ((codeByte digit).toNat - (byteOf '0').toNat) ∧
      (codeByte digit).toNat - (byteOf '0').toNat < 10 := by
  obtain ⟨small, -⟩ := isdigit_of_isDigit accepted
  simp only [isDigit, Bool.and_eq_true, decide_eq_true_eq] at accepted
  have high := le_of_char_le accepted.2
  have code := toNat_codeByte small
  have zero : (byteOf '0').toNat = 48 := by decide
  have nine : '9'.toNat = 57 := by decide
  rw [digitValue, if_pos accepted, code, zero]
  refine ⟨rfl, ?_⟩
  omega

private theorem natural_digits {digits : JsString} (nonempty : digits ≠ []) (accepted : digits.all isDigit = true) :
    natural 10 digits = some (digitsValue (utf8 digits)) := by
  have each := List.all_eq_true.mp accepted
  have folded : ∀ (digits : JsString) (start : Nat), (∀ digit ∈ digits, isDigit digit = true) →
      digits.foldlM (fun value digit =>
        (digitValue digit).bind fun next => if next < 10 then some (value * 10 + next) else none) start =
      some ((digits.map codeByte).foldl
        (fun value digit => value * 10 + (digit.toNat - (byteOf '0').toNat)) start) := by
    intro digits
    induction digits with
    | nil => intro start each; rfl
    | cons digit digits ih =>
        intro start each
        obtain ⟨value, small⟩ := digitValue_of_isDigit (each digit (List.mem_cons_self ..))
        rw [List.foldlM_cons, value, Option.bind_some, if_pos small, List.map_cons, List.foldl_cons]
        exact ih _ fun digit inside => each digit (List.mem_cons_of_mem _ inside)
  rw [natural, if_neg (by simpa using nonempty), folded digits 0 each,
    utf8_ascii fun digit inside => (isdigit_of_isDigit (each digit inside)).1]
  rfl

private theorem roundHalfEven_intCast (value : Int) : roundHalfEven (value : ℚ) = value := by
  unfold roundHalfEven
  simp

/-- Naturals of 53 bits are doubles. -/
theorem toDouble_natCast {value : Nat} (small : value < 2 ^ 53) : toDouble (value : ℚ) = .finite value := by
  unfold toDouble
  split_ifs with zero
  · rw [zero]
  · have positive : value ≠ 0 := fun none => zero (by rw [none]; rfl)
    have low : Nat.log 2 value ≤ 52 := Nat.le_of_lt_succ (Nat.log_lt_of_lt_pow positive small)
    have magnitude : |(value : ℚ)| = value := abs_of_nonneg (Nat.cast_nonneg value)
    have scale : max (Int.log 2 |(value : ℚ)| - 52) (-1074) = -((52 - Nat.log 2 value : ℕ) : ℤ) := by
      rw [magnitude, Int.log_natCast]
      omega
    have whole : (value : ℚ) / 2 ^ (-((52 - Nat.log 2 value : ℕ) : ℤ)) =
        ((value * 2 ^ (52 - Nat.log 2 value) : ℕ) : ℤ) := by
      rw [zpow_neg, zpow_natCast]
      push_cast
      rw [div_inv_eq_mul]
    have back : (((value * 2 ^ (52 - Nat.log 2 value) : ℕ) : ℤ) : ℚ) *
        2 ^ (-((52 - Nat.log 2 value : ℕ) : ℤ)) = value := by
      rw [zpow_neg, zpow_natCast]
      push_cast
      rw [mul_assoc, mul_inv_cancel₀ (by positivity), mul_one]
    have inRange : ¬ (2 : ℚ) ^ 1024 ≤ |(value : ℚ)| := by
      rw [magnitude, not_le]
      calc
        (value : ℚ) < 2 ^ 53 := by exact_mod_cast small
        _ ≤ 2 ^ 1024 := pow_le_pow_right₀ (by norm_num) (by norm_num)
    simp only [scale, whole, roundHalfEven_intCast, back, if_neg inRange]

theorem isWhiteSpace_of_isDigit {digit : Char} (accepted : isDigit digit = true) :
    isWhiteSpace digit = false := by
  simp only [isDigit, Bool.and_eq_true, decide_eq_true_eq] at accepted
  have low := le_of_char_le accepted.1
  have high := le_of_char_le accepted.2
  have zero : '0'.toNat = 48 := by decide
  have nine : '9'.toNat = 57 := by decide
  simp only [isWhiteSpace, isLineTerminator, List.contains_eq_mem, List.mem_cons, List.not_mem_nil,
    or_false, Bool.or_eq_false_iff, decide_eq_false_iff_not, Bool.and_eq_false_iff]
  omega

theorem ofString_digits {digits : JsString} (nonempty : digits ≠ []) (accepted : digits.all isDigit = true)
    (small : digitsValue (utf8 digits) < 2 ^ 53) :
    ofString digits = .finite (digitsValue (utf8 digits) : ℚ) := by
  have each := List.all_eq_true.mp accepted
  have foreign : ∀ {character : Char}, isDigit character = false → character ∉ digits := by
    intro character rejected inside
    rw [each character inside] at rejected
    cases rejected
  have trimmed : Script.trim digits = digits := by
    obtain ⟨first, rest, shape⟩ := List.exists_cons_of_ne_nil nonempty
    exact trimBy_eq_self (by rw [shape]; rfl) (isWhiteSpace_of_isDigit (each first (by simp [shape])))
      (List.getLast?_eq_some_getLast nonempty)
      (isWhiteSpace_of_isDigit (each _ (List.getLast_mem nonempty)))
  have mantissa : digits.takeWhile (fun character => character ≠ 'e' && character ≠ 'E') = digits := by
    apply List.takeWhile_eq_self_iff.mpr
    intro digit inside
    have lower : digit ≠ 'e' := fun same => foreign (by decide) (same ▸ inside)
    have upper : digit ≠ 'E' := fun same => foreign (by decide) (same ▸ inside)
    simp [lower, upper]
  have whole : digits.takeWhile (· ≠ '.') = digits := by
    apply List.takeWhile_eq_self_iff.mpr
    intro digit inside
    have dot : digit ≠ '.' := fun same => foreign (by decide) (same ▸ inside)
    simp [dot]
  have read : unsignedDecimal digits = some (digitsValue (utf8 digits) : ℚ) := by
    unfold unsignedDecimal
    simp only [mantissa, whole, List.drop_length, List.drop_nil, List.append_nil, exponent,
      natural_digits nonempty accepted]
    simp
  have finite : decimal false digits = .finite (digitsValue (utf8 digits) : ℚ) := by
    have other : digits ≠ js "Infinity" := by
      intro same
      subst same
      revert accepted
      decide
    rw [decimal, if_neg other, read]
    exact toDouble_natCast small
  have letters : isDigit 'x' = false ∧ isDigit 'X' = false ∧ isDigit 'o' = false ∧ isDigit 'O' = false ∧
      isDigit 'b' = false ∧ isDigit 'B' = false ∧ isDigit '+' = false ∧ isDigit '-' = false := by decide
  unfold ofString
  rw [trimmed]
  split
  · exact absurd rfl nonempty
  iterate 8
    simp [letters] at accepted
  · exact finite

end JsNumber

end DatagramTunneler
