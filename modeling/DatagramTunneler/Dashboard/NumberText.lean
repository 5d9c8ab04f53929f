import DatagramTunneler.Dashboard.Number
import Mathlib.Data.List.DropRight

/-! JavaScript's `String` of a number: the fewest digits that are read as the number
again, written out or with an exponent. A natural that is small enough is written
with its own digits. -/

set_option autoImplicit false

namespace DatagramTunneler

namespace JsNumber

/-! ## The digits -/

/-- The two multiples of a unit around a value, the nearer one first. -/
def around (value unit_ : ℚ) : List Nat :=
  let below := ⌊value / unit_⌋.toNat
  if value - below * unit_ ≤ (below + 1) * unit_ - value then [below, below + 1] else [below + 1, below]

/-- A significand of at most so many digits and a power of ten that are read as the
value, with as few digits as possible. -/
def shortest (value : ℚ) : Nat → Nat → Nat × Int
  | 0, _ => (0, 0)
  | fuel + 1, digits =>
      let power := Int.log 10 value + 1 - digits
      match (around value (10 ^ power)).find? fun significand : Nat =>
          toDouble (significand * 10 ^ power) = .finite value with
      | some significand => (significand, power)
      | none => shortest value fuel (digits + 1)

/-! ## The text -/

def exponentText (exponent : Int) : JsString :=
  (if exponent < 0 then ['e', '-'] else ['e', '+']) ++ Nat.toDigits 10 exponent.natAbs

/-- `digits` without zeros at the end; the point is behind `point` of them. -/
def layout (digits : JsString) (point : Int) : JsString :=
  if digits.length ≤ point ∧ point ≤ 21 then
    digits ++ List.replicate (point - digits.length).toNat '0'
  else if 0 < point ∧ point ≤ 21 then digits.take point.toNat ++ '.' :: digits.drop point.toNat
  else if -6 < point ∧ point ≤ 0 then ['0', '.'] ++ List.replicate (-point).toNat '0' ++ digits
  else match digits with
    | [] => []
    | [digit] => digit :: exponentText (point - 1)
    | digit :: rest => digit :: '.' :: rest ++ exponentText (point - 1)

/-- Of a number above zero; 17 digits are enough for every double. -/
def positiveText (value : ℚ) : JsString :=
  let (significand, power) := shortest value 17 1
  let digits := Nat.toDigits 10 significand
  layout (digits.rdropWhile (· = '0')) (digits.length + power)

def toString : JsNumber → JsString
  | .nan => js "NaN"
  | .infinite negative => if negative then js "-Infinity" else js "Infinity"
  | .finite value =>
      if value = 0 then ['0']
      else if value < 0 then '-' :: positiveText (-value)
      else positiveText value

/-! ## Naturals of 53 bits -/

private theorem floor_le_roundHalfEven (value : ℚ) : ⌊value⌋ ≤ roundHalfEven value := by
  unfold roundHalfEven
  dsimp only
  split_ifs <;> omega

/-- What takes more bits is not rounded into them. -/
theorem le_of_toDouble {value : Nat} (large : 2 ^ 53 ≤ value) {rounded : ℚ}
    (read : toDouble (value : ℚ) = .finite rounded) : 2 ^ 53 ≤ rounded := by
  have positive : value ≠ 0 := by omega
  have magnitude : |(value : ℚ)| = value := abs_of_nonneg (Nat.cast_nonneg value)
  have high : 53 ≤ Nat.log 2 value := (Nat.le_log_iff_pow_le (by decide) positive).mpr large
  obtain ⟨extra, bits⟩ := Nat.exists_eq_add_of_le high
  have scale : max (Int.log 2 |(value : ℚ)| - 52) (-1074) = ((extra + 1 : ℕ) : ℤ) := by
    rw [magnitude, Int.log_natCast]
    omega
  have kept : (2 ^ 52 : ℤ) ≤ ⌊(value : ℚ) / 2 ^ (extra + 1)⌋ := by
    rw [Int.le_floor, le_div_iff₀ (by positivity)]
    have whole : 2 ^ 52 * 2 ^ (extra + 1) ≤ value := by
      calc
        2 ^ 52 * 2 ^ (extra + 1) = 2 ^ Nat.log 2 value := by
          rw [← Nat.pow_add, bits]
          congr 1
          omega
        _ ≤ value := Nat.pow_log_le_self 2 positive
    exact_mod_cast whole
  unfold toDouble at read
  rw [if_neg (by exact_mod_cast positive)] at read
  simp only [scale, zpow_natCast] at read
  split_ifs at read
  cases read
  have digits := kept.trans (floor_le_roundHalfEven _)
  calc
    (2 ^ 53 : ℚ) = 2 ^ 52 * 2 ^ 1 := by norm_num
    _ ≤ 2 ^ 52 * 2 ^ (extra + 1) := by
      gcongr
      · norm_num
      · omega
    _ ≤ _ := by
      gcongr
      exact_mod_cast digits

private theorem eq_of_toDouble {value small : Nat} (bits : small < 2 ^ 53)
    (read : toDouble (value : ℚ) = .finite (small : ℚ)) : value = small := by
  rcases Nat.lt_or_ge value (2 ^ 53) with exact | large
  · rw [toDouble_natCast exact] at read
    exact_mod_cast JsNumber.finite.inj read
  · have bound : (2 ^ 53 : ℚ) ≤ (small : ℚ) := le_of_toDouble large read
    have above : 2 ^ 53 ≤ small := by exact_mod_cast bound
    omega

private theorem self_mem_around (value : Nat) : value ∈ around value 1 := by
  have below : ⌊(value : ℚ) / 1⌋.toNat = value := by
    rw [div_one, Int.floor_natCast, Int.toNat_natCast]
  unfold around
  rw [below]
  dsimp only
  split <;> simp

/-- The digits that are found are those of the number, without zeros at its end. -/
theorem shortest_natCast {value : Nat} (bits : value < 2 ^ 53) {fuel digits : Nat}
    (few : digits ≤ Nat.log 10 value + 1) (enough : Nat.log 10 value + 1 < digits + fuel) :
    ∃ significand power : Nat, shortest value fuel digits = (significand, (power : ℤ)) ∧
      significand * 10 ^ power = value := by
  induction fuel generalizing digits with
  | zero => omega
  | succ fuel ih =>
      obtain ⟨power, size⟩ := Nat.exists_eq_add_of_le few
      have exponent : Int.log 10 (value : ℚ) + 1 - digits = (power : ℤ) := by
        rw [show (10 : ℕ) = ((10 : ℕ) : ℕ) from rfl, Int.log_natCast]
        omega
      unfold shortest
      simp only [exponent, zpow_natCast]
      cases found : (around value (10 ^ power)).find? fun significand : Nat =>
          decide (toDouble (significand * 10 ^ power) = .finite value) with
      | some significand =>
          refine ⟨significand, power, rfl, eq_of_toDouble bits ?_⟩
          have read := List.find?_some found
          push_cast
          simpa using read
      | none =>
          have further : digits ≠ Nat.log 10 value + 1 := by
            intro last
            have unscaled : power = 0 := by omega
            subst unscaled
            have unread := List.find?_eq_none.mp found value (by simpa using self_mem_around value)
            simp [toDouble_natCast bits] at unread
          exact ih (by omega) (by omega)

private theorem toDigits_mul_pow {significand : Nat} (positive : 0 < significand) (power : Nat) :
    Nat.toDigits 10 (significand * 10 ^ power) =
      Nat.toDigits 10 significand ++ List.replicate power '0' := by
  induction power with
  | zero => simp
  | succ power ih =>
      have step : significand * 10 ^ (power + 1) = 10 * (significand * 10 ^ power) + 0 := by
        rw [Nat.pow_succ]
        ring
      rw [step, ← Nat.toDigits_append_toDigits (by decide) (by positivity) (by decide), ih,
        List.append_assoc, List.replicate_succ']
      rfl

private theorem layout_rdropWhile {digits : JsString} {power : Nat} (few : digits.length + power ≤ 21) :
    layout (digits.rdropWhile (· = '0')) (digits.length + power) = digits ++ List.replicate power '0' := by
  have split := @List.rdropWhile_append_rtakeWhile _ (fun digit => decide (digit = '0')) digits
  have zeros : digits.rtakeWhile (· = '0') = List.replicate (digits.rtakeWhile (· = '0')).length '0' := by
    rw [List.eq_replicate_iff]
    refine ⟨rfl, fun digit inside => ?_⟩
    simpa using List.mem_rtakeWhile_imp inside
  have lengths := congrArg List.length split
  rw [List.length_append] at lengths
  generalize digits.rdropWhile (· = '0') = front at *
  generalize (digits.rtakeWhile (· = '0')).length = count at *
  unfold layout
  rw [if_pos (by omega)]
  have rest : ((digits.length : ℤ) + power - front.length).toNat = count + power := by omega
  rw [rest, List.replicate_add, ← List.append_assoc, ← zeros, split]

theorem toString_natCast {value : Nat} (bits : value < 2 ^ 53) :
    toString (.finite (value : ℚ)) = Nat.toDigits 10 value := by
  unfold toString
  dsimp only
  by_cases zero : value = 0
  · subst zero
    rfl
  · have small : Nat.log 10 value < 16 := Nat.log_lt_of_lt_pow zero (by omega)
    obtain ⟨significand, power, found, whole⟩ := @shortest_natCast value bits 17 1 (by omega) (by omega)
    have positive : 0 < significand := by
      rcases Nat.eq_zero_or_pos significand with none | positive
      · rw [none, Nat.zero_mul] at whole
        exact absurd whole.symm zero
      · exact positive
    have digits := toDigits_mul_pow positive power
    rw [whole] at digits
    have few : (Nat.toDigits 10 value).length ≤ 21 :=
      (Nat.length_toDigits_le_iff (by decide) (by decide)).mpr (by omega)
    rw [digits, List.length_append, List.length_replicate] at few
    rw [if_neg (by exact_mod_cast zero), if_neg (by exact_mod_cast Nat.not_lt_zero value), positiveText,
      found]
    dsimp only
    rw [layout_rdropWhile few, digits]

end JsNumber

end DatagramTunneler
