import Mathlib.Algebra.Order.Floor.Ring
import Mathlib.Data.List.DropRight
import Mathlib.Data.List.Sort
import Mathlib.Data.Rat.Floor
import Mathlib.Tactic.Linarith

/-! Samples of an ordered type: the window of the last ones, their order and the
share of them that lies below one of them. -/

set_option autoImplicit false

namespace Foundation

/-! ## Windows -/

/-- Adding a value to a full window drops its oldest one. -/
theorem rtake_snoc {α : Type} (limit : Nat) (values : List α) (value : α) :
    (values ++ [value]).rtake limit =
      if limit < (values.rtake limit ++ [value]).length then
        (values.rtake limit ++ [value]).drop 1
      else values.rtake limit ++ [value] := by
  have length : (values.rtake limit).length = min limit values.length := by
    simp only [List.rtake, List.length_drop]
    omega
  by_cases full : limit ≤ values.length
  · have exceeded : limit < (values.rtake limit ++ [value]).length := by
      simp only [List.length_append, length, List.length_singleton]
      omega
    rw [if_pos exceeded]
    by_cases empty : limit = 0
    · subst empty
      simp [List.rtake]
    · have first : 1 ≤ (values.rtake limit).length := by omega
      rw [List.drop_append_of_le_length first]
      simp only [List.rtake, List.length_append, List.length_singleton, List.drop_drop]
      rw [List.drop_append_of_le_length (by omega)]
      congr 2
      omega
  · have short : ¬limit < (values.rtake limit ++ [value]).length := by
      simp only [List.length_append, length, List.length_singleton]
      omega
    rw [if_neg short]
    simp only [List.rtake, List.length_append, List.length_singleton,
      show values.length + 1 - limit = 0 by omega, show values.length - limit = 0 by omega,
      List.drop_zero]

theorem rtake_of_length_le {α : Type} {limit : Nat} {values : List α}
    (short : values.length ≤ limit) : values.rtake limit = values := by
  simp [List.rtake, Nat.sub_eq_zero_of_le short]

theorem rtake_ne_nil {α : Type} {limit : Nat} {values : List α} (positive : 0 < limit)
    (some_ : values ≠ []) : values.rtake limit ≠ [] := by
  have := List.length_pos_iff.mpr some_
  apply List.ne_nil_of_length_pos
  simp only [List.rtake, List.length_drop]
  omega

/-! ## Order -/

section Order

variable {α : Type} [LinearOrder α]

/-- The sample at an index bounds all samples from below except for the ones in front of it. -/
theorem countP_lt_le_iff {sorted : List α} (ordered : sorted.Pairwise (· ≤ ·)) {index : Nat}
    (within : index < sorted.length) (value : α) :
    sorted.countP (· < value) ≤ index ↔ value ≤ sorted[index] := by
  induction sorted generalizing index with
  | nil => cases within
  | cons first rest ih =>
      obtain ⟨least, ordered⟩ := List.pairwise_cons.mp ordered
      by_cases below : first < value
      · rw [List.countP_cons_of_pos (by simpa using below)]
        cases index with
        | zero => simpa using below
        | succ index =>
            rw [Nat.add_le_add_iff_right, List.getElem_cons_succ]
            exact ih ordered (Nat.lt_of_succ_lt_succ within)
      · have above : ∀ sample ∈ first :: rest, value ≤ sample := by
          intro sample inside
          cases List.mem_cons.mp inside with
          | inl same => exact same ▸ not_lt.mp below
          | inr later => exact (not_lt.mp below).trans (least sample later)
        have none : (first :: rest).countP (· < value) = 0 := by
          rw [List.countP_eq_zero]
          intro sample inside
          simpa using above sample inside
        rw [none]
        exact ⟨fun _ => above _ (List.getElem_mem within), fun _ => Nat.zero_le index⟩

/-- The sample at an index is bounded by a value together with the ones in front of it. -/
theorem lt_countP_le_iff {sorted : List α} (ordered : sorted.Pairwise (· ≤ ·)) {index : Nat}
    (within : index < sorted.length) (value : α) :
    index < sorted.countP (· ≤ value) ↔ sorted[index] ≤ value := by
  induction sorted generalizing index with
  | nil => cases within
  | cons first rest ih =>
      obtain ⟨least, ordered⟩ := List.pairwise_cons.mp ordered
      by_cases below : first ≤ value
      · rw [List.countP_cons_of_pos (by simpa using below)]
        cases index with
        | zero => simpa using below
        | succ index =>
            rw [Nat.add_lt_add_iff_right, List.getElem_cons_succ]
            exact ih ordered (Nat.lt_of_succ_lt_succ within)
      · have above : ∀ sample ∈ first :: rest, value < sample := by
          intro sample inside
          cases List.mem_cons.mp inside with
          | inl same => exact same ▸ not_le.mp below
          | inr later => exact (not_le.mp below).trans_le (least sample later)
        have none : (first :: rest).countP (· ≤ value) = 0 := by
          rw [List.countP_eq_zero]
          intro sample inside
          simpa using above sample inside
        rw [none]
        constructor
        · intro impossible
          cases impossible
        · intro bounded
          exact absurd bounded (not_le.mpr (above _ (List.getElem_mem within)))

theorem getElem_le_getElem {sorted : List α} (ordered : sorted.Pairwise (· ≤ ·))
    {first second : Nat} (within : second < sorted.length) (order : first ≤ second) :
    sorted[first] ≤ sorted[second] := by
  cases Nat.eq_or_lt_of_le order with
  | inl same => subst same; exact le_rfl
  | inr before => exact List.pairwise_iff_getElem.mp ordered first second _ within before

theorem le_getLast {sorted : List α} (ordered : sorted.Pairwise (· ≤ ·)) (some_ : sorted ≠ [])
    {sample : α} (inside : sample ∈ sorted) : sample ≤ sorted.getLast some_ := by
  obtain ⟨index, within, rfl⟩ := List.getElem_of_mem inside
  rw [List.getLast_eq_getElem]
  exact getElem_le_getElem ordered _ (by omega)

/-- Two neighbours differ exactly when some sample has all up to the first of them below it
and no others. -/
theorem getElem_eq_succ_iff {sorted : List α} (ordered : sorted.Pairwise (· ≤ ·)) {index : Nat}
    (within : index + 1 < sorted.length) :
    sorted[index] = sorted[index + 1] ↔
      ∀ sample ∈ sorted, sorted.countP (· < sample) ≠ index + 1 := by
  have first : index < sorted.length := by omega
  constructor
  · intro same sample _ count
    have above : sample ≤ sorted[index + 1] :=
      (countP_lt_le_iff ordered within sample).mp (by omega)
    have few := (countP_lt_le_iff ordered first sample).mpr (same ▸ above)
    omega
  · intro apart
    apply le_antisymm (getElem_le_getElem ordered within (by omega))
    have few := (countP_lt_le_iff ordered within sorted[index + 1]).mpr le_rfl
    have other := apart _ (List.getElem_mem within)
    exact (countP_lt_le_iff ordered first _).mp (by omega)

end Order

/-! ## Ranks -/

section Ranks

/-- The rank that a share of the distance between the first and the last sample gives. -/
def floorRank (share : ℚ) (size : Nat) : Nat := ⌊share * ((size - 1 : Nat) : ℚ)⌋.toNat

/-- The rank of the first sample that has the share at or before it. -/
def ceilRank (share : ℚ) (size : Nat) : Nat := ⌈share * (size : ℚ)⌉.toNat - 1

variable {share : ℚ} {size : Nat}

theorem floorRank_lt (atMost : share ≤ 1) (some_ : 0 < size) : floorRank share size < size := by
  have bound : ⌊share * ((size - 1 : Nat) : ℚ)⌋ ≤ ((size - 1 : Nat) : ℤ) := by
    have : share * ((size - 1 : Nat) : ℚ) ≤ ((size - 1 : Nat) : ℚ) :=
      mul_le_of_le_one_left (Nat.cast_nonneg _) atMost
    have floor : ((⌊share * ((size - 1 : Nat) : ℚ)⌋ : ℤ) : ℚ) ≤ ((size - 1 : Nat) : ℚ) :=
      (Int.floor_le _).trans this
    exact_mod_cast floor
  simp only [floorRank]
  omega

theorem floorRank_mono {other : ℚ} (order : share ≤ other) :
    floorRank share size ≤ floorRank other size :=
  Int.toNat_le_toNat (Int.floor_mono (mul_le_mul_of_nonneg_right order (Nat.cast_nonneg _)))

theorem ceilRank_lt (atMost : share ≤ 1) (some_ : 0 < size) : ceilRank share size < size := by
  have bound : ⌈share * (size : ℚ)⌉ ≤ (size : ℤ) := by
    apply Int.ceil_le.mpr
    have : share * (size : ℚ) ≤ (size : ℚ) := mul_le_of_le_one_left (Nat.cast_nonneg _) atMost
    exact_mod_cast this
  simp only [ceilRank]
  omega

theorem share_le_iff (positive : 0 < share) (some_ : 0 < size) (count : Nat) :
    share * (size : ℚ) ≤ (count : ℚ) ↔ ceilRank share size < count := by
  have above : 0 < share * (size : ℚ) := mul_pos positive (Nat.cast_pos.mpr some_)
  have ceil : 0 < ⌈share * (size : ℚ)⌉ := Int.ceil_pos.mpr above
  have : share * (size : ℚ) ≤ (count : ℚ) ↔ ⌈share * (size : ℚ)⌉ ≤ (count : ℤ) := by
    rw [Int.ceil_le]
    norm_cast
  rw [this]
  simp only [ceilRank]
  omega

/-- The two ranks are at most one apart. -/
theorem floorRank_eq_or_succ (positive : 0 < share) (atMost : share ≤ 1) (some_ : 0 < size) :
    floorRank share size = ceilRank share size ∨
      floorRank share size + 1 = ceilRank share size := by
  obtain ⟨size, rfl⟩ : ∃ before, size = before + 1 := ⟨size - 1, by omega⟩
  have nonnegative : 0 ≤ share * (size : ℚ) := mul_nonneg positive.le (Nat.cast_nonneg _)
  have next : share * ((size + 1 : Nat) : ℚ) = share * (size : ℚ) + share := by
    push_cast
    ring
  have lower : ⌊share * (size : ℚ)⌋ < ⌈share * ((size + 1 : Nat) : ℚ)⌉ := by
    apply Int.lt_ceil.mpr
    rw [next]
    linarith [Int.floor_le (share * (size : ℚ))]
  have upper : ⌈share * ((size + 1 : Nat) : ℚ)⌉ ≤ ⌊share * (size : ℚ)⌋ + 2 := by
    apply Int.ceil_le.mpr
    rw [next]
    push_cast
    linarith [Int.lt_floor_add_one (share * (size : ℚ))]
  have floor : 0 ≤ ⌊share * (size : ℚ)⌋ := Int.floor_nonneg.mpr nonnegative
  simp only [floorRank, ceilRank, Nat.add_sub_cancel]
  omega

end Ranks

end Foundation
