import Mathlib.Data.List.DropRight
import Mathlib.Data.Vector.Basic

/-! A ring of slots with the index of the slot to be written next and the number of
slots that have been written. It stands for the end of the list of all values that
were ever put into it. -/

set_option autoImplicit false

namespace Foundation

variable {α : Type} {size : Nat}

/-- The last values of `history`, each in the slot of its position. -/
structure RingHolds (slots : Vector α size) (next filled : Nat) (history : List α) : Prop where
  filled : filled = min history.length size
  next : next = history.length % size
  slot : ∀ position, history.length ≤ position + size →
    ∀ inside : position < history.length, slots[position % size]? = some history[position]

theorem ringHolds_nil (slots : Vector α size) : RingHolds slots 0 0 [] where
  filled := by simp
  next := by simp
  slot := fun _ _ inside => absurd inside (Nat.not_lt_zero _)

namespace RingHolds

variable {slots : Vector α size} {next filled : Nat} {history : List α}

theorem next_lt (holds : RingHolds slots next filled history) (positive : 0 < size) : next < size := by
  rw [holds.next]
  exact Nat.mod_lt _ positive

/-- The oldest value makes way for the new one, once the ring is full. -/
theorem push (holds : RingHolds slots next filled history) (inside : next < size) (value : α) :
    RingHolds (slots.set next value) ((next + 1) % size)
      (if filled < size then filled + 1 else filled) (history ++ [value]) where
  filled := by
    rw [holds.filled, List.length_append, List.length_singleton]
    split <;> omega
  next := by
    rw [holds.next, List.length_append, List.length_singleton, Nat.mod_add_mod]
  slot := by
    intro position recent within
    rw [List.length_append, List.length_singleton] at recent within
    have positive : 0 < size := Nat.lt_of_le_of_lt (Nat.zero_le _) inside
    rcases Nat.lt_succ_iff_lt_or_eq.mp within with before | rfl
    · -- Two of the last positions share no slot.
      have apart : next ≠ position % size := by
        rw [holds.next]
        intro same
        have multiple := Nat.dvd_of_mod_eq_zero (Nat.sub_mod_eq_zero_of_mod_eq same)
        have large := Nat.le_of_dvd (by omega) multiple
        omega
      rw [Vector.getElem?_set_ne _ apart, holds.slot position (by omega) before]
      simp [List.getElem_append_left before]
    · have here : history.length % size = next := holds.next.symm
      rw [here, Vector.getElem?_set_self]
      simp

/-- Read back from the slot behind the last one written, or from the first one
while there are empty slots. -/
theorem read (holds : RingHolds slots next filled history) {index : Nat} (inside : index < filled) :
    slots[((if filled = size then next else 0) + index) % size]? = (history.rtake size)[index]? := by
  have room := holds.filled
  rw [List.rtake, List.getElem?_drop]
  split
  · next full =>
      have recent : history.length - size + index < history.length := by omega
      have wrapped : (next + index) % size = (history.length - size + index) % size := by
        rw [holds.next, Nat.mod_add_mod, ← Nat.add_mod_right (history.length - size + index)]
        congr 1
        omega
      rw [wrapped, holds.slot _ (by omega) recent, List.getElem?_eq_getElem recent]
  · next short =>
      have early : history.length - size + index = index := by omega
      have within : index < history.length := by omega
      have small : index % size = index := Nat.mod_eq_of_lt (by omega)
      have slot := holds.slot index (by omega) within
      rw [Nat.zero_add, early, slot, List.getElem?_eq_getElem within]

end RingHolds

end Foundation
