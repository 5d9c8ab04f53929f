import Mathlib.Data.List.Basic
import Mathlib.Tactic.Ring
import Mathlib.Tactic.Linarith

/-! Memory images as lists, and fixed-width integers stored in them. Nothing
here depends on what the bytes mean. -/

set_option autoImplicit false

namespace Foundation

section Image

variable {α : Type}

/-- The `count` cells of `image` from `offset` on. -/
def slice (image : List α) (offset count : Nat) : List α := (image.drop offset).take count

/-- Copy `data` over the cells of `image` from `offset` on. -/
def overwrite (image : List α) (offset : Nat) (data : List α) : List α :=
  image.take offset ++ data ++ image.drop (offset + data.length)

theorem length_overwrite {image data : List α} {offset : Nat}
    (fits : offset + data.length ≤ image.length) :
    (overwrite image offset data).length = image.length := by
  simp only [overwrite, List.length_append, List.length_take, List.length_drop]
  omega

theorem take_overwrite {image data : List α} {offset : Nat} (fits : offset ≤ image.length) :
    (overwrite image offset data).take (offset + data.length) = image.take offset ++ data := by
  have lengths : (image.take offset ++ data).length = offset + data.length := by
    rw [List.length_append, List.length_take, Nat.min_eq_left fits]
  rw [overwrite, ← lengths, List.take_left]

theorem slice_overwrite_self {image data : List α} {offset : Nat} (fits : offset ≤ image.length) :
    slice (overwrite image offset data) offset data.length = data := by
  have lengths : (image.take offset).length = offset := by
    rw [List.length_take, Nat.min_eq_left fits]
  rw [slice, overwrite, List.append_assoc, List.drop_left' lengths, List.take_left' rfl]

theorem slice_overwrite_before {image data : List α} {offset start count : Nat}
    (fits : offset ≤ image.length) (before : start + count ≤ offset) :
    slice (overwrite image offset data) start count = slice image start count := by
  apply List.ext_getElem?
  intro index
  simp only [slice, overwrite, List.getElem?_take, List.getElem?_drop, List.append_assoc]
  split
  · rw [List.getElem?_append_left (by rw [List.length_take]; omega), List.getElem?_take,
      if_pos (by omega)]
  · rfl

theorem slice_overwrite_after {image data : List α} {offset start count : Nat}
    (fits : offset ≤ image.length) (after : offset + data.length ≤ start) :
    slice (overwrite image offset data) start count = slice image start count := by
  apply List.ext_getElem?
  intro index
  have lengths : (image.take offset ++ data).length = offset + data.length := by
    rw [List.length_append, List.length_take, Nat.min_eq_left fits]
  simp only [slice, overwrite, List.getElem?_take, List.getElem?_drop]
  split
  · rw [List.getElem?_append_right (by omega), lengths, List.getElem?_drop]
    congr 1
    omega
  · rfl

/-- A slice that ends inside a prefix can be read from the prefix. -/
theorem slice_take {image : List α} {offset count bound : Nat} (within : offset + count ≤ bound) :
    slice (image.take bound) offset count = slice image offset count := by
  rw [slice, slice, List.drop_take, List.take_take, Nat.min_eq_left (by omega)]

theorem slice_append_left {front back : List α} {offset count : Nat}
    (within : offset + count ≤ front.length) :
    slice (front ++ back) offset count = slice front offset count := by
  calc slice (front ++ back) offset count
      = slice ((front ++ back).take front.length) offset count := (slice_take within).symm
    _ = slice front offset count := by rw [List.take_left]

private theorem slice_append_right {front back : List α} {count : Nat} :
    slice (front ++ back) front.length count = back.take count := by
  rw [slice, List.drop_left]

/-- A field between what precedes it and what follows it. -/
theorem slice_field {image front field back : List α} {offset count : Nat}
    (layout : image = front ++ (field ++ back)) (starts : front.length = offset)
    (long : field.length = count) : slice image offset count = field := by
  rw [layout, ← starts, slice_append_right, ← long, List.take_left]

theorem slice_append_slice {image : List α} {offset first middle last : Nat}
    (meets : offset + first = middle) :
    slice image offset first ++ slice image middle last = slice image offset (first + last) := by
  rw [slice, slice, slice, List.take_add, List.drop_drop, meets]

theorem getD_append_left {front back : List α} {index : Nat} (fallback : α)
    (within : index < front.length) :
    (front ++ back).getD index fallback = front.getD index fallback := by
  rw [List.getD_eq_getElem?_getD, List.getD_eq_getElem?_getD, List.getElem?_append_left within]

theorem getD_take {image : List α} {index bound : Nat} (fallback : α) (within : index < bound) :
    (image.take bound).getD index fallback = image.getD index fallback := by
  rw [List.getD_eq_getElem?_getD, List.getD_eq_getElem?_getD, List.getElem?_take, if_pos within]

theorem getD_overwrite_before {image data : List α} {offset index : Nat} (fallback : α)
    (fits : offset ≤ image.length) (before : index < offset) :
    (overwrite image offset data).getD index fallback = image.getD index fallback := by
  rw [overwrite, List.append_assoc, getD_append_left _ (by rw [List.length_take]; omega),
    getD_take _ before]

theorem length_slice {image : List α} {offset count : Nat} (within : offset + count ≤ image.length) :
    (slice image offset count).length = count := by
  rw [slice, List.length_take, List.length_drop, Nat.min_eq_left (by omega)]

end Image

/-! ## Byte order -/

inductive ByteOrder where
  | little
  | big
  deriving DecidableEq, Repr

namespace ByteOrder

/-- The `width` low-order bytes of `value`, least significant first. -/
def lowFirst : Nat → Nat → List UInt8
  | 0, _ => []
  | width + 1, value => UInt8.ofNat value :: lowFirst width (value / 256)

def ofLowFirst : List UInt8 → Nat
  | [] => 0
  | byte :: bytes => byte.toNat + 256 * ofLowFirst bytes

/-- The memory image of an unsigned integer of `width` bytes. -/
def toBytes (order : ByteOrder) (width value : Nat) : List UInt8 :=
  match order with
  | little => lowFirst width value
  | big => (lowFirst width value).reverse

/-- The integer a memory image stands for. -/
def ofBytes (order : ByteOrder) (bytes : List UInt8) : Nat :=
  match order with
  | little => ofLowFirst bytes
  | big => ofLowFirst bytes.reverse

@[simp] theorem length_lowFirst (width value : Nat) : (lowFirst width value).length = width := by
  induction width generalizing value with
  | zero => rfl
  | succ width ih => simp [lowFirst, ih]

@[simp] theorem length_toBytes (order : ByteOrder) (width value : Nat) :
    (order.toBytes width value).length = width := by
  cases order <;> simp [toBytes]

private theorem ofLowFirst_lowFirst (width value : Nat) :
    ofLowFirst (lowFirst width value) = value % 256 ^ width := by
  induction width generalizing value with
  | zero => simp [lowFirst, ofLowFirst, Nat.mod_one]
  | succ width ih =>
      have digit : (UInt8.ofNat value).toNat = value % 256 := by simp
      rw [lowFirst, ofLowFirst, ih, digit, Nat.pow_succ, Nat.mul_comm (256 ^ width) 256,
        Nat.mod_mul]

/-- Writing a value that fits and reading it back in the same order is exact. -/
theorem ofBytes_toBytes (order : ByteOrder) {width value : Nat} (fits : value < 256 ^ width) :
    order.ofBytes (order.toBytes width value) = value := by
  cases order <;>
    simp only [ofBytes, toBytes, List.reverse_reverse, ofLowFirst_lowFirst, Nat.mod_eq_of_lt fits]

private theorem ofLowFirst_injective {first last : List UInt8} (long : first.length = last.length)
    (same : ofLowFirst first = ofLowFirst last) : first = last := by
  induction first generalizing last with
  | nil => exact (List.eq_nil_of_length_eq_zero long.symm).symm
  | cons byte first ih =>
      cases last with
      | nil => cases long
      | cons other last =>
          have digit := byte.toNat_lt
          have otherDigit := other.toNat_lt
          rw [ofLowFirst, ofLowFirst] at same
          have head : byte = other := UInt8.toNat_inj.mp (by omega)
          have tail : first = last := ih (Nat.succ.inj long) (by omega)
          rw [head, tail]

/-- An image means the same in two orders when they are one order or the image
reads the same from both ends. -/
theorem ofBytes_eq_iff {order other : ByteOrder} {bytes : List UInt8} :
    order.ofBytes bytes = other.ofBytes bytes ↔ order = other ∨ bytes.reverse = bytes := by
  cases order <;> cases other <;> simp only [ofBytes, true_or, reduceCtorEq, false_or]
  · exact ⟨fun same => (ofLowFirst_injective (by simp) same).symm, fun same => by rw [same]⟩
  · exact ⟨ofLowFirst_injective (by simp), fun same => by rw [same]⟩

end ByteOrder

end Foundation
