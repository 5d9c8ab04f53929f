import Mathlib.Data.List.Basic

/-! SHA-1 as the Secure Hash Standard states it, on messages of whole bytes: words are
bit vectors, the blocks and the message schedule are functions of an index. -/

set_option autoImplicit false

namespace Foundation.Sha1

abbrev Word := BitVec 32

/-- The five working variables, also the five words of an intermediate hash value. -/
structure Registers where
  a : Word
  b : Word
  c : Word
  d : Word
  e : Word
  deriving DecidableEq, Repr

/-- The initial hash value. -/
def initial : Registers := ⟨0x67452301, 0xEFCDAB89, 0x98BADCFE, 0x10325476, 0xC3D2E1F0⟩

/-! ## Functions and constants -/

def Ch (x y z : Word) : Word := (x &&& y) ^^^ (~~~x &&& z)

def Parity (x y z : Word) : Word := x ^^^ y ^^^ z

def Maj (x y z : Word) : Word := (x &&& y) ^^^ (x &&& z) ^^^ (y &&& z)

/-- The function of round `t`. -/
def f (t : Nat) (x y z : Word) : Word :=
  if t ≤ 19 then Ch x y z
  else if t ≤ 39 then Parity x y z
  else if t ≤ 59 then Maj x y z
  else Parity x y z

/-- The constant of round `t`. -/
def K (t : Nat) : Word :=
  if t ≤ 19 then 0x5A827999
  else if t ≤ 39 then 0x6ED9EBA1
  else if t ≤ 59 then 0x8F1BBCDC
  else 0xCA62C1D6

/-! ## Padding -/

/-- The number of zero bytes between the marker and the length. -/
def zeroBytes (length : Nat) : Nat := (119 - length % 64) % 64

/-- `8 * count` bits, most significant byte first. -/
def bigEndian (count : Nat) (value : BitVec (8 * count)) : List UInt8 :=
  (List.range count).map fun index => ⟨value.extractLsb' (8 * (count - 1 - index)) 8⟩

def pad (message : List UInt8) : List UInt8 :=
  message ++ 0x80 :: List.replicate (zeroBytes message.length) 0 ++
    bigEndian 8 (BitVec.ofNat 64 (8 * message.length))

private theorem length_bigEndian (count : Nat) (value : BitVec (8 * count)) :
    (bigEndian count value).length = count := by
  simp [bigEndian]

/-- The padded message consists of whole blocks. -/
theorem length_pad_mod (message : List UInt8) : (pad message).length % 64 = 0 := by
  simp only [pad, List.length_append, List.length_cons, List.length_replicate, length_bigEndian,
    zeroBytes]
  omega

/-! ## Hash computation -/

/-- The word whose first byte stands at a position. -/
def word (bytes : List UInt8) (position : Nat) : Word :=
  (bytes.getD position 0).toBitVec ++ (bytes.getD (position + 1) 0).toBitVec ++
    (bytes.getD (position + 2) 0).toBitVec ++ (bytes.getD (position + 3) 0).toBitVec

/-- The message schedule of a block `M`. -/
def W (M : Nat → Word) (t : Nat) : Word :=
  if t < 16 then M t
  else (W M (t - 3) ^^^ W M (t - 8) ^^^ W M (t - 14) ^^^ W M (t - 16)).rotateLeft 1
  termination_by t

theorem W_input {M : Nat → Word} {t : Nat} (input : t < 16) : W M t = M t := by
  rw [W, if_pos input]

theorem W_recurrence {M : Nat → Word} {t : Nat} (later : 16 ≤ t) :
    W M t = (W M (t - 3) ^^^ W M (t - 8) ^^^ W M (t - 14) ^^^ W M (t - 16)).rotateLeft 1 := by
  rw [W, if_neg (Nat.not_lt.mpr later)]

/-- One round. -/
def round (t : Nat) (word : Word) (state : Registers) : Registers where
  a := state.a.rotateLeft 5 + f t state.b state.c state.d + state.e + K t + word
  b := state.a
  c := state.b.rotateLeft 30
  d := state.c
  e := state.d

/-- The working variables after the first `t` rounds. -/
def rounds (schedule : Nat → Word) (start : Registers) : Nat → Registers
  | 0 => start
  | t + 1 => round t (schedule t) (rounds schedule start t)

def Registers.add (left right : Registers) : Registers :=
  ⟨left.a + right.a, left.b + right.b, left.c + right.c, left.d + right.d, left.e + right.e⟩

/-- The hash value after one block. -/
def compress (M : Nat → Word) (hash : Registers) : Registers :=
  hash.add (rounds (W M) hash 80)

/-- The hash value after the first blocks of a padded message. -/
def hashAfter (padded : List UInt8) : Nat → Registers
  | 0 => initial
  | block + 1 => compress (fun j => word padded (64 * block + 4 * j)) (hashAfter padded block)

def Registers.digest (hash : Registers) : List UInt8 :=
  bigEndian 4 hash.a ++ bigEndian 4 hash.b ++ bigEndian 4 hash.c ++ bigEndian 4 hash.d ++
    bigEndian 4 hash.e

def sha1 (message : List UInt8) : List UInt8 :=
  (hashAfter (pad message) ((pad message).length / 64)).digest

@[simp] theorem length_sha1 (message : List UInt8) : (sha1 message).length = 20 := by
  simp only [sha1, Registers.digest, List.length_append, length_bigEndian]

end Foundation.Sha1
