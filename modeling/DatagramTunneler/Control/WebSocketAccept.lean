import DatagramTunneler.Foundation.Base64
import DatagramTunneler.Foundation.Sha1
import DatagramTunneler.Text

/-! The accept key of the WebSocket handshake. An access to a `std::vector` outside its
bounds is `none`; an array of fixed size is a `Vector`, whose accesses carry their bound. -/

set_option autoImplicit false

namespace DatagramTunneler

open Foundation

def kWebSocketGuid : Text := ascii "258EAFA5-E914-47DA-95CA-C5AB0DC85B11"

/-! ## The hash -/

/-- `h0` to `h4`, and `a` to `e`. -/
abbrev Hashes := Sha1.Registers

/-- `while ((bytes.size() % 64U) != 56U) bytes.push_back(0U)`. -/
def padBytes (bytes : List UInt8) : List UInt8 :=
  if bytes.length % 64 ≠ 56 then padBytes (bytes ++ [0]) else bytes
  termination_by (120 - bytes.length % 64) % 64
  decreasing_by
    simp only [List.length_append, List.length_singleton]
    omega

/-- The shifts of `for (int shift = 56; shift >= 0; shift -= 8)`. -/
def lengthBytes (bit_length : BitVec 64) : List UInt8 :=
  [56, 48, 40, 32, 24, 16, 8, 0].map fun shift => ⟨(bit_length >>> (shift : Nat)).setWidth 8⟩

def paddedBytes (input : Text) : List UInt8 :=
  let bit_length := BitVec.ofNat 64 input.length * 8
  padBytes (input ++ [0x80]) ++ lengthBytes bit_length

/-- `static_cast<std::uint32_t>(bytes[position])`. -/
def readByte (bytes : List UInt8) (position : Nat) : Option (BitVec 32) :=
  bytes[position]?.map fun byte => byte.toBitVec.setWidth 32

def readWord (bytes : List UInt8) (position : Nat) : Option (BitVec 32) := do
  let first ← readByte bytes position
  let second ← readByte bytes (position + 1)
  let third ← readByte bytes (position + 2)
  let fourth ← readByte bytes (position + 3)
  return first <<< 24 ||| second <<< 16 ||| third <<< 8 ||| fourth

/-- The first loop over `words`. -/
def loadWords (bytes : List UInt8) (offset : Nat) : Option (Vector (BitVec 32) 80) :=
  Nat.fold 16 (fun index _ words => do
    let words ← words
    let word ← readWord bytes (offset + index * 4)
    return words.set index word) (some (Vector.replicate 80 0))

/-- The second loop over `words`, from index 16 on. -/
def extendWords (words : Vector (BitVec 32) 80) : Vector (BitVec 32) 80 :=
  Nat.fold 64 (fun step _ words =>
    let index := step + 16
    let value := words[index - 3] ^^^ words[index - 8] ^^^ words[index - 14] ^^^ words[index - 16]
    words.set index (value <<< 1 ||| value >>> 31)) words

/-- `function`. -/
def roundFunction (index : Nat) (b c d : BitVec 32) : BitVec 32 :=
  if index < 20 then (b &&& c) ||| (~~~b &&& d)
  else if index < 40 then b ^^^ c ^^^ d
  else if index < 60 then (b &&& c) ||| (b &&& d) ||| (c &&& d)
  else b ^^^ c ^^^ d

/-- `constant`. -/
def roundConstant (index : Nat) : BitVec 32 :=
  if index < 20 then 0x5A827999
  else if index < 40 then 0x6ED9EBA1
  else if index < 60 then 0x8F1BBCDC
  else 0xCA62C1D6

/-- The loop over all `words`. -/
def runRounds (words : Vector (BitVec 32) 80) (hashes : Hashes) : Hashes :=
  Nat.fold 80 (fun index _ current =>
    let rotated := current.a <<< 5 ||| current.a >>> 27
    let temp := rotated + roundFunction index current.b current.c current.d + current.e +
      roundConstant index + words[index]
    ⟨temp, current.a, current.b <<< 30 ||| current.b >>> 2, current.c, current.d⟩) hashes

def hashBlock (bytes : List UInt8) (offset : Nat) (hashes : Hashes) : Option Hashes := do
  let loaded ← loadWords bytes offset
  let current := runRounds (extendWords loaded) hashes
  return ⟨hashes.a + current.a, hashes.b + current.b, hashes.c + current.c, hashes.d + current.d,
    hashes.e + current.e⟩

/-- `for (std::size_t offset = 0; offset < bytes.size(); offset += 64U)`. -/
def hashBlocks (bytes : List UInt8) (offset : Nat) (hashes : Hashes) : Option Hashes :=
  if offset < bytes.length then do
    let next ← hashBlock bytes offset hashes
    hashBlocks bytes (offset + 64) next
  else some hashes
  termination_by bytes.length - offset

def digestOf (hashes : Vector (BitVec 32) 5) : Vector UInt8 20 :=
  Nat.fold 5 (fun index _ digest =>
    Nat.fold 4 (fun byte _ digest =>
      digest.set (index * 4 + byte) ⟨(hashes[index] >>> (24 - byte * 8)).setWidth 8⟩) digest)
    (Vector.replicate 20 0)

def sha1 (input : Text) : Option (Vector UInt8 20) := do
  let hashes ← hashBlocks (paddedBytes input) 0
    ⟨0x67452301, 0xEFCDAB89, 0x98BADCFE, 0x10325476, 0xC3D2E1F0⟩
  return digestOf #v[hashes.a, hashes.b, hashes.c, hashes.d, hashes.e]

/-! ## The encoding -/

def base64Alphabet : Text :=
  ascii "ABCDEFGHIJKLMNOPQRSTUVWXYZabcdefghijklmnopqrstuvwxyz0123456789+/"

/-- `alphabet[sextet & 0x3FU]`. -/
def alphabetAt (sextet : BitVec 32) : Option UInt8 := base64Alphabet[(sextet &&& 0x3F).toNat]?

/-- `for (std::size_t index = 0; index < input.size(); index += 3U)`. -/
def base64From {size : Nat} (input : Vector UInt8 size) (index : Nat) : Option Text :=
  if first : index < size then do
    let second : BitVec 32 :=
      if within : index + 1 < size then input[index + 1].toBitVec.setWidth 32 <<< 8 else 0
    let third : BitVec 32 :=
      if within : index + 2 < size then input[index + 2].toBitVec.setWidth 32 else 0
    let value := input[index].toBitVec.setWidth 32 <<< 16 ||| second ||| third
    let a ← alphabetAt (value >>> 18)
    let b ← alphabetAt (value >>> 12)
    let c ← (if index + 1 < size then alphabetAt (value >>> 6) else some (byteOf '='))
    let d ← (if index + 2 < size then alphabetAt value else some (byteOf '='))
    let rest ← base64From input (index + 3)
    return a :: b :: c :: d :: rest
  else some []
  termination_by size - index

def base64 (input : Vector UInt8 20) : Option Text := base64From input 0

def acceptKey (key : Text) : Option Text := do
  let digest ← sha1 (key ++ kWebSocketGuid)
  base64 digest

/-- The response to an upgrade request with a `Sec-WebSocket-Key`. -/
def switchingProtocols (key : Text) : Option Text := do
  let accept_key ← acceptKey key
  return ascii "HTTP/1.1 101 Switching Protocols\r\nUpgrade: websocket\r\nConnection: Upgrade\r\nSec-WebSocket-Accept: " ++
    accept_key ++ ascii "\r\n\r\n"

/-! ## Padding -/

private theorem padBytes_eq (bytes : List UInt8) :
    padBytes bytes = bytes ++ List.replicate ((120 - bytes.length % 64) % 64) 0 := by
  induction bytes using padBytes.induct with
  | case1 bytes more ih =>
      have length : (120 - bytes.length % 64) % 64 =
          (120 - (bytes ++ [0]).length % 64) % 64 + 1 := by
        simp only [List.length_append, List.length_singleton]
        omega
      rw [padBytes, if_pos more, ih, length, List.replicate_succ, List.append_assoc,
        List.singleton_append]
  | case2 bytes enough =>
      have none : (120 - bytes.length % 64) % 64 = 0 := by omega
      rw [padBytes, if_neg enough, none, List.replicate_zero, List.append_nil]

private theorem shift_setWidth {width : Nat} (value : BitVec width) (shift : Nat) :
    (value >>> shift).setWidth 8 = value.extractLsb' shift 8 := by
  apply BitVec.eq_of_toNat_eq
  simp

private theorem lengthBytes_eq (bit_length : BitVec 64) :
    lengthBytes bit_length = Sha1.bigEndian 8 bit_length := by
  simp only [lengthBytes, shift_setWidth]
  rfl

private theorem paddedBytes_eq (input : Text) : paddedBytes input = Sha1.pad input := by
  have bits : BitVec.ofNat 64 input.length * 8 = BitVec.ofNat 64 (8 * input.length) := by
    apply BitVec.eq_of_toNat_eq
    simp [Nat.mul_comm]
  have zeros : (120 - (input ++ [0x80]).length % 64) % 64 = Sha1.zeroBytes input.length := by
    simp only [List.length_append, List.length_singleton, Sha1.zeroBytes]
    omega
  rw [paddedBytes, padBytes_eq, lengthBytes_eq, bits, zeros, Sha1.pad, List.append_assoc input,
    List.singleton_append]

/-! ## Words -/

section Words

private theorem toNat_byte_shift (byte : BitVec 8) {shift : Nat} (bound : shift ≤ 24) :
    (byte.setWidth 32 <<< shift).toNat = byte.toNat <<< shift := by
  have small : byte.toNat <<< shift < 2 ^ 32 := by
    rw [Nat.shiftLeft_eq]
    calc byte.toNat * 2 ^ shift < 2 ^ 8 * 2 ^ shift :=
          Nat.mul_lt_mul_of_pos_right byte.isLt (Nat.two_pow_pos shift)
      _ = 2 ^ (8 + shift) := (Nat.pow_add 2 8 shift).symm
      _ ≤ 2 ^ 32 := Nat.pow_le_pow_right (by decide) (by omega)
  have byte_ : byte.toNat % 2 ^ 32 = byte.toNat :=
    Nat.mod_eq_of_lt (Nat.lt_trans byte.isLt (by decide))
  rw [BitVec.toNat_shiftLeft, BitVec.toNat_setWidth, byte_, Nat.mod_eq_of_lt small]

/-- Shifting bytes into their places puts them one behind the other. -/
theorem toNat_packed_three (first second third : BitVec 8) :
    (first.setWidth 32 <<< 16 ||| second.setWidth 32 <<< 8 ||| third.setWidth 32).toNat =
      (first ++ second ++ third).toNat := by
  have unshifted : third.setWidth 32 = third.setWidth 32 <<< 0 := (BitVec.shiftLeft_zero _).symm
  rw [BitVec.toNat_append, BitVec.toNat_append, unshifted]
  simp only [Nat.shiftLeft_or_distrib, ← Nat.shiftLeft_add, Nat.reduceAdd, BitVec.toNat_or,
    toNat_byte_shift, Nat.reduceLeDiff, Nat.shiftLeft_zero, Nat.zero_le]

private theorem packed_eq_append (first second third fourth : BitVec 8) :
    first.setWidth 32 <<< 24 ||| second.setWidth 32 <<< 16 ||| third.setWidth 32 <<< 8 |||
      fourth.setWidth 32 = first ++ second ++ third ++ fourth := by
  have packed : (first ++ second ++ third ++ fourth).toNat =
      first.toNat <<< 24 ||| second.toNat <<< 16 ||| third.toNat <<< 8 ||| fourth.toNat := by
    rw [BitVec.toNat_append, BitVec.toNat_append, BitVec.toNat_append]
    simp only [Nat.shiftLeft_or_distrib, ← Nat.shiftLeft_add, Nat.reduceAdd]
  have unshifted : fourth.setWidth 32 = fourth.setWidth 32 <<< 0 := (BitVec.shiftLeft_zero _).symm
  apply BitVec.eq_of_toNat_eq
  refine Eq.trans ?_ packed.symm
  rw [unshifted]
  simp only [BitVec.toNat_or, toNat_byte_shift, le_refl, Nat.reduceLeDiff, Nat.shiftLeft_zero,
    Nat.zero_le]

variable {bytes : List UInt8}

private theorem readByte_eq {position : Nat} (within : position < bytes.length) :
    readByte bytes position = some ((bytes.getD position 0).toBitVec.setWidth 32) := by
  rw [readByte, List.getD_eq_getElem?_getD, List.getElem?_eq_getElem within]
  rfl

private theorem readWord_eq {position : Nat} (within : position + 3 < bytes.length) :
    readWord bytes position = some (Sha1.word bytes position) := by
  unfold readWord Sha1.word
  rw [readByte_eq (show position < bytes.length by omega),
    readByte_eq (show position + 1 < bytes.length by omega),
    readByte_eq (show position + 2 < bytes.length by omega), readByte_eq within,
    ← packed_eq_append]
  rfl

/-- What holds before a loop and is kept by its body holds after it. -/
theorem fold_invariant {State : Type} {property : Nat → State → Prop} (count : Nat)
    (body : (index : Nat) → index < count → State → State) (start : State)
    (before : property 0 start) (kept : ∀ index within state, property index state →
      property (index + 1) (body index within state)) :
    property count (Nat.fold count body start) := by
  induction count with
  | zero => exact before
  | succ count ih =>
      rw [Nat.fold_succ]
      apply kept
      exact ih (fun index within => body index (Nat.lt_succ_of_lt within))
        fun index within => kept index (Nat.lt_succ_of_lt within)

private theorem loadWords_eq {offset : Nat} (within : offset + 63 < bytes.length) :
    ∃ words, loadWords bytes offset = some words ∧
      ∀ index (small : index < 16), words[index] = Sha1.word bytes (offset + 4 * index) := by
  have loaded : ∃ words, loadWords bytes offset = some words ∧
      ∀ index (small : index < 80), index < 16 →
        words[index] = Sha1.word bytes (offset + 4 * index) := by
    refine @fold_invariant (Option (Vector (BitVec 32) 80)) (fun count loaded =>
      ∃ words, loaded = some words ∧ ∀ index (small : index < 80), index < count →
        words[index] = Sha1.word bytes (offset + 4 * index)) 16 _ _ ?_ ?_
    · exact ⟨_, rfl, fun index _ impossible => absurd impossible (Nat.not_lt_zero index)⟩
    · intro count small loaded holds
      obtain ⟨words, rfl, holds⟩ := holds
      rw [Option.bind_eq_bind, Option.bind_some, readWord_eq (by omega)]
      refine ⟨_, rfl, ?_⟩
      intro index inside before
      rw [Vector.getElem_set]
      split
      · next same => rw [← same, Nat.mul_comm count 4]
      · next other => exact holds index inside (by omega)
  obtain ⟨words, same, holds⟩ := loaded
  exact ⟨words, same, fun index small => holds index (by omega) small⟩

private theorem extendWords_eq {M : Nat → BitVec 32} {words : Vector (BitVec 32) 80}
    (loaded : ∀ index (small : index < 16), words[index] = M index) (index : Nat)
    (inside : index < 80) : (extendWords words)[index] = Sha1.W M index := by
  have extended : ∀ index (inside : index < 80), index < 64 + 16 →
      (extendWords words)[index] = Sha1.W M index := by
    refine @fold_invariant (Vector (BitVec 32) 80) (fun count words =>
      ∀ index (inside : index < 80), index < count + 16 → words[index] = Sha1.W M index)
      64 _ _ ?_ ?_
    · intro index inside small
      rw [Sha1.W_input (by omega), loaded index (by omega)]
    · intro count small words holds index inside before
      rw [Vector.getElem_set]
      split
      · next same =>
          subst same
          rw [Sha1.W_recurrence (by omega), holds (count + 16 - 3) (by omega) (by omega),
            holds (count + 16 - 8) (by omega) (by omega),
            holds (count + 16 - 14) (by omega) (by omega),
            holds (count + 16 - 16) (by omega) (by omega)]
          rfl
      · next other => exact holds index inside (by omega)
  exact extended index inside (by omega)

end Words

/-! ## Rounds -/

private theorem roundFunction_eq (index : Nat) (x y z : BitVec 32) :
    roundFunction index x y z = Sha1.f index x y z := by
  have choose : (x &&& y) ||| (~~~x &&& z) = Sha1.Ch x y z := by
    unfold Sha1.Ch
    ext bit within
    simp only [BitVec.getElem_or, BitVec.getElem_xor, BitVec.getElem_and, BitVec.getElem_not]
    cases x[bit] <;> simp
  have majority : (x &&& y) ||| (x &&& z) ||| (y &&& z) = Sha1.Maj x y z := by
    unfold Sha1.Maj
    ext bit within
    simp only [BitVec.getElem_or, BitVec.getElem_xor, BitVec.getElem_and]
    cases x[bit] <;> cases y[bit] <;> cases z[bit] <;> rfl
  unfold roundFunction Sha1.f Sha1.Parity
  rw [choose, majority]
  simp only [Nat.lt_succ_iff]

private theorem roundConstant_eq (index : Nat) : roundConstant index = Sha1.K index := by
  unfold roundConstant Sha1.K
  simp only [Nat.lt_succ_iff]

private theorem runRounds_eq {schedule : Nat → BitVec 32} {words : Vector (BitVec 32) 80}
    (extended : ∀ index (inside : index < 80), words[index] = schedule index) (hashes : Hashes) :
    runRounds words hashes = Sha1.rounds schedule hashes 80 := by
  refine @fold_invariant Hashes (fun count current => current = Sha1.rounds schedule hashes count)
    80 _ _ rfl ?_
  intro index inside current holds
  subst holds
  rw [Sha1.rounds, Sha1.round, extended index inside, roundFunction_eq, roundConstant_eq]
  rfl

private theorem hashBlock_eq {bytes : List UInt8} {offset : Nat} (within : offset + 63 < bytes.length)
    (hashes : Hashes) : hashBlock bytes offset hashes =
      some (Sha1.compress (fun j => Sha1.word bytes (offset + 4 * j)) hashes) := by
  obtain ⟨words, loaded, input⟩ := loadWords_eq within
  have schedule := @extendWords_eq (fun j => Sha1.word bytes (offset + 4 * j)) words input
  rw [hashBlock, loaded, Option.bind_eq_bind, Option.bind_some, runRounds_eq schedule]
  rfl

/-- From any block on, the loop goes through the rest of a message of whole blocks. -/
theorem hashBlocks_eq {bytes : List UInt8} {count : Nat} (whole : bytes.length = 64 * count)
    (rest done : Nat) (split : done + rest = count) :
    hashBlocks bytes (64 * done) (Sha1.hashAfter bytes done) = some (Sha1.hashAfter bytes count) := by
  induction rest generalizing done with
  | zero =>
      obtain rfl : done = count := split
      rw [hashBlocks, if_neg (by omega)]
  | succ rest ih =>
      rw [hashBlocks, if_pos (by omega), hashBlock_eq (by omega), Option.bind_eq_bind,
        Option.bind_some]
      exact ih (done + 1) (by omega)

/-! ## The digest -/

private theorem digestOf_getElem (hashes : Vector (BitVec 32) 5) (position : Nat) (inside : position < 20) :
    (digestOf hashes)[position] =
      ⟨(hashes[position / 4] >>> (24 - position % 4 * 8)).setWidth 8⟩ := by
  have written : ∀ position (inside : position < 20), position < 4 * 5 →
      (digestOf hashes)[position] =
        ⟨(hashes[position / 4] >>> (24 - position % 4 * 8)).setWidth 8⟩ := by
    refine @fold_invariant (Vector UInt8 20) (fun count digest =>
      ∀ position (inside : position < 20), position < 4 * count →
        digest[position] = ⟨(hashes[position / 4] >>> (24 - position % 4 * 8)).setWidth 8⟩)
      5 _ _ (fun position _ impossible => by omega) ?_
    intro index small digest holds
    refine @fold_invariant (Vector UInt8 20) (fun count digest =>
      ∀ position (inside : position < 20), position < 4 * index + count →
        digest[position] = ⟨(hashes[position / 4] >>> (24 - position % 4 * 8)).setWidth 8⟩)
      4 _ _ holds ?_
    intro byte smaller digest holds position inside before
    rw [Vector.getElem_set]
    split
    · next same =>
        have quotient : position / 4 = index := by omega
        have remainder : position % 4 = byte := by omega
        simp only [quotient, remainder]
    · next other => exact holds position inside (by omega)
  exact written position inside inside

private theorem digestOf_toList (hashes : Hashes) :
    (digestOf #v[hashes.a, hashes.b, hashes.c, hashes.d, hashes.e]).toList = hashes.digest := by
  have written : (digestOf #v[hashes.a, hashes.b, hashes.c, hashes.d, hashes.e]).toList =
      List.ofFn fun position : Fin 20 =>
        ⟨(#v[hashes.a, hashes.b, hashes.c, hashes.d, hashes.e][position.val / 4] >>>
          (24 - position.val % 4 * 8)).setWidth 8⟩ := by
    apply List.ext_getElem
    · simp
    · intro position inside _
      rw [Vector.getElem_toList, digestOf_getElem, List.getElem_ofFn]
  rw [written]
  simp only [shift_setWidth]
  rfl

private theorem sha1_eq (input : Text) :
    ∃ digest, sha1 input = some digest ∧ digest.toList = Sha1.sha1 input := by
  have whole : (Sha1.pad input).length = 64 * ((Sha1.pad input).length / 64) := by
    have := Sha1.length_pad_mod input
    omega
  have hashed := hashBlocks_eq whole _ 0 (Nat.zero_add _)
  refine ⟨_, ?_, digestOf_toList (Sha1.hashAfter (Sha1.pad input) ((Sha1.pad input).length / 64))⟩
  rw [sha1, paddedBytes_eq]
  change (hashBlocks (Sha1.pad input) (64 * 0) (Sha1.hashAfter (Sha1.pad input) 0)).bind _ = _
  rw [hashed]
  rfl

/-! ## The encoding -/

private theorem base64Alphabet_character (sextet : BitVec 6) :
    base64Alphabet[sextet.toNat]? = some (Base64.character sextet) := by
  revert sextet
  decide

private theorem alphabetAt_eq {value : BitVec 32} {bits : BitVec 24} (same : value.toNat = bits.toNat)
    (shift : Nat) :
    alphabetAt (value >>> shift) = some (Base64.character (bits.extractLsb' shift 6)) := by
  have masked : (value >>> shift &&& 0x3F).toNat = (bits.extractLsb' shift 6).toNat := by
    have low : (value >>> shift).toNat &&& 2 ^ 6 - 1 = (value >>> shift).toNat % 2 ^ 6 :=
      Nat.and_two_pow_sub_one_eq_mod _ 6
    rw [BitVec.extractLsb'_toNat, ← same]
    exact low
  rw [alphabetAt, masked, base64Alphabet_character]

private theorem alphabetAt_low {value : BitVec 32} {bits : BitVec 24} (same : value.toNat = bits.toNat) :
    alphabetAt value = some (Base64.character (bits.extractLsb' 0 6)) := by
  have unshifted := alphabetAt_eq same 0
  rw [BitVec.ushiftRight_zero] at unshifted
  exact unshifted

private theorem base64From_eq {size : Nat} (input : Vector UInt8 size) (index : Nat) :
    base64From input index = some (Base64.encode (input.toList.drop index)) := by
  induction index using base64From.induct input with
  | case1 index within ih =>
      have first : input.toList.drop index = input[index] :: input.toList.drop (index + 1) :=
        List.drop_eq_getElem_cons (by simpa using within)
      by_cases two : index + 1 < size
      · have second : input.toList.drop (index + 1) =
            input[index + 1] :: input.toList.drop (index + 2) :=
          List.drop_eq_getElem_cons (by simpa using two)
        by_cases three : index + 2 < size
        · have third : input.toList.drop (index + 2) =
              input[index + 2] :: input.toList.drop (index + 3) :=
            List.drop_eq_getElem_cons (by simpa using three)
          have same := toNat_packed_three input[index].toBitVec input[index + 1].toBitVec
            input[index + 2].toBitVec
          rw [base64From, dif_pos within, first, second, third, Base64.encode]
          simp only [two, three, dite_true, if_true, ih, alphabetAt_eq same, alphabetAt_low same]
          rfl
        · have ended : input.toList.drop (index + 2) = [] :=
            List.drop_eq_nil_of_le (by simpa using three)
          have past : input.toList.drop (index + 3) = [] :=
            List.drop_eq_nil_of_le (by simp; omega)
          have same : (input[index].toBitVec.setWidth 32 <<< 16 |||
                input[index + 1].toBitVec.setWidth 32 <<< 8 ||| 0).toNat =
              (input[index].toBitVec ++ input[index + 1].toBitVec ++ 0#8).toNat :=
            toNat_packed_three input[index].toBitVec input[index + 1].toBitVec 0
          rw [base64From, dif_pos within, first, second, ended, Base64.encode]
          rw [past] at ih
          simp only [two, three, dite_true, dite_false, if_true, if_false, ih, alphabetAt_eq same]
          rfl
      · have ended : input.toList.drop (index + 1) = [] :=
          List.drop_eq_nil_of_le (by simpa using two)
        have past : input.toList.drop (index + 3) = [] :=
          List.drop_eq_nil_of_le (by simp; omega)
        have same : (input[index].toBitVec.setWidth 32 <<< 16 ||| 0 ||| 0).toNat =
            (input[index].toBitVec ++ 0#16).toNat := by
          change (input[index].toBitVec.setWidth 32 <<< 16 ||| 0#32 ||| 0#32).toNat = _
          rw [BitVec.or_zero, BitVec.or_zero, toNat_byte_shift _ (by decide), BitVec.toNat_append]
          exact (Nat.or_zero _).symm
        have outside : ¬index + 2 < size := by omega
        rw [base64From, dif_pos within, first, ended, Base64.encode]
        rw [past] at ih
        simp only [two, outside, dite_false, if_false, ih, alphabetAt_eq same]
        rfl
  | case2 index outside =>
      have past : input.toList.drop index = [] :=
        List.drop_eq_nil_of_le (by simpa using outside)
      rw [base64From, dif_neg outside, past]
      rfl

private theorem base64_eq (input : Vector UInt8 20) : base64 input = some (Base64.encode input.toList) :=
  base64From_eq input 0

/-! ## The accept key -/

theorem acceptKey_eq (key : Text) :
    acceptKey key = some (Base64.encode (Sha1.sha1 (key ++ kWebSocketGuid))) := by
  obtain ⟨digest, hashed, standard⟩ := sha1_eq (key ++ kWebSocketGuid)
  rw [acceptKey, hashed, Option.bind_eq_bind, Option.bind_some, base64_eq, standard]

/-- The value sent for every key is the base 64 text of the digest that the standard gives for
the key and the identifier behind it, and is read back as the twenty bytes of the digest. For
every message the padded bytes are whole blocks and the hash reads no byte outside them. -/
theorem switchingProtocols_standard (key : Text) :
    let digest := Sha1.sha1 (key ++ kWebSocketGuid)
    switchingProtocols key =
        some (ascii "HTTP/1.1 101 Switching Protocols\r\nUpgrade: websocket\r\nConnection: Upgrade\r\nSec-WebSocket-Accept: " ++
          Base64.encode digest ++ ascii "\r\n\r\n") ∧
      Base64.decode (Base64.encode digest) = some digest ∧ digest.length = 20 ∧
      ∀ input, (paddedBytes input).length % 64 = 0 ∧
        (sha1 input).map Vector.toList = some (Sha1.sha1 input) := by
  refine ⟨?_, Base64.decode_encode _, Sha1.length_sha1 _, ?_⟩
  · rw [switchingProtocols, acceptKey_eq]
    rfl
  · intro input
    obtain ⟨digest, hashed, standard⟩ := sha1_eq input
    refine ⟨?_, ?_⟩
    · rw [paddedBytes_eq]
      exact Sha1.length_pad_mod input
    · rw [hashed, Option.map_some, standard]

/-- The handshake that the protocol's own description gives as its example. -/
example : acceptKey (ascii "dGhlIHNhbXBsZSBub25jZQ==") = some (ascii "s3pPLMBiTxaQ9kYGzzhZRbK+xOo=") := by
  decide +kernel

end DatagramTunneler
