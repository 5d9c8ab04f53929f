import DatagramTunneler.Foundation.Bytes

/-! Frames of the WebSocket protocol, as a client reads them. Nothing separates two
frames: where one ends is known from its length only, which is one byte, or an
escape and two or eight more. -/

set_option autoImplicit false

namespace Foundation

structure WebSocketFrame where
  fin : Bool
  rsv : UInt8
  opcode : UInt8
  masking_key : Option (List UInt8)
  /-- How many bytes of the length stand behind the escape. -/
  extended : Nat
  payload : List UInt8
  deriving DecidableEq, Repr

namespace WebSocketFrame

def minimalExtended (length : Nat) : Nat := if length < 126 then 0 else if length < 65536 then 2 else 8

/-! ## Reading -/

def readExtended (extended : Nat) (bytes : List UInt8) : Option (Nat × List UInt8) :=
  if bytes.length < extended then none
  else some (ByteOrder.big.ofBytes (bytes.take extended), bytes.drop extended)

/-- The length, the bytes of it that stand behind the escape, and what follows them. -/
def readLength (low : UInt8) (bytes : List UInt8) : Option (Nat × Nat × List UInt8) :=
  if low = 126 then (readExtended 2 bytes).map fun (length, rest) => (length, 2, rest)
  else if low = 127 then
    (readExtended 8 bytes).bind fun (length, rest) =>
      if length < 2 ^ 63 then some (length, 8, rest) else none
  else some (low.toNat, 0, bytes)

def readKey (masked : Bool) (bytes : List UInt8) : Option (Option (List UInt8) × List UInt8) :=
  if !masked then some (none, bytes)
  else if bytes.length < 4 then none
  else some (some (bytes.take 4), bytes.drop 4)

def unmask (key : Option (List UInt8)) (bytes : List UInt8) : List UInt8 :=
  match key with
  | none => bytes
  | some key => bytes.mapIdx fun index byte => byte ^^^ key.getD (index % 4) 0

def readFrame : List UInt8 → Option (WebSocketFrame × List UInt8)
  | first :: second :: bytes => do
      let (length, extended, bytes) ← readLength (second &&& 0x7f) bytes
      let (key, bytes) ← readKey (second &&& 0x80 != 0) bytes
      if bytes.length < length then none
      else some (⟨first &&& 0x80 != 0, first >>> 4 &&& 0x07, first &&& 0x0f, key, extended,
        unmask key (bytes.take length)⟩, bytes.drop length)
  | _ => none

/-- What a client without extensions takes from a server: no reserved bit and no mask, the
shortest form of the length, and a known opcode; a control frame is whole and small. -/
def Allowed (frame : WebSocketFrame) : Prop :=
  frame.rsv = 0 ∧ frame.masking_key = none ∧ frame.extended = minimalExtended frame.payload.length ∧
    (frame.opcode ≤ 2 ∨
      (8 ≤ frame.opcode ∧ frame.opcode ≤ 10 ∧ frame.fin = true ∧ frame.payload.length ≤ 125))

instance (frame : WebSocketFrame) : Decidable frame.Allowed := by
  unfold Allowed
  infer_instance

def readFramesFrom : Nat → List UInt8 → Option (List WebSocketFrame)
  | _, [] => some []
  | 0, _ :: _ => none
  | fuel + 1, bytes => (readFrame bytes).bind fun (frame, rest) =>
      if frame.Allowed then (readFramesFrom fuel rest).map (frame :: ·) else none

/-- The frames of a whole stream. No frame is empty, so that the fuel is enough. -/
def readFrames (bytes : List UInt8) : Option (List WebSocketFrame) := readFramesFrom bytes.length bytes

/-- The frames that have arrived whole; a client closes the connection at one it may not take. -/
def readWholeFrom : Nat → List UInt8 → List WebSocketFrame
  | 0, _ => []
  | fuel + 1, bytes =>
      match readFrame bytes with
      | some (frame, rest) => if frame.Allowed then frame :: readWholeFrom fuel rest else []
      | none => []

def readWhole (bytes : List UInt8) : List WebSocketFrame := readWholeFrom bytes.length bytes

/-! ## Writing -/

def lengthField (length : Nat) : List UInt8 :=
  if length < 126 then [UInt8.ofNat length]
  else if length < 65536 then 126 :: ByteOrder.big.toBytes 2 length
  else 127 :: ByteOrder.big.toBytes 8 length

def final (opcode : UInt8) (payload : List UInt8) : WebSocketFrame :=
  ⟨true, 0, opcode, none, minimalExtended payload.length, payload⟩

def write (opcode : UInt8) (payload : List UInt8) : List UInt8 :=
  (0x80 ||| opcode) :: lengthField payload.length ++ payload

/-! ## Reading what was written -/

private theorem readExtended_toBytes {extended length : Nat} (fits : length < 256 ^ extended) (rest : List UInt8) :
    readExtended extended (ByteOrder.big.toBytes extended length ++ rest) = some (length, rest) := by
  have long : (ByteOrder.big.toBytes extended length).length = extended := ByteOrder.length_toBytes _ _ _
  rw [readExtended, if_neg (by rw [List.length_append]; omega), List.take_left' long,
    List.drop_left' long, ByteOrder.ofBytes_toBytes _ fits]

private theorem small_length : ∀ length < 126, (UInt8.ofNat length &&& 0x7f).toNat = length ∧
    UInt8.ofNat length &&& 0x7f ≠ 126 ∧ UInt8.ofNat length &&& 0x7f ≠ 127 ∧
    UInt8.ofNat length &&& 0x80 = 0 := by
  decide

/-- The second byte of a frame is without the mask bit, and the length is what was written. -/
theorem lengthField_eq {length : Nat} (small : length < 2 ^ 63) :
    ∃ second field, lengthField length = second :: field ∧ second &&& 0x80 = 0 ∧
      ∀ rest, readLength (second &&& 0x7f) (field ++ rest) =
        some (length, minimalExtended length, rest) := by
  unfold lengthField minimalExtended
  by_cases one : length < 126
  · rw [if_pos one, if_pos one]
    obtain ⟨value, two, eight, unmasked⟩ := small_length length one
    refine ⟨_, [], rfl, unmasked, ?_⟩
    intro rest
    rw [readLength, if_neg two, if_neg eight, value]
    rfl
  · rw [if_neg one, if_neg one]
    by_cases two : length < 65536
    · rw [if_pos two, if_pos two]
      refine ⟨126, _, rfl, by decide, ?_⟩
      intro rest
      rw [readLength, if_pos (by decide), readExtended_toBytes (by omega)]
      rfl
    · rw [if_neg two, if_neg two]
      refine ⟨127, _, rfl, by decide, ?_⟩
      intro rest
      rw [readLength, if_neg (by decide), if_pos (by decide), readExtended_toBytes (by omega),
        Option.bind_some]
      exact if_pos small

/-- These bytes are read as this frame, whatever follows. -/
def Reads (bytes : List UInt8) (frame : WebSocketFrame) : Prop :=
  ∀ rest, readFrame (bytes ++ rest) = some (frame, rest)

private theorem small_opcode {opcode : UInt8} (known : opcode < 16) : ((0x80 ||| opcode) &&& 0x80 != 0) = true ∧
    (0x80 ||| opcode) >>> 4 &&& 0x07 = 0 ∧ (0x80 ||| opcode) &&& 0x0f = opcode := by
  have each : ∀ value < 16, ((0x80 ||| UInt8.ofNat value) &&& 0x80 != 0) = true ∧
      (0x80 ||| UInt8.ofNat value) >>> 4 &&& 0x07 = 0 ∧
      (0x80 ||| UInt8.ofNat value) &&& 0x0f = UInt8.ofNat value := by decide
  have same := each opcode.toNat (UInt8.lt_iff_toNat_lt.mp known)
  rwa [UInt8.ofNat_toNat] at same

theorem reads_write {opcode : UInt8} (known : opcode < 16) {payload : List UInt8}
    (small : payload.length < 2 ^ 63) : Reads (write opcode payload) (final opcode payload) := by
  obtain ⟨last, reserved, same⟩ := small_opcode known
  obtain ⟨second, field, split, unmasked, length⟩ := lengthField_eq small
  have mask : (second &&& 0x80 != 0) = false := by
    rw [unmasked]
    rfl
  intro rest
  have text : write opcode payload ++ rest = (0x80 ||| opcode) :: second :: (field ++ (payload ++ rest)) := by
    rw [write, split, List.cons_append, List.cons_append, List.cons_append, List.cons_append,
      List.append_assoc]
  have enough : ¬ (payload ++ rest).length < payload.length := by
    rw [List.length_append]
    omega
  rw [text, readFrame, length (payload ++ rest), Option.bind_eq_bind, Option.bind_some, mask, last,
    reserved, same]
  simp only [readKey, Bool.not_false, if_true, Option.bind_eq_bind, Option.bind_some, if_neg enough,
    List.take_left, List.drop_left]
  rfl

theorem allowed_final {opcode : UInt8} (data : opcode ≤ 2) (payload : List UInt8) :
    (final opcode payload).Allowed :=
  ⟨rfl, rfl, rfl, .inl data⟩

private theorem Reads.length_pos {bytes : List UInt8} {frame : WebSocketFrame} (reads : Reads bytes frame) :
    0 < bytes.length := by
  cases bytes with
  | nil => cases reads []
  | cons byte bytes => exact Nat.succ_pos _

private theorem readFramesFrom_append {bytes : List UInt8} {frame : WebSocketFrame} (reads : Reads bytes frame)
    (allowed : frame.Allowed) (fuel : Nat) (rest : List UInt8) :
    readFramesFrom (fuel + 1) (bytes ++ rest) = (readFramesFrom fuel rest).map (frame :: ·) := by
  cases bytes with
  | nil => cases reads []
  | cons byte bytes =>
      rw [List.cons_append, readFramesFrom, ← List.cons_append, reads rest, Option.bind_some]
      · exact if_pos allowed
      · exact List.cons_ne_nil _ _

section Streams

variable {Item : Type} {bytes : Item → List UInt8} {frame : Item → WebSocketFrame}

private theorem readFramesFrom_flatMap {items : List Item}
    (each : ∀ item ∈ items, Reads (bytes item) (frame item) ∧ (frame item).Allowed) {fuel : Nat}
    (enough : items.length ≤ fuel) :
    readFramesFrom fuel (items.flatMap bytes) = some (items.map frame) := by
  induction items generalizing fuel with
  | nil => cases fuel <;> rfl
  | cons item items ih =>
      obtain ⟨reads, allowed⟩ := each item List.mem_cons_self
      obtain ⟨fuel, rfl⟩ : ∃ more, fuel = more + 1 := ⟨fuel - 1, by rw [List.length_cons] at enough; omega⟩
      rw [List.flatMap_cons, readFramesFrom_append reads allowed,
        ih (fun other inside => each other (List.mem_cons_of_mem _ inside)) (Nat.le_of_succ_le_succ enough)]
      rfl

private theorem length_le_flatMap {items : List Item} (each : ∀ item ∈ items, 0 < (bytes item).length) :
    items.length ≤ (items.flatMap bytes).length := by
  induction items with
  | nil => exact Nat.zero_le _
  | cons item items ih =>
      have here := each item List.mem_cons_self
      have rest := ih fun other inside => each other (List.mem_cons_of_mem _ inside)
      rw [List.flatMap_cons, List.length_append, List.length_cons]
      omega

/-- Frames that are each read alone are read one after the other. -/
theorem readFrames_flatMap {items : List Item}
    (each : ∀ item ∈ items, Reads (bytes item) (frame item) ∧ (frame item).Allowed) :
    readFrames (items.flatMap bytes) = some (items.map frame) :=
  readFramesFrom_flatMap each (length_le_flatMap fun item inside => (each item inside).1.length_pos)

end Streams

/-! ## Frames that have not arrived whole -/

section

variable {bytes more : List UInt8}

private theorem readExtended_append {extended length : Nat} {rest : List UInt8}
    (read : readExtended extended bytes = some (length, rest)) :
    readExtended extended (bytes ++ more) = some (length, rest ++ more) := by
  unfold readExtended at read ⊢
  split_ifs at read with short
  cases read
  have enough : extended ≤ bytes.length := Nat.le_of_not_lt short
  rw [if_neg (by rw [List.length_append]; omega), List.take_append_of_le_length enough,
    List.drop_append_of_le_length enough]

private theorem readLength_append {low : UInt8} {length extended : Nat} {rest : List UInt8}
    (read : readLength low bytes = some (length, extended, rest)) :
    readLength low (bytes ++ more) = some (length, extended, rest ++ more) := by
  unfold readLength at read ⊢
  split_ifs at read ⊢ with two eight
  · obtain ⟨⟨value, behind⟩, field, same⟩ := Option.map_eq_some_iff.mp read
    cases same
    rw [readExtended_append field]
    rfl
  · obtain ⟨⟨value, behind⟩, field, same⟩ := Option.bind_eq_some_iff.mp read
    dsimp only at same
    split_ifs at same with small
    cases same
    rw [readExtended_append field]
    exact if_pos small
  · cases read
    rfl

private theorem readKey_append {masked : Bool} {key : Option (List UInt8)} {rest : List UInt8}
    (read : readKey masked bytes = some (key, rest)) :
    readKey masked (bytes ++ more) = some (key, rest ++ more) := by
  unfold readKey at read ⊢
  split_ifs at read ⊢ with unmasked short
  · cases read
    rfl
  · rw [List.length_append] at *
    omega
  · cases read
    have enough : 4 ≤ bytes.length := by omega
    rw [List.take_append_of_le_length enough, List.drop_append_of_le_length enough]

private theorem readFrame_append {frame : WebSocketFrame} {rest : List UInt8}
    (read : readFrame bytes = some (frame, rest)) :
    readFrame (bytes ++ more) = some (frame, rest ++ more) := by
  match bytes, read with
  | first :: second :: bytes, read =>
      simp only [readFrame, Option.bind_eq_bind] at read
      obtain ⟨⟨length, extended, behind⟩, field, read⟩ := Option.bind_eq_some_iff.mp read
      obtain ⟨⟨key, payload⟩, mask, read⟩ := Option.bind_eq_some_iff.mp read
      dsimp only at read mask
      split_ifs at read with short
      cases read
      have enough : length ≤ payload.length := Nat.le_of_not_lt short
      simp only [List.cons_append, readFrame, Option.bind_eq_bind, readLength_append field,
        Option.bind_some, readKey_append mask]
      rw [if_neg (by rw [List.length_append]; omega), List.take_append_of_le_length enough,
        List.drop_append_of_le_length enough]

/-- Nothing is read of a frame before it is complete. -/
theorem Reads.incomplete {frame : WebSocketFrame} (reads : Reads (bytes ++ more) frame)
    (missing : more ≠ []) : readFrame bytes = none := by
  cases read : readFrame bytes with
  | none => rfl
  | some found =>
      have whole := reads []
      rw [List.append_nil, readFrame_append read, Option.some.injEq, Prod.mk.injEq,
        List.append_eq_nil_iff] at whole
      exact absurd whole.2.2 missing

private theorem readWholeFrom_flatMap {Item : Type} {bytes : Item → List UInt8} {frame : Item → WebSocketFrame}
    {items : List Item} (each : ∀ item ∈ items, Reads (bytes item) (frame item) ∧ (frame item).Allowed)
    {front : List UInt8} (incomplete : readFrame front = none) {fuel : Nat} (enough : items.length ≤ fuel) :
    readWholeFrom fuel (items.flatMap bytes ++ front) = items.map frame := by
  induction items generalizing fuel with
  | nil =>
      cases fuel with
      | zero => rfl
      | succ fuel =>
          rw [List.flatMap_nil, List.nil_append, readWholeFrom, incomplete]
          rfl
  | cons item items ih =>
      obtain ⟨reads, allowed⟩ := each item List.mem_cons_self
      obtain ⟨fuel, rfl⟩ : ∃ more, fuel = more + 1 := ⟨fuel - 1, by rw [List.length_cons] at enough; omega⟩
      rw [List.flatMap_cons, List.append_assoc, readWholeFrom, reads]
      dsimp only
      rw [if_pos allowed, ih (fun other inside => each other (List.mem_cons_of_mem _ inside))
        (Nat.le_of_succ_le_succ enough)]
      rfl

/-- Whole frames and the beginning of another are read as the whole frames. -/
theorem readWhole_flatMap {Item : Type} {bytes : Item → List UInt8} {frame : Item → WebSocketFrame}
    {items : List Item} (each : ∀ item ∈ items, Reads (bytes item) (frame item) ∧ (frame item).Allowed)
    {front : List UInt8} (incomplete : readFrame front = none) :
    readWhole (items.flatMap bytes ++ front) = items.map frame := by
  refine readWholeFrom_flatMap each incomplete ?_
  have long := length_le_flatMap fun item inside => (each item inside).1.length_pos
  rw [List.length_append]
  omega

end

end WebSocketFrame

end Foundation
