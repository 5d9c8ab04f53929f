import DatagramTunneler.Tunnel.Protocol

/-! DTEP as a format, read from a whole byte stream at once. This states what a
receiver is for; it has no buffer, no write pointer and no partial frames except
the one a stream may end in. -/

set_option autoImplicit false

namespace DatagramTunneler

open Foundation

structure Datagram where
  group : List UInt8
  port : Nat
  timestamp : Nat
  payload : List UInt8
  deriving DecidableEq, Repr

/-- What stands at the front of a stream. -/
inductive Frame where
  | incomplete
  | badVersion (version : UInt8)
  | badType (type : UInt8)
  | heartbeat
  | datagram (datagram : Datagram)
  deriving DecidableEq, Repr

/-- The payload length in a datagram header. -/
def announcedLength (order : ByteOrder) (stream : List UInt8) : Nat :=
  order.ofBytes (slice stream 8 2)

def nextFrame (order : ByteOrder) (stream : List UInt8) : Frame :=
  if stream.length < kTunnelPacketPreambleLength then .incomplete
  else if stream.getD 1 0 ≠ kDtepProtocolVersion then .badVersion (stream.getD 1 0)
  else if stream.getD 0 0 = TunnelPacketType.heartbeat.value then .heartbeat
  else if stream.getD 0 0 ≠ TunnelPacketType.datagram.value then .badType (stream.getD 0 0)
  else if stream.length < kTunnelPacketHeaderLength + announcedLength order stream then .incomplete
  else .datagram {
    group := slice stream 2 4
    port := order.ofBytes (slice stream 6 2)
    timestamp := order.ofBytes (slice stream 10 8)
    payload := slice stream kTunnelPacketHeaderLength (announcedLength order stream) }

private theorem nextFrame_heartbeat_length {order : ByteOrder} {stream : List UInt8}
    (found : nextFrame order stream = .heartbeat) :
    kTunnelPacketPreambleLength ≤ stream.length := by
  unfold nextFrame at found
  split at found
  · cases found
  · omega

private theorem nextFrame_datagram_length {order : ByteOrder} {stream : List UInt8} {datagram : Datagram}
    (found : nextFrame order stream = .datagram datagram) :
    kTunnelPacketHeaderLength + datagram.payload.length ≤ stream.length := by
  unfold nextFrame at found
  split_ifs at found with short version heartbeat type incomplete
  cases found
  rw [length_slice (by omega)]
  omega

/-- Why a stream is read no further. -/
inductive Ending where
  | endOfStream (rest : List UInt8)
  | badVersion (version : UInt8)
  | badType (type : UInt8)
  deriving DecidableEq, Repr

/-- The stream was given up, not used up. -/
def Ending.Refuses : Ending → Prop
  | endOfStream _ => False
  | badVersion _ | badType _ => True

structure Decoded where
  datagrams : List Datagram
  ending : Ending
  deriving DecidableEq, Repr

def Decoded.prepend (front : List Datagram) (rest : Decoded) : Decoded :=
  ⟨front ++ rest.datagrams, rest.ending⟩

def decodeStream (order : ByteOrder) (stream : List UInt8) : Decoded :=
  match _found : nextFrame order stream with
  | .incomplete => ⟨[], .endOfStream stream⟩
  | .badVersion version => ⟨[], .badVersion version⟩
  | .badType type => ⟨[], .badType type⟩
  | .heartbeat => decodeStream order (stream.drop kTunnelPacketPreambleLength)
  | .datagram datagram =>
      (decodeStream order
        (stream.drop (kTunnelPacketHeaderLength + datagram.payload.length))).prepend [datagram]
termination_by stream.length
decreasing_by
  · have enough := nextFrame_heartbeat_length _found
    simp only [List.length_drop, kTunnelPacketPreambleLength] at enough ⊢
    omega
  · have enough := nextFrame_datagram_length _found
    simp only [List.length_drop, kTunnelPacketHeaderLength] at enough ⊢
    omega

@[simp] theorem Decoded.prepend_nil (rest : Decoded) : rest.prepend [] = rest := rfl

theorem Decoded.prepend_prepend (first last : List Datagram) (rest : Decoded) :
    (rest.prepend last).prepend first = rest.prepend (first ++ last) := by
  simp [Decoded.prepend]

theorem decodeStream_incomplete {order : ByteOrder} {stream : List UInt8}
    (found : nextFrame order stream = .incomplete) :
    decodeStream order stream = ⟨[], .endOfStream stream⟩ := by
  rw [decodeStream]
  split <;> simp_all

theorem decodeStream_badVersion {order : ByteOrder} {stream : List UInt8} {version : UInt8}
    (found : nextFrame order stream = .badVersion version) :
    decodeStream order stream = ⟨[], .badVersion version⟩ := by
  rw [decodeStream]
  split <;> simp_all

theorem decodeStream_badType {order : ByteOrder} {stream : List UInt8} {type : UInt8}
    (found : nextFrame order stream = .badType type) :
    decodeStream order stream = ⟨[], .badType type⟩ := by
  rw [decodeStream]
  split <;> simp_all

theorem decodeStream_heartbeat {order : ByteOrder} {stream : List UInt8}
    (found : nextFrame order stream = .heartbeat) :
    decodeStream order stream = decodeStream order (stream.drop kTunnelPacketPreambleLength) := by
  conv_lhs => rw [decodeStream]
  split <;> simp_all

theorem decodeStream_datagram {order : ByteOrder} {stream : List UInt8} {datagram : Datagram}
    (found : nextFrame order stream = .datagram datagram) :
    decodeStream order stream = (decodeStream order
      (stream.drop (kTunnelPacketHeaderLength + datagram.payload.length))).prepend [datagram] := by
  conv_lhs => rw [decodeStream]
  split <;> simp_all

/-! ## Announced lengths -/

/-- The lengths announced by all datagram headers that arrived whole: those of the
decoded frames, and that of the frame the stream ends in. -/
def announcements (order : ByteOrder) (stream : List UInt8) : List Nat :=
  (decodeStream order stream).datagrams.map (·.payload.length) ++
    match (decodeStream order stream).ending with
    | .endOfStream rest =>
        if kTunnelPacketHeaderLength ≤ rest.length then [announcedLength order rest] else []
    | .badVersion _ | .badType _ => []

def AnnouncesWithin (order : ByteOrder) (limit : Nat) (stream : List UInt8) : Prop :=
  ∀ length ∈ announcements order stream, length ≤ limit

/-- Where the frame at the front of a stream ends, if it is all there. -/
def Frame.length? : Frame → Option Nat
  | .incomplete => none
  | .badVersion _ | .badType _ | .heartbeat => some kTunnelPacketPreambleLength
  | .datagram found => some (kTunnelPacketHeaderLength + found.payload.length)

theorem Frame.eq_incomplete {frame : Frame} (endless : frame.length? = none) :
    frame = .incomplete := by
  cases frame with
  | incomplete => rfl
  | badVersion | badType | heartbeat | datagram => cases endless

theorem Frame.length?_ge {frame : Frame} {length : Nat} (ends : frame.length? = some length) :
    kTunnelPacketPreambleLength ≤ length := by
  cases frame with
  | incomplete => cases ends
  | badVersion | badType | heartbeat => cases ends; exact Nat.le_refl _
  | datagram found =>
      cases ends
      simp only [kTunnelPacketPreambleLength, kTunnelPacketHeaderLength]
      omega

/-- A frame that is all there lies inside the stream. -/
theorem nextFrame_length?_le {order : ByteOrder} {stream : List UInt8} {length : Nat}
    (ends : (nextFrame order stream).length? = some length) : length ≤ stream.length := by
  unfold nextFrame at ends
  split_ifs at ends with short version heartbeat type incomplete
  · cases ends
  · exact Option.some.inj ends ▸ Nat.not_lt.mp short
  · exact Option.some.inj ends ▸ Nat.not_lt.mp short
  · exact Option.some.inj ends ▸ Nat.not_lt.mp short
  · cases ends
  · cases ends
    rw [length_slice (Nat.not_lt.mp incomplete)]
    exact Nat.not_lt.mp incomplete

theorem announcements_of_ending {order : ByteOrder} {stream rest : List UInt8}
    {front : List Datagram} (decoded : decodeStream order stream = ⟨front, .endOfStream rest⟩) :
    announcements order stream = front.map (·.payload.length) ++
      if kTunnelPacketHeaderLength ≤ rest.length then [announcedLength order rest] else [] := by
  rw [announcements, decoded]

/-- The length in a header that has arrived is one of the announced ones. -/
theorem announcedLength_mem {order : ByteOrder} {stream : List UInt8}
    (header : kTunnelPacketHeaderLength ≤ stream.length)
    (version : stream.getD 1 0 = kDtepProtocolVersion)
    (type : stream.getD 0 0 = TunnelPacketType.datagram.value) :
    announcedLength order stream ∈ announcements order stream := by
  have preamble : ¬ stream.length < kTunnelPacketPreambleLength := by
    simp only [kTunnelPacketHeaderLength] at header
    simp only [kTunnelPacketPreambleLength]
    omega
  have notHeartbeat : stream.getD 0 0 ≠ TunnelPacketType.heartbeat.value := by
    rw [type]; decide
  rcases Nat.lt_or_ge stream.length (kTunnelPacketHeaderLength + announcedLength order stream) with
    short | long
  · have found : nextFrame order stream = .incomplete := by
      rw [nextFrame, if_neg preamble, if_neg (not_not.mpr version), if_neg notHeartbeat,
        if_neg (not_not.mpr type), if_pos short]
    rw [announcements_of_ending (decodeStream_incomplete found), if_pos header]
    simp
  · have found : ∃ datagram, nextFrame order stream = .datagram datagram ∧
        datagram.payload.length = announcedLength order stream := by
      rw [nextFrame, if_neg preamble, if_neg (not_not.mpr version), if_neg notHeartbeat,
        if_neg (not_not.mpr type), if_neg (Nat.not_lt.mpr long)]
      exact ⟨_, rfl, length_slice long⟩
    obtain ⟨datagram, found, length⟩ := found
    rw [announcements, decodeStream_datagram found, ← length]
    simp [Decoded.prepend]

/-- Reading on after some frames announces nothing new. -/
theorem AnnouncesWithin.of_prepend {order : ByteOrder} {limit : Nat} {stream rest : List UInt8}
    {front : List Datagram} (within : AnnouncesWithin order limit stream)
    (decoded : decodeStream order stream = (decodeStream order rest).prepend front) :
    AnnouncesWithin order limit rest := by
  intro length member
  apply within
  simp only [announcements, decoded, Decoded.prepend, List.map_append, List.append_assoc]
  exact List.mem_append_right _ member

theorem AnnouncesWithin.payload {order : ByteOrder} {limit : Nat} {stream : List UInt8}
    {front : List Datagram} {rest : Decoded} (within : AnnouncesWithin order limit stream)
    (decoded : decodeStream order stream = rest.prepend front)
    {datagram : Datagram} (member : datagram ∈ front) : datagram.payload.length ≤ limit := by
  apply within
  rw [announcements, decoded, Decoded.prepend]
  exact List.mem_append_left _ (List.mem_map.mpr ⟨datagram, List.mem_append_left _ member, rfl⟩)

end DatagramTunneler
