import DatagramTunneler.Foundation.Bytes
import DatagramTunneler.Network

/-! The DTEP packet as it lies in memory. Both ends send and receive the image of
one packed struct, so a packet is its bytes: a field is read from its place in
the image, and assigning to one field leaves the rest as it was, stale bytes of
an earlier packet included. -/

set_option autoImplicit false

namespace DatagramTunneler

open Foundation

def kMaxDatagramLength : Nat := 1472
def kTunnelPacketPreambleLength : Nat := 2
def kTunnelPacketHeaderLength : Nat := 18
def kDtepProtocolVersion : UInt8 := 2

/-- `sizeof(TunnelPacket)`. -/
def sizeofTunnelPacket : Nat := 1490

inductive TunnelPacketType where
  | heartbeat
  | datagram
  deriving DecidableEq, Repr

/-- The underlying `uint8_t` of an enumerator. -/
def TunnelPacketType.value : TunnelPacketType → UInt8
  | heartbeat => 0
  | datagram => 1

structure TunnelPacket where
  image : List UInt8
  sized : image.length = sizeofTunnelPacket

namespace TunnelPacket

/-- `TunnelPacket tunnel_pkt {}`. -/
def zero : TunnelPacket := ⟨List.replicate sizeofTunnelPacket 0, List.length_replicate⟩

/-- Copy bytes into the object; `none` where they would not lie inside it. -/
def store (packet : TunnelPacket) (offset : Nat) (data : List UInt8) : Option TunnelPacket :=
  if fits : offset + data.length ≤ sizeofTunnelPacket then
    some ⟨overwrite packet.image offset data,
      (length_overwrite (packet.sized ▸ fits)).trans packet.sized⟩
  else none

/-- Assign a field that lies wholly inside the object. -/
def assign (packet : TunnelPacket) (offset : Nat) (data : List UInt8)
    (fits : offset + data.length ≤ sizeofTunnelPacket) : TunnelPacket :=
  ⟨overwrite packet.image offset data,
    (length_overwrite (packet.sized ▸ fits)).trans packet.sized⟩

def type_ (packet : TunnelPacket) : UInt8 := packet.image.getD 0 0

def protocol_version_ (packet : TunnelPacket) : UInt8 := packet.image.getD 1 0

/-- Kept as the four bytes `inet_pton` stored: it is never used as a number. -/
def udp_dst_ip_ (packet : TunnelPacket) : List UInt8 := slice packet.image 2 4

def udp_dst_port_ (order : ByteOrder) (packet : TunnelPacket) : Nat :=
  order.ofBytes (slice packet.image 6 2)

def datalen_ (order : ByteOrder) (packet : TunnelPacket) : Nat :=
  order.ofBytes (slice packet.image 8 2)

def client_timestamp_us_ (order : ByteOrder) (packet : TunnelPacket) : Nat :=
  order.ofBytes (slice packet.image 10 8)

/-- The first `count` bytes of `databuf_`. -/
def databuf_ (packet : TunnelPacket) (count : Nat) : List UInt8 :=
  slice packet.image kTunnelPacketHeaderLength count

def size (order : ByteOrder) (packet : TunnelPacket) : Nat :=
  if packet.type_ = TunnelPacketType.heartbeat.value then kTunnelPacketPreambleLength
  else packet.datalen_ order + kTunnelPacketHeaderLength

def setType (packet : TunnelPacket) (type : TunnelPacketType) : TunnelPacket :=
  packet.assign 0 [type.value] (by simp [sizeofTunnelPacket])

def setProtocolVersion (packet : TunnelPacket) (version : UInt8) : TunnelPacket :=
  packet.assign 1 [version] (by simp [sizeofTunnelPacket])

/-- `inet_pton(AF_INET, address, &udp_dst_ip_)`; a refused address stores nothing. -/
def setUdpDstIp (packet : TunnelPacket) (address : Text) : TunnelPacket :=
  match accepted : inet_pton address with
  | some bytes =>
      packet.assign 2 bytes (by rw [length_inet_pton accepted]; simp [sizeofTunnelPacket])
  | none => packet

def setUdpDstPort (order : ByteOrder) (packet : TunnelPacket) (port : UInt16) : TunnelPacket :=
  packet.assign 6 (order.toBytes 2 port.toNat) (by simp [sizeofTunnelPacket])

def setDatalen (order : ByteOrder) (packet : TunnelPacket) (length : UInt16) : TunnelPacket :=
  packet.assign 8 (order.toBytes 2 length.toNat) (by simp [sizeofTunnelPacket])

def setClientTimestamp (order : ByteOrder) (packet : TunnelPacket) (timestamp : UInt64) :
    TunnelPacket :=
  packet.assign 10 (order.toBytes 8 timestamp.toNat) (by simp [sizeofTunnelPacket])

theorem store_eq_some {packet stored : TunnelPacket} {offset : Nat} {data : List UInt8}
    (accepted : packet.store offset data = some stored) :
    offset + data.length ≤ sizeofTunnelPacket ∧ stored.image = overwrite packet.image offset data := by
  unfold store at accepted
  split at accepted
  · next fits =>
      cases accepted
      exact ⟨fits, rfl⟩
  · cases accepted

theorem store_eq_none {packet : TunnelPacket} {offset : Nat} {data : List UInt8}
    (refused : packet.store offset data = none) :
    sizeofTunnelPacket < offset + data.length := by
  unfold store at refused
  split at refused
  · cases refused
  · omega

theorem store_preamble {packet stored : TunnelPacket} {offset : Nat} {data : List UInt8}
    (accepted : packet.store offset data = some stored)
    (after : kTunnelPacketPreambleLength ≤ offset) :
    stored.type_ = packet.type_ ∧ stored.protocol_version_ = packet.protocol_version_ := by
  obtain ⟨fits, image⟩ := store_eq_some accepted
  simp only [kTunnelPacketPreambleLength] at after
  have before : offset ≤ packet.image.length := by rw [packet.sized]; omega
  constructor
  · rw [type_, image, getD_overwrite_before 0 before (by omega), type_]
  · rw [protocol_version_, image, getD_overwrite_before 0 before (by omega), protocol_version_]

theorem store_size {packet stored : TunnelPacket} {offset : Nat} {data : List UInt8}
    (order : ByteOrder) (accepted : packet.store offset data = some stored)
    (after : kTunnelPacketHeaderLength ≤ offset) : stored.size order = packet.size order := by
  obtain ⟨fits, image⟩ := store_eq_some accepted
  simp only [kTunnelPacketHeaderLength] at after
  have before : offset ≤ packet.image.length := by rw [packet.sized]; omega
  have type := (store_preamble accepted (by simp only [kTunnelPacketPreambleLength]; omega)).1
  rw [size, type, datalen_, image, slice_overwrite_before before (by omega), size, datalen_]

/-- Assigning to one field leaves every other field as it was. -/
theorem slice_assign_apart {packet : TunnelPacket} {offset start count : Nat} {data : List UInt8}
    {fits : offset + data.length ≤ sizeofTunnelPacket}
    (apart : start + count ≤ offset ∨ offset + data.length ≤ start) :
    slice (packet.assign offset data fits).image start count = slice packet.image start count := by
  have inside : offset ≤ packet.image.length := by rw [packet.sized]; omega
  rcases apart with before | after
  · exact slice_overwrite_before inside before
  · exact slice_overwrite_after inside after

theorem slice_assign_self {packet : TunnelPacket} {offset : Nat} {data : List UInt8}
    {fits : offset + data.length ≤ sizeofTunnelPacket} :
    slice (packet.assign offset data fits).image offset data.length = data :=
  slice_overwrite_self (by rw [packet.sized]; omega)

/-! Reading one field of the packet after writing another. -/

section Fields

variable {packet : TunnelPacket} {order : ByteOrder} {start count : Nat}

theorem slice_setType {type : TunnelPacketType} (behind : 1 ≤ start) :
    slice (packet.setType type).image start count = slice packet.image start count :=
  slice_assign_apart (.inr behind)

theorem type_setType {type : TunnelPacketType} :
    slice (packet.setType type).image 0 1 = [type.value] := slice_assign_self

theorem version_setProtocolVersion {version : UInt8} :
    slice (packet.setProtocolVersion version).image 1 1 = [version] := slice_assign_self

theorem slice_setUdpDstIp {address : Text} (before : start + count ≤ 2) :
    slice (packet.setUdpDstIp address).image start count = slice packet.image start count := by
  unfold setUdpDstIp
  split
  · exact slice_assign_apart (.inl before)
  · rfl

theorem group_setUdpDstIp {address : Text} :
    slice (packet.setUdpDstIp address).image 2 4 =
      (inet_pton address).getD (slice packet.image 2 4) := by
  unfold setUdpDstIp
  split
  · next bytes accepted =>
      have fits : 2 + bytes.length ≤ sizeofTunnelPacket := by
        rw [length_inet_pton accepted]; decide
      have field : slice (packet.assign 2 bytes fits).image 2 bytes.length = bytes :=
        slice_assign_self
      rw [length_inet_pton accepted] at field
      exact field.trans (by rw [accepted]; rfl)
  · next refused => rw [refused]; rfl

theorem slice_setUdpDstPort {port : UInt16} (before : start + count ≤ 6) :
    slice (packet.setUdpDstPort order port).image start count = slice packet.image start count :=
  slice_assign_apart (.inl before)

theorem port_setUdpDstPort {port : UInt16} :
    slice (packet.setUdpDstPort order port).image 6 2 = order.toBytes 2 port.toNat := by
  have long := order.length_toBytes 2 port.toNat
  have field : slice (packet.setUdpDstPort order port).image 6
    (order.toBytes 2 port.toNat).length = order.toBytes 2 port.toNat := slice_assign_self
  rwa [long] at field

theorem slice_setDatalen {length : UInt16} (apart : start + count ≤ 8 ∨ 10 ≤ start) :
    slice (packet.setDatalen order length).image start count = slice packet.image start count :=
  slice_assign_apart (by rw [ByteOrder.length_toBytes]; exact apart)

theorem datalen_setDatalen {length : UInt16} :
    slice (packet.setDatalen order length).image 8 2 = order.toBytes 2 length.toNat := by
  have long := order.length_toBytes 2 length.toNat
  have field : slice (packet.setDatalen order length).image 8
    (order.toBytes 2 length.toNat).length = order.toBytes 2 length.toNat := slice_assign_self
  rwa [long] at field

theorem slice_setClientTimestamp {timestamp : UInt64} (apart : start + count ≤ 10 ∨ 18 ≤ start) :
    slice (packet.setClientTimestamp order timestamp).image start count =
      slice packet.image start count :=
  slice_assign_apart (by rw [ByteOrder.length_toBytes]; exact apart)

theorem timestamp_setClientTimestamp {timestamp : UInt64} :
    slice (packet.setClientTimestamp order timestamp).image 10 8 =
      order.toBytes 8 timestamp.toNat := by
  have long := order.length_toBytes 8 timestamp.toNat
  have field : slice (packet.setClientTimestamp order timestamp).image 10
    (order.toBytes 8 timestamp.toNat).length = order.toBytes 8 timestamp.toNat := slice_assign_self
  rwa [long] at field

end Fields

theorem type_eq_of_slice {packet : TunnelPacket} {type : UInt8}
    (field : slice packet.image 0 1 = [type]) : packet.type_ = type := by
  rw [type_, ← getD_take 0 Nat.one_pos]
  rw [slice, List.drop_zero] at field
  rw [field]
  rfl

end TunnelPacket

end DatagramTunneler
