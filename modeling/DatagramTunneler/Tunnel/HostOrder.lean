import DatagramTunneler.Tunnel.ClientProperties

/-! One frame between two hosts. A frame is the image of the packed struct, so the
address crosses as it is while port, length and timestamp cross in the byte order
of the client and are read in that of the server. -/

set_option autoImplicit false

namespace DatagramTunneler

open Foundation

namespace TunnelPacket

/-- Both ends read the frame alike, its end included. -/
structure ReadAlike (clientOrder serverOrder : ByteOrder) (sent received : TunnelPacket) : Prop where
  address : received.udp_dst_ip_ = sent.udp_dst_ip_
  port : received.udp_dst_port_ serverOrder = sent.udp_dst_port_ clientOrder
  length : received.datalen_ serverOrder = sent.datalen_ clientOrder
  timestamp : received.client_timestamp_us_ serverOrder = sent.client_timestamp_us_ clientOrder
  payload : received.databuf_ (received.datalen_ serverOrder) =
    sent.databuf_ (sent.datalen_ clientOrder)
  size : received.size serverOrder = sent.size clientOrder

/-- The image of the field is the same in either byte order. -/
def Symmetric (packet : TunnelPacket) (offset width : Nat) : Prop :=
  (slice packet.image offset width).reverse = slice packet.image offset width

instance (packet : TunnelPacket) (offset width : Nat) : Decidable (packet.Symmetric offset width) :=
  inferInstanceAs (Decidable (_ = _))

/-- Port, length and timestamp do not depend on the byte order. -/
def OrderFree (packet : TunnelPacket) : Prop :=
  packet.Symmetric 6 2 ∧ packet.Symmetric 8 2 ∧ packet.Symmetric 10 8

variable {clientOrder serverOrder : ByteOrder} {sent buffer received : TunnelPacket}

/-- What the server has stored of a frame is the frame. -/
theorem slice_of_stored
    (stored : buffer.store 0 (sent.image.take (sent.size clientOrder)) = some received)
    {offset count : Nat} (within : offset + count ≤ sent.size clientOrder)
    (inside : sent.size clientOrder ≤ sizeofTunnelPacket) :
    slice received.image offset count = slice sent.image offset count := by
  obtain ⟨-, image⟩ := store_eq_some stored
  have long : (sent.image.take (sent.size clientOrder)).length = sent.size clientOrder := by
    rw [List.length_take, sent.sized, Nat.min_eq_left inside]
  rw [image, overwrite, List.take_zero, List.nil_append,
    slice_append_left (within.trans long.ge), slice_take within]

private theorem type_of_stored
    (stored : buffer.store 0 (sent.image.take (sent.size clientOrder)) = some received)
    (some : 0 < sent.size clientOrder) (inside : sent.size clientOrder ≤ sizeofTunnelPacket) :
    received.type_ = sent.type_ := by
  have first : slice received.image 0 1 = slice sent.image 0 1 :=
    slice_of_stored stored some inside
  have front : ∀ image : List UInt8, image.getD 0 0 = (slice image 0 1).getD 0 0 :=
    fun image => (getD_take 0 Nat.one_pos).symm
  rw [type_, front, first, ← front, type_]

/-- Both ends read a datagram frame alike exactly when they are of one byte order or
its port, length and timestamp look the same in both. -/
theorem readAlike_iff (clientOrder serverOrder : ByteOrder) (sent buffer received : TunnelPacket)
    (datagram : sent.type_ = TunnelPacketType.datagram.value)
    (short : sent.datalen_ clientOrder ≤ kMaxDatagramLength)
    (stored : buffer.store 0 (sent.image.take (sent.size clientOrder)) = some received) :
    ReadAlike clientOrder serverOrder sent received ↔
      clientOrder = serverOrder ∨ sent.OrderFree := by
  have size : sent.size clientOrder = sent.datalen_ clientOrder + kTunnelPacketHeaderLength := by
    rw [TunnelPacket.size, if_neg (by rw [datagram]; decide)]
  simp only [kMaxDatagramLength, kTunnelPacketHeaderLength] at short size
  have inside : sent.size clientOrder ≤ sizeofTunnelPacket := by
    rw [size, sizeofTunnelPacket]
    omega
  have field : ∀ offset count, offset + count ≤ 18 →
      slice received.image offset count = slice sent.image offset count :=
    fun offset count within => slice_of_stored stored (by omega) inside
  have type : received.type_ = sent.type_ := type_of_stored stored (by omega) inside
  have port := field 6 2 (by omega)
  have datalen := field 8 2 (by omega)
  have timestamp := field 10 8 (by omega)
  constructor
  · intro alike
    by_cases same : clientOrder = serverOrder
    · exact .inl same
    · have symmetric : ∀ offset width, serverOrder.ofBytes (slice sent.image offset width) =
          clientOrder.ofBytes (slice sent.image offset width) → sent.Symmetric offset width := by
        intro offset width agrees
        exact (ByteOrder.ofBytes_eq_iff.mp agrees).resolve_left fun equal => same equal.symm
      exact .inr ⟨symmetric 6 2 ((congrArg serverOrder.ofBytes port).symm.trans alike.port),
        symmetric 8 2 ((congrArg serverOrder.ofBytes datalen).symm.trans alike.length),
        symmetric 10 8 ((congrArg serverOrder.ofBytes timestamp).symm.trans alike.timestamp)⟩
  · intro free
    have agrees : ∀ offset width, (sent.OrderFree → sent.Symmetric offset width) →
        serverOrder.ofBytes (slice sent.image offset width) =
          clientOrder.ofBytes (slice sent.image offset width) := by
      intro offset width symmetric
      apply ByteOrder.ofBytes_eq_iff.mpr
      exact free.imp Eq.symm symmetric
    have length : received.datalen_ serverOrder = sent.datalen_ clientOrder := by
      rw [datalen_, datalen, agrees 8 2 fun free => free.2.1, datalen_]
    exact {
      address := field 2 4 (by omega)
      port := by rw [udp_dst_port_, port, agrees 6 2 fun free => free.1, udp_dst_port_]
      length := length
      timestamp := by
        rw [client_timestamp_us_, timestamp, agrees 10 8 fun free => free.2.2, client_timestamp_us_]
      payload := by
        rw [length, databuf_, databuf_]
        exact slice_of_stored stored (by simp only [kTunnelPacketHeaderLength]; omega) inside
      size := by rw [TunnelPacket.size, TunnelPacket.size, type, length] }

/-- What a client sends for an empty datagram received on `port` at the start of the
epoch, whichever its group. -/
def emptyDatagram (order : ByteOrder) (port : UInt16) : TunnelPacket :=
  ClientLoop.datagramPacket order (ClientLoop.start order { udp_dst_port_ := port }).tunnel_pkt [] 0

/-- A little-endian client forwards from port 5000 to a big-endian server. -/
theorem port5000_misread : ∃ received,
    zero.store 0 ((emptyDatagram .little 5000).image.take
      ((emptyDatagram .little 5000).size .little)) = some received ∧
      ¬ ReadAlike .little .big (emptyDatagram .little 5000) received := by
  have stored : (zero.store 0 ((emptyDatagram .little 5000).image.take
      ((emptyDatagram .little 5000).size .little))).map (fun received =>
        (received.udp_dst_port_ .big, (emptyDatagram .little 5000).udp_dst_port_ .little)) =
      some (34835, 5000) := by decide
  obtain ⟨received, stored, ports⟩ := Option.map_eq_some_iff.mp stored
  obtain ⟨read, sent⟩ := Prod.mk.inj ports
  refine ⟨received, stored, fun alike => ?_⟩
  have port := alike.port
  rw [read, sent] at port
  cases port

theorem hosts_misread : ¬ ∀ (clientOrder serverOrder : ByteOrder) (sent buffer received : TunnelPacket),
    sent.type_ = TunnelPacketType.datagram.value →
    sent.datalen_ clientOrder ≤ kMaxDatagramLength →
    buffer.store 0 (sent.image.take (sent.size clientOrder)) = some received →
    ReadAlike clientOrder serverOrder sent received := by
  intro claimed
  obtain ⟨received, stored, misread⟩ := port5000_misread
  exact misread (claimed .little .big _ zero received (by decide) (by decide) stored)

/-- A port whose two bytes are the same is read alike everywhere. -/
theorem readAlike_iff_symmetricPort : ∃ received,
    zero.store 0 ((emptyDatagram .little 0x1313).image.take
      ((emptyDatagram .little 0x1313).size .little)) = some received ∧
      ReadAlike .little .big (emptyDatagram .little 0x1313) received := by
  have stored : (zero.store 0 ((emptyDatagram .little 0x1313).image.take
      ((emptyDatagram .little 0x1313).size .little))).isSome = true := by decide
  obtain ⟨received, stored⟩ := Option.isSome_iff_exists.mp stored
  have free : (emptyDatagram .little 0x1313).OrderFree := by
    unfold OrderFree
    decide
  exact ⟨received, stored, (readAlike_iff .little .big _ zero received (by decide)
    (by decide) stored).mpr (.inr free)⟩

end TunnelPacket

end DatagramTunneler
