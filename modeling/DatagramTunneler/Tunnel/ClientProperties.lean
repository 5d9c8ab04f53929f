import DatagramTunneler.Tunnel.Client
import DatagramTunneler.Tunnel.FrameEncoder

/-! The forwarding loop against the encoder. The loop reuses one packet, so a pass
sends stale bytes wherever it does not write; what makes the wire exact is that
the constant part of the header is never written after the start, and that the
fields behind it are written before every datagram that is sent. -/

set_option autoImplicit false

namespace DatagramTunneler

open Foundation

/-- A send call that accepts the data piece by piece leaves nothing out. -/
theorem sendTCPData_split {data : List UInt8} {counts : List Nat} (some : data ≠ [])
    (positive : ∀ count ∈ counts, 0 < count) (total : counts.sum = data.length) :
    sendTCPData data (counts.map .accepted) = .some (data, .sent) := by
  induction counts generalizing data with
  | nil => exact absurd (List.eq_nil_of_length_eq_zero total.symm) some
  | cons count counts ih =>
      have here := positive count (List.mem_cons_self ..)
      have later := fun count inside => positive count (List.mem_cons_of_mem _ inside)
      rw [List.sum_cons] at total
      rw [List.map_cons, sendTCPData, if_neg (by omega), if_neg (by omega)]
      rcases Nat.eq_zero_or_pos (data.length - count) with done | more
      · have none : counts = [] := by
          cases counts with
          | nil => rfl
          | cons next counts =>
              have next := later next (List.mem_cons_self ..)
              rw [List.sum_cons] at total
              omega
        rw [if_pos done, none]
        rfl
      · have left : (data.drop count).length = data.length - count := List.length_drop
        have rest : data.drop count ≠ [] := by
          intro empty
          rw [empty] at left
          exact absurd left.symm (Nat.ne_of_gt more)
        rw [if_neg (Nat.ne_of_gt more), ih rest later (by omega)]
        simp

namespace ClientLoop

/-- The address bytes in the header; they stay zero when `inet_pton` refuses the text. -/
def headerGroup (cfg : Config) : List UInt8 := (inet_pton cfg.udp_dst_ip_).getD [0, 0, 0, 0]

theorem length_headerGroup (cfg : Config) : (headerGroup cfg).length = 4 := by
  rw [headerGroup]
  cases accepted : inet_pton cfg.udp_dst_ip_ with
  | none => rfl
  | some bytes => exact length_inet_pton accepted

/-- The part of the header that no pass writes: version, group and port. -/
def constantHeader (order : ByteOrder) (cfg : Config) : List UInt8 :=
  kDtepProtocolVersion :: (headerGroup cfg ++ order.toBytes 2 cfg.udp_dst_port_.toNat)

/-- What the loop does to a packet that is about to carry `data`. -/
def datagramPacket (order : ByteOrder) (packet : TunnelPacket) (data : List UInt8) (now : UInt64) :
    TunnelPacket :=
  (((recvInto packet data).setType .datagram).setDatalen order
    (UInt16.ofNat data.length)).setClientTimestamp order now

section Packet

variable {order : ByteOrder} {cfg : Config} {packet : TunnelPacket} {data : List UInt8}

theorem recvInto_header : slice (recvInto packet data).image 1 7 = slice packet.image 1 7 :=
  TunnelPacket.slice_assign_apart (.inl (by simp [kTunnelPacketHeaderLength]))

private theorem recvInto_data (short : data.length ≤ kMaxDatagramLength) :
    slice (recvInto packet data).image kTunnelPacketHeaderLength data.length = data := by
  have field : slice (recvInto packet data).image kTunnelPacketHeaderLength
      (data.take kMaxDatagramLength).length = data.take kMaxDatagramLength :=
    TunnelPacket.slice_assign_self
  rwa [List.take_of_length_le short] at field

theorem start_header (order : ByteOrder) (cfg : Config) :
    slice (start order cfg).tunnel_pkt.image 1 7 = constantHeader order cfg := by
  have version : slice (start order cfg).tunnel_pkt.image 1 1 = [kDtepProtocolVersion] := by
    rw [start, TunnelPacket.slice_setUdpDstPort (by omega),
      TunnelPacket.slice_setUdpDstIp (by omega), TunnelPacket.version_setProtocolVersion]
  have group : slice (start order cfg).tunnel_pkt.image 2 4 = headerGroup cfg := by
    rw [start, TunnelPacket.slice_setUdpDstPort (by omega), TunnelPacket.group_setUdpDstIp]
    rfl
  have port : slice (start order cfg).tunnel_pkt.image 6 2 =
      order.toBytes 2 cfg.udp_dst_port_.toNat := TunnelPacket.port_setUdpDstPort
  calc slice (start order cfg).tunnel_pkt.image 1 7
      = slice (start order cfg).tunnel_pkt.image 1 1 ++
          (slice (start order cfg).tunnel_pkt.image 2 4 ++
            slice (start order cfg).tunnel_pkt.image 6 2) := by
        rw [slice_append_slice rfl, slice_append_slice rfl]
    _ = constantHeader order cfg := by rw [version, group, port]; rfl

theorem heartbeat_sent (header : slice packet.image 1 7 = constantHeader order cfg) :
    (packet.setType .heartbeat).image.take ((packet.setType .heartbeat).size order) =
      encodedHeartbeat := by
  have type := @TunnelPacket.type_setType packet .heartbeat
  have kept : slice (packet.setType .heartbeat).image 1 7 = constantHeader order cfg :=
    (TunnelPacket.slice_setType (Nat.le_refl 1)).trans header
  have version : slice (packet.setType .heartbeat).image 1 1 = [kDtepProtocolVersion] := by
    have first : (slice (packet.setType .heartbeat).image 1 7).take 1 = [kDtepProtocolVersion] := by
      rw [kept]; rfl
    rwa [slice, List.take_take] at first
  rw [TunnelPacket.size, if_pos (TunnelPacket.type_eq_of_slice type)]
  calc (packet.setType .heartbeat).image.take kTunnelPacketPreambleLength
      = slice (packet.setType .heartbeat).image 0 (1 + 1) := rfl
    _ = slice (packet.setType .heartbeat).image 0 1 ++
          slice (packet.setType .heartbeat).image 1 1 := (slice_append_slice rfl).symm
    _ = encodedHeartbeat := by rw [type, version]; rfl

variable {now : UInt64}

theorem datagram_header (header : slice packet.image 1 7 = constantHeader order cfg) :
    slice (datagramPacket order packet data now).image 1 7 = constantHeader order cfg := by
  rw [datagramPacket, TunnelPacket.slice_setClientTimestamp (.inl (by omega)),
    TunnelPacket.slice_setDatalen (.inl (by omega)), TunnelPacket.slice_setType (Nat.le_refl 1),
    recvInto_header, header]

private theorem datagram_type : slice (datagramPacket order packet data now).image 0 1 =
    [TunnelPacketType.datagram.value] := by
  rw [datagramPacket, TunnelPacket.slice_setClientTimestamp (.inl (by omega)),
    TunnelPacket.slice_setDatalen (.inl (by omega)), TunnelPacket.type_setType]

private theorem datagram_datalen (short : data.length ≤ kMaxDatagramLength) :
    slice (datagramPacket order packet data now).image 8 2 = order.toBytes 2 data.length := by
  have narrow : (UInt16.ofNat data.length).toNat = data.length := by
    simp only [kMaxDatagramLength] at short
    rw [UInt16.toNat_ofNat']
    omega
  rw [datagramPacket, TunnelPacket.slice_setClientTimestamp (.inl (by omega)),
    TunnelPacket.datalen_setDatalen, narrow]

private theorem datagram_timestamp : slice (datagramPacket order packet data now).image 10 8 =
    order.toBytes 8 now.toNat := TunnelPacket.timestamp_setClientTimestamp

private theorem datagram_data (short : data.length ≤ kMaxDatagramLength) :
    slice (datagramPacket order packet data now).image kTunnelPacketHeaderLength data.length =
      data := by
  rw [datagramPacket, TunnelPacket.slice_setClientTimestamp
      (.inr (show 18 ≤ kTunnelPacketHeaderLength from Nat.le_refl 18)),
    TunnelPacket.slice_setDatalen (.inr (by simp [kTunnelPacketHeaderLength])),
    TunnelPacket.slice_setType (by simp [kTunnelPacketHeaderLength]), recvInto_data short]

theorem datagram_length (short : data.length ≤ kMaxDatagramLength) :
    (datagramPacket order packet data now).datalen_ order = data.length := by
  simp only [kMaxDatagramLength] at short
  rw [TunnelPacket.datalen_, datagram_datalen short, order.ofBytes_toBytes (by omega)]

theorem datagram_type_ : (datagramPacket order packet data now).type_ =
    TunnelPacketType.datagram.value := TunnelPacket.type_eq_of_slice datagram_type

private theorem datagram_size (short : data.length ≤ kMaxDatagramLength) :
    (datagramPacket order packet data now).size order = data.length + kTunnelPacketHeaderLength := by
  rw [TunnelPacket.size, datagram_type_, if_neg (by decide), datagram_length short]

theorem datagram_sent (header : slice packet.image 1 7 = constantHeader order cfg)
    (short : data.length ≤ kMaxDatagramLength) :
    (datagramPacket order packet data now).image.take
        ((datagramPacket order packet data now).size order) =
      Datagram.encode order ⟨headerGroup cfg, cfg.udp_dst_port_.toNat, now.toNat, data⟩ := by
  let image := (datagramPacket order packet data now).image
  have fields : slice image 0 1 ++ slice image 1 7 ++ slice image 8 2 ++ slice image 10 8 ++
      slice image kTunnelPacketHeaderLength data.length =
      slice image 0 (kTunnelPacketHeaderLength + data.length) := by
    rw [slice_append_slice (show 0 + 1 = 1 from rfl),
      slice_append_slice (show 0 + (1 + 7) = 8 from rfl),
      slice_append_slice (show 0 + (1 + 7 + 2) = 10 from rfl),
      slice_append_slice (show 0 + (1 + 7 + 2 + 8) = kTunnelPacketHeaderLength from rfl)]
    rfl
  rw [datagram_size short, Nat.add_comm]
  calc image.take (kTunnelPacketHeaderLength + data.length)
      = slice image 0 (kTunnelPacketHeaderLength + data.length) := rfl
    _ = _ := by
      rw [← fields, datagram_type, datagram_header header, datagram_datalen short,
        datagram_timestamp, datagram_data short]
      simp [Datagram.encode, Datagram.header, constantHeader]

end Packet

/-! ## Runs that forward everything -/

/-- The frame of a pass, `none` for a heartbeat. -/
def frameOf (cfg : Config) : ClientEvent → Option (Option Datagram)
  | .datagram data now _ =>
      some (some ⟨headerGroup cfg, cfg.udp_dst_port_.toNat, now.toNat, data⟩)
  | .timeout _ => some none
  | .failed _ | .stop_requested => none

/-- The datagrams `recv` returned. -/
def payloads (events : List ClientEvent) : List (List UInt8) :=
  events.filterMap fun
    | .datagram data _ _ => some data
    | .timeout _ | .failed _ | .stop_requested => none

/-- The calls of `send` take `total` bytes, in any number of pieces. -/
def Split (sends : List SendResult) (total : Nat) : Prop :=
  ∃ counts : List Nat, (∀ count ∈ counts, 0 < count) ∧ counts.sum = total ∧
    sends = counts.map .accepted

/-- A pass that has something to send and sends all of it. -/
def Forwards : ClientEvent → Prop
  | .datagram data _ sends =>
      data.length ≤ kMaxDatagramLength ∧ Split sends (kTunnelPacketHeaderLength + data.length)
  | .timeout sends => Split sends kTunnelPacketPreambleLength
  | .failed _ | .stop_requested => False

/-- The loop after it has sent `frames`. -/
structure Forwarding (order : ByteOrder) (cfg : Config) (frames : List (Option Datagram))
    (loop : ClientLoop) : Prop where
  running : loop.status = .running
  header : slice loop.tunnel_pkt.image 1 7 = constantHeader order cfg
  tcp : loop.tcp = encodeFrames order frames
  observed : loop.observations =
    (frames.filterMap id).map fun datagram => ⟨datagram.payload.length, none⟩

variable {build : Build} {order : ByteOrder} {cfg : Config} {frames : List (Option Datagram)}
  {loop : ClientLoop}

theorem Forwarding.start : Forwarding order cfg [] (start order cfg) where
  running := rfl
  header := start_header order cfg
  tcp := rfl
  observed := rfl

private theorem sendPacket_of_split {sends : List SendResult} {image : List UInt8}
    (frame : loop.tunnel_pkt.image.take (loop.tunnel_pkt.size order) = image) (some : image ≠ [])
    (split : Split sends image.length) :
    sendPacket order loop sends = .some
      (if loop.tunnel_pkt.type_ = TunnelPacketType.datagram.value then
        { loop with
          tcp := loop.tcp ++ image
          observations := loop.observations ++ [⟨loop.tunnel_pkt.datalen_ order, none⟩] }
      else { loop with tcp := loop.tcp ++ image }) := by
  obtain ⟨counts, positive, total, rfl⟩ := split
  rw [sendPacket, frame, sendTCPData_split some positive total]
  rfl

theorem Forwarding.heartbeat (forwarding : Forwarding order cfg frames loop)
    {sends : List SendResult} (split : Split sends kTunnelPacketPreambleLength) :
    ∃ next, ClientLoop.step build order loop (.timeout sends) = some next ∧
      Forwarding order cfg (frames ++ [none]) next := by
  let packet := loop.tunnel_pkt.setType .heartbeat
  have sent : packet.image.take (packet.size order) = encodedHeartbeat :=
    heartbeat_sent forwarding.header
  have type : packet.type_ = TunnelPacketType.heartbeat.value :=
    TunnelPacket.type_eq_of_slice TunnelPacket.type_setType
  have unreported : packet.type_ ≠ TunnelPacketType.datagram.value := by rw [type]; decide
  refine ⟨{ loop with tunnel_pkt := packet, tcp := loop.tcp ++ encodedHeartbeat }, ?_, {
    running := forwarding.running
    header := (TunnelPacket.slice_setType (Nat.le_refl 1)).trans forwarding.header
    tcp := by simp [forwarding.tcp, encodeFrames]
    observed := by simp [forwarding.observed] }⟩
  unfold ClientLoop.step
  rw [if_neg (not_not.mpr forwarding.running)]
  have passed := @sendPacket_of_split order { loop with tunnel_pkt := packet } sends _ sent
    (by simp [encodedHeartbeat]) split
  exact passed.trans (congrArg some (if_neg unreported))

theorem Forwarding.datagram (forwarding : Forwarding order cfg frames loop)
    {data : List UInt8} {now : UInt64} {sends : List SendResult}
    (short : data.length ≤ kMaxDatagramLength)
    (split : Split sends (kTunnelPacketHeaderLength + data.length)) :
    ∃ next, ClientLoop.step build order loop (.datagram data now sends) = some next ∧
      Forwarding order cfg
        (frames ++ [some ⟨headerGroup cfg, cfg.udp_dst_port_.toNat, now.toNat, data⟩]) next := by
  let datagram : Datagram := ⟨headerGroup cfg, cfg.udp_dst_port_.toNat, now.toNat, data⟩
  let packet := datagramPacket order loop.tunnel_pkt data now
  have sent : packet.image.take (packet.size order) = datagram.encode order :=
    datagram_sent forwarding.header short
  have length : (datagram.encode order).length = kTunnelPacketHeaderLength + data.length := by
    simp only [Datagram.encode, Datagram.header, datagram, length_headerGroup, List.length_append,
      List.length_cons, List.length_nil, ByteOrder.length_toBytes, kTunnelPacketHeaderLength]
  refine ⟨{ loop with
    tunnel_pkt := packet
    tcp := loop.tcp ++ datagram.encode order
    observations := loop.observations ++ [⟨packet.datalen_ order, none⟩] }, ?_, {
    running := forwarding.running
    header := datagram_header forwarding.header
    tcp := by simp [forwarding.tcp, encodeFrames, datagram]
    observed := by
      have bytes : packet.datalen_ order = data.length := datagram_length short
      simp [forwarding.observed, bytes] }⟩
  unfold ClientLoop.step
  rw [if_neg (not_not.mpr forwarding.running)]
  simp only [onDatagram, if_neg (Nat.not_lt.mpr short)]
  have passed := @sendPacket_of_split order { loop with tunnel_pkt := packet } sends _ sent
    (by simp [Datagram.encode, Datagram.header]) (by rw [length]; exact split)
  exact passed.trans (congrArg some (if_pos datagram_type_))

theorem Forwarding.step (forwarding : Forwarding order cfg frames loop) {event : ClientEvent}
    (forwards : Forwards event) :
    ∃ next frame, ClientLoop.step build order loop event = some next ∧
      frameOf cfg event = some frame ∧ Forwarding order cfg (frames ++ [frame]) next := by
  cases event with
  | failed | stop_requested => cases forwards
  | timeout sends =>
      obtain ⟨next, stepped, onward⟩ := forwarding.heartbeat forwards
      exact ⟨next, none, stepped, rfl, onward⟩
  | datagram data now sends =>
      obtain ⟨next, stepped, onward⟩ := forwarding.datagram forwards.1 forwards.2
      exact ⟨next, _, stepped, rfl, onward⟩

/-- The wire of a forwarding run is the encoding of what was received, and every
datagram has been reported once. -/
theorem exec_forwards {events : List ClientEvent} (forwards : ∀ event ∈ events, Forwards event)
    (forwarding : Forwarding order cfg frames loop) :
    ∃ final, (runClient build order).exec loop events = some final ∧
      Forwarding order cfg (frames ++ events.filterMap (frameOf cfg)) final := by
  induction events generalizing frames loop with
  | nil => exact ⟨loop, rfl, by simpa using forwarding⟩
  | cons event events ih =>
      obtain ⟨next, frame, stepped, framed, onward⟩ :=
        @Forwarding.step build order cfg frames loop forwarding event (forwards event (List.mem_cons_self ..))
      obtain ⟨final, ran, forwarded⟩ :=
        ih (fun event inside => forwards event (List.mem_cons_of_mem _ inside)) onward
      refine ⟨final, (Foundation.Machine.exec_cons_iff _).mpr ⟨next, stepped, ran⟩, ?_⟩
      rw [List.filterMap_cons_some framed]
      simpa using forwarded

end ClientLoop

end DatagramTunneler
