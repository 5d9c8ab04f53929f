import DatagramTunneler.Tunnel.FrameDecoder

/-! The sending side of the format. A sequence of heartbeats and datagrams has one
image on the wire, and the decoder gives the datagrams back. -/

set_option autoImplicit false

namespace DatagramTunneler

open Foundation

/-- The fields of the datagram fit the widths the header has for them. -/
structure Datagram.Fits (datagram : Datagram) : Prop where
  group : datagram.group.length = 4
  port : datagram.port < 256 ^ 2
  length : datagram.payload.length < 256 ^ 2
  timestamp : datagram.timestamp < 256 ^ 8

namespace Datagram

def header (order : ByteOrder) (datagram : Datagram) : List UInt8 :=
  [TunnelPacketType.datagram.value, kDtepProtocolVersion] ++ datagram.group ++
    order.toBytes 2 datagram.port ++ order.toBytes 2 datagram.payload.length ++
    order.toBytes 8 datagram.timestamp

def encode (order : ByteOrder) (datagram : Datagram) : List UInt8 :=
  datagram.header order ++ datagram.payload

end Datagram

def encodedHeartbeat : List UInt8 := [TunnelPacketType.heartbeat.value, kDtepProtocolVersion]

/-- The stream of a sequence of frames, `none` being a heartbeat. -/
def encodeFrames (order : ByteOrder) (frames : List (Option Datagram)) : List UInt8 :=
  frames.flatMap fun
    | none => encodedHeartbeat
    | some datagram => datagram.encode order

variable (order : ByteOrder)

private theorem Datagram.Fits.length_header {datagram : Datagram} (fits : datagram.Fits) :
    (datagram.header order).length = kTunnelPacketHeaderLength := by
  simp [Datagram.header, fits.group, kTunnelPacketHeaderLength]

private theorem nextFrame_encodedHeartbeat (rest : List UInt8) :
    nextFrame order (encodedHeartbeat ++ rest) = .heartbeat := by
  have preamble : ¬ (encodedHeartbeat ++ rest).length < kTunnelPacketPreambleLength := by
    simp [encodedHeartbeat, kTunnelPacketPreambleLength]
  rw [nextFrame, if_neg preamble]
  rfl

/-- Reading a header back, field by field. -/
theorem Datagram.Fits.slices {datagram : Datagram} (fits : datagram.Fits) (rest : List UInt8) :
    slice (datagram.header order ++ rest) 2 4 = datagram.group ∧
    order.ofBytes (slice (datagram.header order ++ rest) 6 2) = datagram.port ∧
    order.ofBytes (slice (datagram.header order ++ rest) 8 2) = datagram.payload.length ∧
    order.ofBytes (slice (datagram.header order ++ rest) 10 8) = datagram.timestamp := by
  have layout : datagram.header order ++ rest =
      [TunnelPacketType.datagram.value, kDtepProtocolVersion] ++ (datagram.group ++
        (order.toBytes 2 datagram.port ++ (order.toBytes 2 datagram.payload.length ++
          (order.toBytes 8 datagram.timestamp ++ rest)))) := by
    simp only [Datagram.header, List.append_assoc]
  refine ⟨slice_field layout rfl fits.group, ?_, ?_, ?_⟩
  · rw [slice_field (layout.trans (List.append_assoc ..).symm) (by simp [fits.group])
      (order.length_toBytes 2 _), order.ofBytes_toBytes fits.port]
  · rw [← List.append_assoc, ← List.append_assoc] at layout
    rw [slice_field layout (by simp [fits.group]) (order.length_toBytes 2 _),
      order.ofBytes_toBytes fits.length]
  · rw [← List.append_assoc, ← List.append_assoc, ← List.append_assoc] at layout
    rw [slice_field layout (by simp [fits.group]) (order.length_toBytes 8 _),
      order.ofBytes_toBytes fits.timestamp]

private theorem Datagram.Fits.nextFrame_encode {datagram : Datagram} (fits : datagram.Fits)
    (rest : List UInt8) :
    nextFrame order (datagram.encode order ++ rest) = .datagram datagram := by
  have header := fits.length_header order
  obtain ⟨group, port, length, timestamp⟩ := fits.slices order (datagram.payload ++ rest)
  have layout : datagram.encode order ++ rest =
      datagram.header order ++ (datagram.payload ++ rest) := by
    rw [Datagram.encode, List.append_assoc]
  have payload : slice (datagram.header order ++ (datagram.payload ++ rest))
      kTunnelPacketHeaderLength datagram.payload.length = datagram.payload :=
    slice_field rfl header rfl
  have long : (datagram.header order ++ (datagram.payload ++ rest)).length =
      kTunnelPacketHeaderLength + (datagram.payload.length + rest.length) := by
    rw [List.length_append, List.length_append, header]
  simp only [kTunnelPacketHeaderLength] at long
  have preamble : ¬ (datagram.header order ++ (datagram.payload ++ rest)).length <
      kTunnelPacketPreambleLength := by
    rw [long, kTunnelPacketPreambleLength]; omega
  have complete : ¬ (datagram.header order ++ (datagram.payload ++ rest)).length <
      kTunnelPacketHeaderLength + datagram.payload.length := by
    rw [long, kTunnelPacketHeaderLength]; omega
  have version : (datagram.header order ++ (datagram.payload ++ rest)).getD 1 0 =
      kDtepProtocolVersion := rfl
  have type : (datagram.header order ++ (datagram.payload ++ rest)).getD 0 0 =
      TunnelPacketType.datagram.value := rfl
  rw [layout, nextFrame, if_neg preamble, if_neg (not_not.mpr version), type,
    if_neg (by decide), if_neg (not_not.mpr rfl), announcedLength, length, if_neg complete,
    group, port, timestamp, payload]

/-- What is encoded is what is decoded, and nothing is left over. -/
theorem decodeStream_encodeFrames (frames : List (Option Datagram))
    (fits : ∀ datagram, some datagram ∈ frames → datagram.Fits) :
    decodeStream order (encodeFrames order frames) = ⟨frames.filterMap id, .endOfStream []⟩ := by
  induction frames with
  | nil => exact decodeStream_incomplete rfl
  | cons frame frames ih =>
      have rest := ih fun datagram inside => fits datagram (List.mem_cons_of_mem _ inside)
      cases frame with
      | none =>
          have dropped : (encodedHeartbeat ++ encodeFrames order frames).drop
              kTunnelPacketPreambleLength = encodeFrames order frames := rfl
          have stream : encodeFrames order (none :: frames) =
              encodedHeartbeat ++ encodeFrames order frames := List.flatMap_cons
          rw [stream, decodeStream_heartbeat (nextFrame_encodedHeartbeat order _), dropped, rest,
            List.filterMap_cons_none rfl]
      | some datagram =>
          have fitting := fits datagram (List.mem_cons_self ..)
          have length : (datagram.encode order).length =
              kTunnelPacketHeaderLength + datagram.payload.length := by
            rw [Datagram.encode, List.length_append, fitting.length_header order]
          have stream : encodeFrames order (some datagram :: frames) =
              datagram.encode order ++ encodeFrames order frames := List.flatMap_cons
          rw [stream, decodeStream_datagram (fitting.nextFrame_encode order _), List.drop_left' length,
            rest]
          simp [Decoded.prepend]

end DatagramTunneler
