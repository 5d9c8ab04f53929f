import DatagramTunneler.Tunnel.FrameDecoder
import DatagramTunneler.Tunnel.Server

/-! The receive loop against the one-shot decoder. While the loop runs, the bytes
it holds of the current frame followed by the bytes still to come decode to what
is left of the whole stream, and the length it asks for next ends exactly where
the part of the frame that it knows of ends. -/

set_option autoImplicit false

namespace DatagramTunneler

open Foundation

namespace ServerLoop

/-- The received part of the current frame, then the rest of the stream. -/
def unread (loop : ServerLoop) : List UInt8 := loop.tunnel_pkt.image.take loop.p ++ loop.pending

/-- How much of the current frame is known to exist after its first `p` bytes. -/
def wanted (order : ByteOrder) (loop : ServerLoop) : Nat :=
  if loop.p < kTunnelPacketPreambleLength then kTunnelPacketPreambleLength
  else if loop.p < kTunnelPacketHeaderLength then kTunnelPacketHeaderLength
  else loop.tunnel_pkt.size order

/-- What the server makes of a datagram; `fallback` is the configured group. -/
def publication (use_clt_grp_ : Bool) (fallback : SockAddrIn) (datagram : Datagram) : Publication where
  length := datagram.payload.length
  payload := datagram.payload
  group := if use_clt_grp_ then ⟨ByteOrder.big.toBytes 2 datagram.port, datagram.group⟩ else fallback

section Buffer

variable {order : ByteOrder} {loop : ServerLoop}

private theorem length_buffered (inside : loop.p ≤ sizeofTunnelPacket) :
    (loop.tunnel_pkt.image.take loop.p).length = loop.p := by
  rw [List.length_take, loop.tunnel_pkt.sized, Nat.min_eq_left inside]

theorem length_unread (inside : loop.p ≤ sizeofTunnelPacket) :
    loop.unread.length = loop.p + loop.pending.length := by
  rw [unread, List.length_append, length_buffered inside]

private theorem slice_unread (inside : loop.p ≤ sizeofTunnelPacket) {offset count : Nat}
    (within : offset + count ≤ loop.p) :
    slice loop.unread offset count = slice loop.tunnel_pkt.image offset count := by
  rw [unread, slice_append_left (by rw [length_buffered inside]; exact within), slice_take within]

theorem getD_unread (inside : loop.p ≤ sizeofTunnelPacket) {index : Nat} (within : index < loop.p) :
    loop.unread.getD index 0 = loop.tunnel_pkt.image.getD index 0 := by
  rw [unread, getD_append_left _ (by rw [length_buffered inside]; exact within),
    getD_take _ within]

/-- The header fields of the buffer are those of the stream once they have arrived. -/
theorem announcedLength_unread (inside : loop.p ≤ sizeofTunnelPacket)
    (header : kTunnelPacketHeaderLength ≤ loop.p) :
    announcedLength order loop.unread = loop.tunnel_pkt.datalen_ order := by
  rw [announcedLength, TunnelPacket.datalen_,
    slice_unread inside (by simp only [kTunnelPacketHeaderLength] at header; omega)]

end Buffer

/-- The datagram a full packet holds. -/
def heldDatagram (order : ByteOrder) (packet : TunnelPacket) : Datagram where
  group := packet.udp_dst_ip_
  port := packet.udp_dst_port_ order
  timestamp := packet.client_timestamp_us_ order
  payload := packet.databuf_ (packet.datalen_ order)

section Stream

variable {order : ByteOrder} {loop : ServerLoop}

private theorem nextFrame_badVersion (inside : loop.p ≤ sizeofTunnelPacket)
    (preamble : kTunnelPacketPreambleLength ≤ loop.p)
    (version : loop.tunnel_pkt.protocol_version_ ≠ kDtepProtocolVersion) :
    nextFrame order loop.unread = .badVersion loop.tunnel_pkt.protocol_version_ := by
  have long : ¬ loop.unread.length < kTunnelPacketPreambleLength := by
    rw [length_unread inside]; omega
  have second := getD_unread inside (show 1 < loop.p from preamble)
  rw [TunnelPacket.protocol_version_, ← second] at version ⊢
  rw [nextFrame, if_neg long, if_pos version]

theorem nextFrame_of_version (inside : loop.p ≤ sizeofTunnelPacket)
    (preamble : kTunnelPacketPreambleLength ≤ loop.p)
    (version : loop.tunnel_pkt.protocol_version_ = kDtepProtocolVersion) :
    nextFrame order loop.unread =
      if loop.tunnel_pkt.type_ = TunnelPacketType.heartbeat.value then .heartbeat
      else if loop.tunnel_pkt.type_ ≠ TunnelPacketType.datagram.value then
        .badType loop.tunnel_pkt.type_
      else if loop.unread.length < kTunnelPacketHeaderLength + announcedLength order loop.unread then
        .incomplete
      else .datagram {
        group := slice loop.unread 2 4
        port := order.ofBytes (slice loop.unread 6 2)
        timestamp := order.ofBytes (slice loop.unread 10 8)
        payload := slice loop.unread kTunnelPacketHeaderLength (announcedLength order loop.unread) } := by
  have long : ¬ loop.unread.length < kTunnelPacketPreambleLength := by
    rw [length_unread inside]; omega
  have first := getD_unread inside (show 0 < loop.p from Nat.lt_of_lt_of_le Nat.two_pos preamble)
  have second := getD_unread inside (show 1 < loop.p from preamble)
  rw [TunnelPacket.protocol_version_, ← second] at version
  rw [nextFrame, if_neg long, if_neg (not_not.mpr version), first]
  rfl

private theorem nextFrame_complete (inside : loop.p ≤ sizeofTunnelPacket)
    (version : loop.tunnel_pkt.protocol_version_ = kDtepProtocolVersion)
    (type : loop.tunnel_pkt.type_ = TunnelPacketType.datagram.value)
    (complete : loop.p = loop.tunnel_pkt.datalen_ order + kTunnelPacketHeaderLength) :
    nextFrame order loop.unread = .datagram (heldDatagram order loop.tunnel_pkt) := by
  have notHeartbeat : loop.tunnel_pkt.type_ ≠ TunnelPacketType.heartbeat.value := by
    rw [type]; decide
  have header : kTunnelPacketHeaderLength ≤ loop.p := by omega
  have announced : announcedLength order loop.unread = loop.tunnel_pkt.datalen_ order :=
    announcedLength_unread inside header
  simp only [kTunnelPacketHeaderLength] at header complete
  rw [nextFrame_of_version inside (by simp only [kTunnelPacketPreambleLength]; omega) version,
    if_neg notHeartbeat, if_neg (not_not.mpr type), if_neg, announced]
  · rw [slice_unread inside (by omega), slice_unread inside (by omega),
      slice_unread inside (by omega),
      slice_unread inside (by simp only [kTunnelPacketHeaderLength]; omega)]
    rfl
  · rw [announced, length_unread inside, kTunnelPacketHeaderLength]
    omega

private theorem length_held (inside : loop.p ≤ sizeofTunnelPacket)
    (complete : loop.p = loop.tunnel_pkt.datalen_ order + kTunnelPacketHeaderLength) :
    (heldDatagram order loop.tunnel_pkt).payload.length = loop.tunnel_pkt.datalen_ order := by
  rw [heldDatagram, TunnelPacket.databuf_, length_slice]
  rw [loop.tunnel_pkt.sized]
  omega

end Stream

/-- How a run ends that ends by itself. -/
def outcome : Ending → LoopStatus
  | .endOfStream _ => .returned
  | .badVersion version => .threw (throwTunnelError (unsupportedVersion version))
  | .badType type => .threw (throwTunnelError (unsupportedType type))

section Pass

variable (order : ByteOrder) (use_clt_grp_ : Bool) (fallback : SockAddrIn) (stream : List UInt8)
  (front : List Datagram)

/-- Exactly the datagrams `front` have been published and reported. -/
structure Delivered (loop : ServerLoop) : Prop where
  published : loop.published = front.map (publication use_clt_grp_ fallback)
  observed : loop.observations.map (·.bytes) = front.map (·.payload.length)

/-- What holds both at the head of the loop and after `recv`. -/
structure Tracking (loop : ServerLoop) : Prop extends Delivered use_clt_grp_ fallback front loop where
  running : loop.status = .running
  inside : loop.p ≤ sizeofTunnelPacket
  decoded : decodeStream order stream = (decodeStream order loop.unread).prepend front
  suffix : loop.unread <:+ stream
  group : use_clt_grp_ = false → loop.pub_group = fallback

def HeaderOk (loop : ServerLoop) : Prop :=
  loop.tunnel_pkt.protocol_version_ = kDtepProtocolVersion ∧
    loop.tunnel_pkt.type_ = TunnelPacketType.datagram.value

/-- The loop at its head. -/
structure Receiving (loop : ServerLoop) : Prop extends
    Tracking order use_clt_grp_ fallback stream front loop where
  started : loop.p < loop.wanted order
  request : loop.p + loop.len_to_read = loop.wanted order
  header : kTunnelPacketPreambleLength ≤ loop.p → loop.HeaderOk

/-- After `recv`, before the pass has looked at the bytes: no byte beyond the part
of the frame that was known before has been read. -/
structure Received (loop : ServerLoop) : Prop extends
    Tracking order use_clt_grp_ fallback stream front loop where
  capped : loop.p ≤ kTunnelPacketPreambleLength ∨
    (loop.HeaderOk ∧ (loop.p ≤ kTunnelPacketHeaderLength ∨ loop.p ≤ loop.tunnel_pkt.size order))

structure Finished (ending : Ending) (loop : ServerLoop) : Prop extends
    Delivered use_clt_grp_ fallback front loop where
  status : loop.status = outcome ending
  decoded : decodeStream order stream = ⟨front, ending⟩

/-- Where one pass can lead. -/
inductive PassResult (reach : Nat) (sendto_error : Option Nat) : ServerLoop → Prop where
  | receiving {next : ServerLoop} {shown : List Datagram} :
      Receiving order use_clt_grp_ fallback stream shown next → PassResult reach sendto_error next
  | finished {next : ServerLoop} {ending : Ending} : ending.Refuses →
      Finished order use_clt_grp_ fallback stream front ending next →
      PassResult reach sendto_error next
  | unpublished {next : ServerLoop} {shown : List Datagram} {rest : Decoded} {message : Text} :
      sendto_error.isSome → next.status = .threw message →
      next.published = shown.map (publication use_clt_grp_ fallback) →
      decodeStream order stream = rest.prepend shown → PassResult reach sendto_error next
  | overrun {next : ServerLoop} : next.status = .undefined → sizeofTunnelPacket < reach →
      Delivered use_clt_grp_ fallback front next → PassResult reach sendto_error next

variable {order use_clt_grp_ fallback stream front} {loop : ServerLoop}

theorem start_receiving :
    Receiving order use_clt_grp_ fallback stream [] (start fallback stream) where
  published := rfl
  observed := rfl
  running := rfl
  inside := Nat.zero_le _
  decoded := by simp [start, unread]
  suffix := by simp [start, unread]
  group := fun _ => rfl
  started := Nat.two_pos
  request := rfl
  header := by intro enough; simp [start, kTunnelPacketPreambleLength] at enough

/-- The loop head is never reached with nothing to ask for. -/
theorem Receiving.asks (receiving : Receiving order use_clt_grp_ fallback stream front loop) :
    0 < loop.len_to_read := by
  have started := receiving.started
  have request := receiving.request
  omega

theorem Received.heartbeat (received : Received order use_clt_grp_ fallback stream front loop)
    (preamble : kTunnelPacketPreambleLength ≤ loop.p)
    (version : loop.tunnel_pkt.protocol_version_ = kDtepProtocolVersion)
    (type : loop.tunnel_pkt.type_ = TunnelPacketType.heartbeat.value) :
    Receiving order use_clt_grp_ fallback stream front loop.reset := by
  have exact : loop.p = kTunnelPacketPreambleLength := by
    rcases received.capped with short | ⟨⟨_, datagram⟩, _⟩
    · omega
    · rw [datagram] at type; cases type
  have found : nextFrame order loop.unread = .heartbeat := by
    rw [nextFrame_of_version received.inside preamble version, if_pos type]
  have rest : loop.unread.drop kTunnelPacketPreambleLength = loop.reset.unread := by
    rw [unread, List.drop_left' ((length_buffered received.inside).trans exact)]
    simp [unread, reset]
  exact {
    published := received.published
    observed := received.observed
    running := received.running
    inside := Nat.zero_le _
    decoded := by rw [received.decoded, decodeStream_heartbeat found, rest]
    suffix := by rw [← rest]; exact (List.drop_suffix _ _).trans received.suffix
    group := received.group
    started := Nat.two_pos
    request := rfl
    header := by intro enough; simp [reset, kTunnelPacketPreambleLength] at enough }

theorem Received.publish (received : Received order use_clt_grp_ fallback stream front loop)
    (header : loop.HeaderOk)
    (complete : loop.p = loop.tunnel_pkt.datalen_ order + kTunnelPacketHeaderLength)
    (now : Nat) (sendto_error : Option Nat) :
    PassResult order use_clt_grp_ fallback stream front loop.p sendto_error
      (loop.reset.publish order use_clt_grp_ now sendto_error) := by
  have found := nextFrame_complete received.inside header.1 header.2 complete
  have length := length_held received.inside complete
  have rest : loop.unread.drop (kTunnelPacketHeaderLength +
      (heldDatagram order loop.tunnel_pkt).payload.length) = loop.pending := by
    rw [length, Nat.add_comm, ← complete, unread]
    exact List.drop_left' (length_buffered received.inside)
  have decoded : decodeStream order stream = (decodeStream order loop.pending).prepend
      (front ++ [heldDatagram order loop.tunnel_pkt]) := by
    rw [received.decoded, decodeStream_datagram found, rest, Decoded.prepend_prepend]
  have group : (if use_clt_grp_ then clientGroup order loop.tunnel_pkt else loop.pub_group) =
      (publication use_clt_grp_ fallback (heldDatagram order loop.tunnel_pkt)).group := by
    cases replicate : use_clt_grp_ with
    | true => rfl
    | false => simpa [publication] using received.group replicate
  have shown : Publication.mk (loop.tunnel_pkt.datalen_ order)
      (loop.tunnel_pkt.databuf_ (loop.tunnel_pkt.datalen_ order))
      (if use_clt_grp_ then clientGroup order loop.tunnel_pkt else loop.pub_group) =
      publication use_clt_grp_ fallback (heldDatagram order loop.tunnel_pkt) := by
    rw [group, publication, length]
    rfl
  cases sendto_error with
  | some error_code =>
      refine .unpublished rfl rfl ?_ decoded
      rw [List.map_append, ← received.published, List.map_singleton, ← shown]
      rfl
  | none =>
      have next : Receiving order use_clt_grp_ fallback stream
          (front ++ [heldDatagram order loop.tunnel_pkt])
          (loop.reset.publish order use_clt_grp_ now none) := {
        published := by
          rw [List.map_append, ← received.published, List.map_singleton, ← shown]
          rfl
        observed := by simp [ServerLoop.publish, reset, received.observed, length]
        running := received.running
        inside := Nat.zero_le _
        decoded := by simpa [unread, ServerLoop.publish, reset] using decoded
        suffix := by
          have inside : loop.pending <:+ loop.unread := List.suffix_append _ _
          simpa [unread, ServerLoop.publish, reset] using inside.trans received.suffix
        group := by
          intro configured
          simpa [ServerLoop.publish, reset, configured] using received.group configured
        started := Nat.two_pos
        request := rfl
        header := by
          intro enough
          simp [ServerLoop.publish, reset, kTunnelPacketPreambleLength] at enough }
      exact .receiving next

theorem Tracking.wait (tracking : Tracking order use_clt_grp_ fallback stream front loop)
    (unfinished : loop.p < loop.wanted order)
    (header : kTunnelPacketPreambleLength ≤ loop.p → loop.HeaderOk) :
    Receiving order use_clt_grp_ fallback stream front
      { loop with len_to_read := loop.wanted order - loop.p } where
  toTracking := { tracking with }
  started := unfinished
  request := Nat.add_sub_cancel' (Nat.le_of_lt unfinished)
  header := header

private theorem Tracking.refuse {ending : Ending}
    (tracking : Tracking order use_clt_grp_ fallback stream front loop)
    (decoded : decodeStream order loop.unread = ⟨[], ending⟩) :
    Finished order use_clt_grp_ fallback stream front ending { loop with status := outcome ending } where
  published := tracking.published
  observed := tracking.observed
  status := rfl
  decoded := by rw [tracking.decoded, decoded, Decoded.prepend, List.append_nil]

/-- Bytes are only ever read up to the end of the part of the frame known before,
so a datagram that has all its bytes has no more than them. -/
theorem Received.complete (received : Received order use_clt_grp_ fallback stream front loop)
    (type : loop.tunnel_pkt.type_ = TunnelPacketType.datagram.value)
    (header : ¬ loop.p < kTunnelPacketHeaderLength)
    (enough : ¬ loop.p < loop.tunnel_pkt.size order) :
    loop.p = loop.tunnel_pkt.datalen_ order + kTunnelPacketHeaderLength := by
  have notHeartbeat : loop.tunnel_pkt.type_ ≠ TunnelPacketType.heartbeat.value := by
    rw [type]; decide
  have size : loop.tunnel_pkt.size order =
      loop.tunnel_pkt.datalen_ order + kTunnelPacketHeaderLength := if_neg notHeartbeat
  have capped := received.capped
  simp only [kTunnelPacketPreambleLength] at capped
  simp only [kTunnelPacketHeaderLength] at header capped size ⊢
  omega

theorem Received.afterRecv (received : Received order use_clt_grp_ fallback stream front loop)
    (now : Nat) (sendto_error : Option Nat) :
    PassResult order use_clt_grp_ fallback stream front loop.p sendto_error
      (loop.afterRecv order use_clt_grp_ now sendto_error) := by
  unfold ServerLoop.afterRecv
  dsimp only
  split_ifs with preamble version heartbeat type header incomplete odd
  · have wanted : loop.wanted order = kTunnelPacketPreambleLength := if_pos preamble
    rw [← wanted]
    exact .receiving (received.wait (by omega) (by omega))
  · exact .finished (show Ending.Refuses (.badVersion _) from trivial) (received.refuse
      (decodeStream_badVersion (nextFrame_badVersion received.inside (by omega) version)))
  · exact .receiving (received.heartbeat (by omega) (not_not.mp version) heartbeat)
  · have found : nextFrame order loop.unread = .badType loop.tunnel_pkt.type_ := by
      rw [nextFrame_of_version received.inside (by omega) (not_not.mp version), if_neg heartbeat,
        if_pos type]
    exact .finished (show Ending.Refuses (.badType _) from trivial)
      (received.refuse (decodeStream_badType found))
  · have wanted : loop.wanted order = kTunnelPacketHeaderLength := by
      rw [ServerLoop.wanted, if_neg preamble, if_pos header]
    rw [← wanted]
    exact .receiving (received.wait (by omega) fun _ => ⟨not_not.mp version, not_not.mp type⟩)
  · have wanted : loop.wanted order = loop.tunnel_pkt.size order := by
      rw [ServerLoop.wanted, if_neg preamble, if_neg header]
    rw [← wanted]
    exact .receiving (received.wait (by omega) fun _ => ⟨not_not.mp version, not_not.mp type⟩)
  · have complete := received.complete (not_not.mp type) header incomplete
    exact absurd (complete.trans (if_neg heartbeat).symm) odd
  · exact received.publish ⟨not_not.mp version, not_not.mp type⟩
      (received.complete (not_not.mp type) header incomplete) now sendto_error

/-- The known part of the frame does not grow by reading inside it. -/
theorem Receiving.capped (receiving : Receiving order use_clt_grp_ fallback stream front loop)
    {count : Nat} {packet : TunnelPacket} (can : loop.CanRecv count)
    (stored : loop.tunnel_pkt.store loop.p (loop.pending.take count) = some packet) :
    loop.p + count ≤ kTunnelPacketPreambleLength ∨
      ((packet.protocol_version_ = kDtepProtocolVersion ∧
          packet.type_ = TunnelPacketType.datagram.value) ∧
        (loop.p + count ≤ kTunnelPacketHeaderLength ∨ loop.p + count ≤ packet.size order)) := by
  have within : loop.p + count ≤ loop.wanted order := by
    rw [← receiving.request]
    exact Nat.add_le_add_left can.2.1 _
  rcases Nat.lt_or_ge loop.p kTunnelPacketPreambleLength with preamble | preamble
  · rw [wanted, if_pos preamble] at within
    exact .inl within
  · obtain ⟨type, version⟩ := TunnelPacket.store_preamble stored preamble
    refine .inr ⟨by rw [type, version]; exact receiving.header preamble, ?_⟩
    rw [wanted, if_neg (Nat.not_lt.mpr preamble)] at within
    split_ifs at within with header
    · exact .inl within
    · exact .inr (by rwa [TunnelPacket.store_size order stored (Nat.not_lt.mp header)])

private theorem recv_of_fits {count : Nat} (can : loop.CanRecv count)
    (fits : loop.p + count ≤ sizeofTunnelPacket) :
    ∃ packet, loop.tunnel_pkt.store loop.p (loop.pending.take count) = some packet ∧
      loop.recv count = { loop with
        tunnel_pkt := packet, p := loop.p + count, pending := loop.pending.drop count } := by
  cases stored : loop.tunnel_pkt.store loop.p (loop.pending.take count) with
  | none =>
      have beyond := TunnelPacket.store_eq_none stored
      rw [List.length_take, Nat.min_eq_left can.2.2] at beyond
      omega
  | some packet => exact ⟨packet, rfl, by rw [ServerLoop.recv, stored]⟩

private theorem recv_of_beyond {count : Nat} (can : loop.CanRecv count)
    (beyond : sizeofTunnelPacket < loop.p + count) :
    loop.recv count = { loop with status := .undefined } := by
  cases stored : loop.tunnel_pkt.store loop.p (loop.pending.take count) with
  | none => rw [ServerLoop.recv, stored]
  | some packet =>
      have fits := (TunnelPacket.store_eq_some stored).1
      rw [List.length_take, Nat.min_eq_left can.2.2] at fits
      omega

/-- Storing what `recv` returned changes neither the bytes before the write
pointer nor what is still to be read. -/
theorem Receiving.recv (receiving : Receiving order use_clt_grp_ fallback stream front loop)
    {count : Nat} (can : loop.CanRecv count)
    (fits : loop.p + count ≤ sizeofTunnelPacket) :
    Received order use_clt_grp_ fallback stream front (loop.recv count) := by
  obtain ⟨packet, stored, received⟩ := recv_of_fits can fits
  have image := (TunnelPacket.store_eq_some stored).2
  have before : loop.p ≤ loop.tunnel_pkt.image.length := by
    rw [loop.tunnel_pkt.sized]; exact receiving.inside
  have prefixed : packet.image.take (loop.p + count) =
      loop.tunnel_pkt.image.take loop.p ++ loop.pending.take count := by
    have length : (loop.pending.take count).length = count := by
      rw [List.length_take, Nat.min_eq_left can.2.2]
    rw [image, ← take_overwrite before, length]
  have kept : ServerLoop.unread { loop with
      tunnel_pkt := packet, p := loop.p + count, pending := loop.pending.drop count } =
      loop.unread := by
    rw [unread, unread, prefixed, List.append_assoc, List.take_append_drop]
  rw [received]
  exact {
    published := receiving.published
    observed := receiving.observed
    running := receiving.running
    inside := fits
    decoded := by rw [kept]; exact receiving.decoded
    suffix := by rw [kept]; exact receiving.suffix
    group := receiving.group
    capped := receiving.capped can stored }

theorem canRecv_of_pass {arrival : Arrival} {sendto_error : Option Nat} {next : ServerLoop}
    (passed : loop.pass order use_clt_grp_ arrival sendto_error = some next) :
    loop.CanRecv arrival.count := by
  by_contra cannot
  rw [ServerLoop.pass, if_neg cannot] at passed
  cases passed

private theorem afterRecv_pending (loop : ServerLoop) (now : Nat) (sendto_error : Option Nat) :
    (loop.afterRecv order use_clt_grp_ now sendto_error).pending = loop.pending := by
  unfold ServerLoop.afterRecv
  dsimp only
  split_ifs <;> first | rfl | (cases sendto_error <;> rfl)

/-- A pass takes its bytes off the stream, or ends outside the packet. -/
theorem pass_pending {arrival : Arrival} {sendto_error : Option Nat} {next : ServerLoop}
    (passed : loop.pass order use_clt_grp_ arrival sendto_error = some next) :
    next.pending = loop.pending.drop arrival.count ∨
      (next.status = .undefined ∧ next.pending = loop.pending) := by
  have can := canRecv_of_pass passed
  rw [ServerLoop.pass, if_pos can] at passed
  rcases Nat.lt_or_ge sizeofTunnelPacket (loop.p + arrival.count) with beyond | fits
  · rw [recv_of_beyond can beyond] at passed
    obtain rfl := Option.some.inj passed
    exact .inr ⟨rfl, rfl⟩
  · obtain ⟨packet, _, stored⟩ := recv_of_fits can fits
    dsimp only at passed
    refine .inl ?_
    split_ifs at passed
    · obtain rfl := Option.some.inj passed
      rw [stored]
    · obtain rfl := Option.some.inj passed
      rw [afterRecv_pending, stored]

theorem Receiving.pass (receiving : Receiving order use_clt_grp_ fallback stream front loop)
    {arrival : Arrival} {sendto_error : Option Nat} {next : ServerLoop}
    (passed : loop.pass order use_clt_grp_ arrival sendto_error = some next) :
    PassResult order use_clt_grp_ fallback stream front (loop.p + arrival.count) sendto_error next := by
  have can := canRecv_of_pass passed
  rw [ServerLoop.pass, if_pos can] at passed
  rcases Nat.lt_or_ge sizeofTunnelPacket (loop.p + arrival.count) with beyond | fits
  · rw [recv_of_beyond can beyond] at passed
    obtain rfl := Option.some.inj passed
    exact .overrun rfl beyond ⟨receiving.published, receiving.observed⟩
  · have received := receiving.recv can fits
    have reach : (loop.recv arrival.count).p = loop.p + arrival.count := by
      obtain ⟨packet, _, stored⟩ := recv_of_fits can fits
      rw [stored]
    simp only [received.running, reduceCtorEq, ↓reduceIte, Option.some.injEq] at passed
    subst passed
    rw [← reach]
    exact received.afterRecv arrival.now sendto_error

end Pass

end ServerLoop

end DatagramTunneler
