import DatagramTunneler.Tunnel.ServerProperties

/-! Whole runs of the receive loop: over any segmentation it publishes what the
one-shot decoder finds, and it stays inside its packet exactly on the streams
whose datagram headers announce no more than the packet can hold. -/

set_option autoImplicit false

namespace DatagramTunneler

open Foundation

namespace ServerLoop

variable {order : ByteOrder} {use_clt_grp_ : Bool} {fallback : SockAddrIn} {stream : List UInt8}
  {front : List Datagram} {loop : ServerLoop}

/-- The events of a peer whose bytes arrive and who then closes the connection. -/
def Delivers : ServerEvent → Prop
  | .recv _ | .closed => True
  | .recvUnpublished _ _ | .timeout | .failed _ | .stop_requested => False

/-- Every byte asked for has a place in the packet, and every byte published is one of it. -/
def InBounds (loop : ServerLoop) : Prop :=
  (loop.status = .running → loop.p + loop.len_to_read ≤ sizeofTunnelPacket) ∧
    ∀ call ∈ loop.published, call.length ≤ kMaxDatagramLength

theorem outcome_ne_running (ending : Ending) : outcome ending ≠ .running := by
  cases ending <;> simp [outcome]

theorem step_of_running (running : loop.status = .running) (asks : 0 < loop.len_to_read)
    (event : ServerEvent) :
    step order use_clt_grp_ loop event = match event with
      | .recv arrival => loop.pass order use_clt_grp_ arrival none
      | .recvUnpublished arrival error_code =>
          loop.pass order use_clt_grp_ arrival (some error_code)
      | .closed => if loop.pending = [] then some { loop with status := .returned } else none
      | .timeout => some { loop with status := .returned }
      | .failed error_code =>
          some (loop.fail (ascii "Unable to read data from TCP socket, recv() error " ++
            to_string error_code ++ ascii "!"))
      | .stop_requested => some { loop with status := .returned } := by
  have asked : ¬ (loop.len_to_read = 0 ∧ event ≠ .stop_requested) := fun idle => by omega
  exact (if_neg (not_not.mpr running)).trans ((if_neg asked).trans (by cases event <;> rfl))

private theorem Receiving.header_unread
    (receiving : Receiving order use_clt_grp_ fallback stream front loop)
    (preamble : kTunnelPacketPreambleLength ≤ loop.p) :
    loop.unread.getD 1 0 = kDtepProtocolVersion ∧
      loop.unread.getD 0 0 = TunnelPacketType.datagram.value := by
  obtain ⟨version, type⟩ := receiving.header preamble
  rw [TunnelPacket.protocol_version_] at version
  rw [TunnelPacket.type_] at type
  rw [getD_unread receiving.inside preamble, getD_unread receiving.inside
    (Nat.lt_of_lt_of_le Nat.two_pos preamble)]
  exact ⟨version, type⟩

/-- A header the packet has room for asks for bytes it has room for. -/
theorem Receiving.wanted_le (receiving : Receiving order use_clt_grp_ fallback stream front loop)
    (announced : AnnouncesWithin order kMaxDatagramLength stream) :
    loop.wanted order ≤ sizeofTunnelPacket := by
  rw [wanted]
  split_ifs with preamble header
  · decide
  · decide
  · have enough : kTunnelPacketHeaderLength ≤ loop.unread.length := by
      rw [length_unread receiving.inside]; omega
    obtain ⟨version, type⟩ := receiving.header_unread (Nat.not_lt.mp preamble)
    have within := announced.of_prepend receiving.decoded _ (announcedLength_mem enough version type)
    rw [announcedLength_unread receiving.inside (Nat.not_lt.mp header)] at within
    rw [TunnelPacket.size, if_neg (by rw [(receiving.header (Nat.not_lt.mp preamble)).2]; decide)]
    simp only [kMaxDatagramLength] at within
    simp only [kTunnelPacketHeaderLength, sizeofTunnelPacket]
    omega

/-- Behind a good preamble the frame ends where its header says. -/
theorem Receiving.length?_of_header
    (receiving : Receiving order use_clt_grp_ fallback stream front loop)
    (preamble : kTunnelPacketPreambleLength ≤ loop.p) {length : Nat}
    (ends : (nextFrame order loop.unread).length? = some length) :
    length = kTunnelPacketHeaderLength + announcedLength order loop.unread := by
  obtain ⟨version, type⟩ := receiving.header preamble
  have notHeartbeat : loop.tunnel_pkt.type_ ≠ TunnelPacketType.heartbeat.value := by
    rw [type]; decide
  rw [nextFrame_of_version receiving.inside preamble version, if_neg notHeartbeat,
    if_neg (not_not.mpr type)] at ends
  split_ifs at ends with short
  · cases ends
  · obtain rfl := Option.some.inj ends
    rw [length_slice (Nat.not_lt.mp short)]

/-- The length asked for never reaches past the end of the current frame. -/
theorem Receiving.within_frame (receiving : Receiving order use_clt_grp_ fallback stream front loop)
    {length : Nat} (ends : (nextFrame order loop.unread).length? = some length) :
    loop.p + loop.len_to_read ≤ length := by
  rw [receiving.request, wanted]
  split_ifs with preamble header
  · exact Frame.length?_ge ends
  · rw [receiving.length?_of_header (Nat.not_lt.mp preamble) ends]
    exact Nat.le_add_right _ _
  · obtain ⟨_, type⟩ := receiving.header (Nat.not_lt.mp preamble)
    rw [receiving.length?_of_header (Nat.not_lt.mp preamble) ends,
      announcedLength_unread receiving.inside (Nat.not_lt.mp header), TunnelPacket.size,
      if_neg (by rw [type]; decide), Nat.add_comm]

/-- With every byte received, what is left is at most a part of a frame. -/
theorem Receiving.drained (receiving : Receiving order use_clt_grp_ fallback stream front loop)
    (drained : loop.pending = []) :
    decodeStream order stream = ⟨front, .endOfStream loop.unread⟩ := by
  have length : loop.unread.length = loop.p := by
    rw [length_unread receiving.inside, drained]; rfl
  have found : nextFrame order loop.unread = .incomplete := by
    cases ends : (nextFrame order loop.unread).length? with
    | none => exact Frame.eq_incomplete ends
    | some bound =>
        have inside := nextFrame_length?_le ends
        have known := receiving.within_frame ends
        have asks := receiving.asks
        omega
  rw [receiving.decoded, decodeStream_incomplete found, Decoded.prepend, List.append_nil]

/-! ## Runs in which the stream is delivered -/

/-- A delivering run is at the head of the loop or has ended as the decoder says. -/
inductive Delivering (order : ByteOrder) (use_clt_grp_ : Bool) (fallback : SockAddrIn)
    (stream : List UInt8) (loop : ServerLoop) : Prop where
  | receiving {front : List Datagram} :
      Receiving order use_clt_grp_ fallback stream front loop →
      Delivering order use_clt_grp_ fallback stream loop
  | finished {front : List Datagram} {ending : Ending} :
      Finished order use_clt_grp_ fallback stream front ending loop →
      Delivering order use_clt_grp_ fallback stream loop

theorem Delivering.step (announced : AnnouncesWithin order kMaxDatagramLength stream)
    {event : ServerEvent} {next : ServerLoop}
    (delivering : Delivering order use_clt_grp_ fallback stream loop) (delivers : Delivers event)
    (stepped : ServerLoop.step order use_clt_grp_ loop event = some next) :
    Delivering order use_clt_grp_ fallback stream next := by
  cases delivering with
  | finished finished =>
      unfold ServerLoop.step at stepped
      rw [finished.status, if_pos (outcome_ne_running _)] at stepped
      cases stepped
  | receiving receiving =>
      rw [step_of_running receiving.running receiving.asks] at stepped
      cases event with
      | recvUnpublished | timeout | failed | stop_requested => cases delivers
      | closed =>
          dsimp only at stepped
          split_ifs at stepped with drained
          cases stepped
          exact .finished {
            published := receiving.published
            observed := receiving.observed
            status := rfl
            decoded := receiving.drained drained }
      | recv arrival =>
          have room := receiving.wanted_le announced
          have request := receiving.request
          cases receiving.pass stepped with
          | receiving receiving => exact .receiving receiving
          | finished _ finished => exact .finished finished
          | unpublished failed => cases failed
          | overrun _ beyond =>
              have asked := (canRecv_of_pass stepped).2.1
              omega

private theorem guarded_of_delivers {start : ServerLoop} {events : List ServerEvent}
    (delivers : ∀ event ∈ events, Delivers event) :
    (runServer order use_clt_grp_).Guarded (fun _ event => Delivers event) start events := by
  intro passed event within _ _
  exact delivers event (within.subset (by simp))

theorem delivering_of_exec (announced : AnnouncesWithin order kMaxDatagramLength stream)
    {events : List ServerEvent} (delivers : ∀ event ∈ events, Delivers event)
    (ran : (runServer order use_clt_grp_).exec (start fallback stream) events = some loop) :
    Delivering order use_clt_grp_ fallback stream loop := by
  exact Machine.invariant_of_guarded (fun delivering allowed => delivering.step announced allowed)
    ran (guarded_of_delivers delivers) (.receiving start_receiving)

private theorem step_recv (receiving : Receiving order use_clt_grp_ fallback stream front loop)
    {arrival : Arrival} (can : loop.CanRecv arrival.count) :
    ∃ next, ServerLoop.step order use_clt_grp_ loop (.recv arrival) = some next := by
  rw [step_of_running receiving.running receiving.asks]
  dsimp only
  rw [ServerLoop.pass, if_pos can]
  dsimp only
  split_ifs <;> exact ⟨_, rfl⟩

private theorem step_closed (receiving : Receiving order use_clt_grp_ fallback stream front loop)
    (drained : loop.pending = []) :
    ∃ next, ServerLoop.step order use_clt_grp_ loop .closed = some next := by
  rw [step_of_running receiving.running receiving.asks]
  dsimp only
  rw [if_pos drained]
  exact ⟨_, rfl⟩

/-- What a delivering run still has ahead of it: bytes to receive and one end. -/
def ahead (loop : ServerLoop) : Nat :=
  loop.pending.length + if loop.status = .running then 1 else 0

private theorem ahead_decreases {event : ServerEvent} {next : ServerLoop} (delivers : Delivers event)
    (stepped : ServerLoop.step order use_clt_grp_ loop event = some next) :
    next.ahead < loop.ahead := by
  unfold ServerLoop.step at stepped
  split at stepped
  · cases stepped
  · next running =>
      have one : loop.ahead = loop.pending.length + 1 := by simp [ahead, not_not.mp running]
      rw [one]
      split at stepped
      · obtain rfl := Option.some.inj stepped
        simp [ahead]
      · cases event with
        | recvUnpublished | timeout | failed | stop_requested => cases delivers
        | closed =>
            dsimp only at stepped
            split_ifs at stepped with drained
            obtain rfl := Option.some.inj stepped
            simp [ahead]
        | recv arrival =>
            have can := canRecv_of_pass stepped
            have positive := can.1
            have available := can.2.2
            rcases pass_pending stepped with pending | ⟨undefined, pending⟩
            · rw [ahead, pending, List.length_drop]
              split_ifs <;> omega
            · simp [ahead, pending, undefined]

/-- Over every segmentation the loop computes the one-shot decoder. A run that has
ended has published exactly the decoded datagrams and has ended as the decoder
says. A loop that runs asks for something, holds a suffix of the stream that starts
at a frame, asks for nothing beyond that frame, and can take any next segment; it
cannot do so for longer than the stream has bytes. -/
theorem runServer_eq_decodeStream (order : ByteOrder) (use_clt_grp_ : Bool) (pub_group : SockAddrIn)
    (stream : List UInt8) (announced : AnnouncesWithin order kMaxDatagramLength stream)
    (events : List ServerEvent) (delivers : ∀ event ∈ events, Delivers event) (loop : ServerLoop)
    (ran : (runServer order use_clt_grp_).exec (start pub_group stream) events = some loop) :
    (loop.status ≠ .running →
      loop.published = (decodeStream order stream).datagrams.map (publication use_clt_grp_ pub_group) ∧
        loop.status = outcome (decodeStream order stream).ending) ∧
    (loop.status = .running →
      0 < loop.len_to_read ∧ loop.unread <:+ stream ∧
        (∀ length, (nextFrame order loop.unread).length? = some length →
          loop.p + loop.len_to_read ≤ length) ∧
        (loop.pending = [] → ∃ next, (runServer order use_clt_grp_).step loop .closed = some next) ∧
        ∀ arrival, loop.CanRecv arrival.count →
          ∃ next, (runServer order use_clt_grp_).step loop (.recv arrival) = some next) ∧
    events.length ≤ stream.length + 1 := by
  have delivering := delivering_of_exec announced delivers ran
  refine ⟨?_, ?_, ?_⟩
  · intro ended
    cases delivering with
    | receiving receiving => exact absurd receiving.running ended
    | finished finished =>
        rw [finished.decoded]
        exact ⟨finished.published, finished.status⟩
  · intro running
    cases delivering with
    | finished finished => exact absurd (finished.status.symm.trans running) (outcome_ne_running _)
    | receiving receiving =>
        exact ⟨receiving.asks, receiving.suffix, fun _ => receiving.within_frame,
          step_closed receiving, fun _ => step_recv receiving⟩
  · have guarded : (runServer order use_clt_grp_).Guarded (fun _ event => Delivers event)
        (start pub_group stream) events := guarded_of_delivers delivers
    have bound := Machine.length_le_of_decreasing (fun allowed => ahead_decreases allowed) ran guarded
    simp only [ahead, start, ↓reduceIte] at bound
    omega

/-- A heartbeat, a datagram of one byte and a preamble of another version, in six segments. -/
theorem runServer_eq_decodeStream_sample : ∃ loop,
    (runServer .little true).exec
      (start ⟨[], []⟩ [0, 2, 1, 2, 239, 1, 2, 3, 136, 19, 1, 0, 0, 0, 0, 0, 0, 0, 0, 0, 7, 1, 9])
      [.recv ⟨1, 0⟩, .recv ⟨1, 0⟩, .recv ⟨2, 0⟩, .recv ⟨16, 0⟩, .recv ⟨1, 0⟩, .recv ⟨2, 0⟩] = some loop ∧
    loop.published.map (·.payload) = [[7]] ∧
    loop.status = .threw (throwTunnelError (unsupportedVersion 9)) := by
  have within : AnnouncesWithin .little kMaxDatagramLength
      [0, 2, 1, 2, 239, 1, 2, 3, 136, 19, 1, 0, 0, 0, 0, 0, 0, 0, 0, 0, 7, 1, 9] := by
    unfold AnnouncesWithin announcements
    rw [decodeStream_heartbeat (by decide), decodeStream_datagram rfl, decodeStream_badVersion rfl]
    decide
  have status : ((runServer .little true).exec
      (start ⟨[], []⟩ [0, 2, 1, 2, 239, 1, 2, 3, 136, 19, 1, 0, 0, 0, 0, 0, 0, 0, 0, 0, 7, 1, 9])
      [.recv ⟨1, 0⟩, .recv ⟨1, 0⟩, .recv ⟨2, 0⟩, .recv ⟨16, 0⟩, .recv ⟨1, 0⟩, .recv ⟨2, 0⟩]).map (·.status) =
      some (.threw (throwTunnelError (unsupportedVersion 9))) := by decide
  obtain ⟨loop, ran, ended⟩ := Option.map_eq_some_iff.mp status
  have decoded := (runServer_eq_decodeStream .little true ⟨[], []⟩ _ within _ (by simp [Delivers]) loop ran).1
    (by rw [ended]; simp)
  refine ⟨loop, ran, ?_, ended⟩
  rw [decoded.1, decodeStream_heartbeat (by decide), decodeStream_datagram rfl, decodeStream_badVersion rfl]
  rfl
/-! ## Runs of any kind -/

/-- Whatever happened, what has been published is a prefix of what the stream holds. -/
inductive Accounted (order : ByteOrder) (use_clt_grp_ : Bool) (fallback : SockAddrIn)
    (stream : List UInt8) (loop : ServerLoop) : Prop where
  | receiving {front : List Datagram} :
      Receiving order use_clt_grp_ fallback stream front loop →
      Accounted order use_clt_grp_ fallback stream loop
  | ended {front : List Datagram} {rest : Decoded} : loop.status ≠ .running →
      loop.published = front.map (publication use_clt_grp_ fallback) →
      decodeStream order stream = rest.prepend front →
      Accounted order use_clt_grp_ fallback stream loop

private theorem Receiving.account (receiving : Receiving order use_clt_grp_ fallback stream front loop)
    {arrival : Arrival} {sendto_error : Option Nat} {next : ServerLoop}
    (passed : loop.pass order use_clt_grp_ arrival sendto_error = some next) :
    Accounted order use_clt_grp_ fallback stream next := by
  cases receiving.pass passed with
  | receiving receiving => exact .receiving receiving
  | @finished ending _ finished =>
      have decoded : decodeStream order stream = Decoded.prepend front ⟨[], ending⟩ := by
        rw [finished.decoded, Decoded.prepend, List.append_nil]
      exact .ended (by rw [finished.status]; exact outcome_ne_running _) finished.published decoded
  | unpublished _ threw published decoded =>
      exact .ended (by rw [threw]; simp) published decoded
  | overrun undefined _ delivered =>
      exact .ended (by rw [undefined]; simp) delivered.published receiving.decoded

theorem Accounted.step (accounted : Accounted order use_clt_grp_ fallback stream loop)
    {event : ServerEvent} {next : ServerLoop}
    (stepped : ServerLoop.step order use_clt_grp_ loop event = some next) :
    Accounted order use_clt_grp_ fallback stream next := by
  cases accounted with
  | ended ended =>
      unfold ServerLoop.step at stepped
      rw [if_pos ended] at stepped
      cases stepped
  | receiving receiving =>
      rw [step_of_running receiving.running receiving.asks] at stepped
      cases event with
      | recv arrival => exact receiving.account stepped
      | recvUnpublished arrival error_code => exact receiving.account stepped
      | closed =>
          dsimp only at stepped
          split_ifs at stepped with drained
          obtain rfl := Option.some.inj stepped
          exact .ended (by simp) receiving.published receiving.decoded
      | timeout | failed | stop_requested =>
          obtain rfl := Option.some.inj stepped
          exact .ended (by simp [fail]) receiving.published receiving.decoded

private theorem accounted_of_exec {events : List ServerEvent}
    (ran : (runServer order use_clt_grp_).exec (start fallback stream) events = some loop) :
    Accounted order use_clt_grp_ fallback stream loop :=
  Machine.invariant_of_exec (fun accounted stepped => accounted.step stepped) ran
    (.receiving start_receiving)

private theorem published_within (announced : AnnouncesWithin order kMaxDatagramLength stream)
    {rest : Decoded} (published : loop.published = front.map (publication use_clt_grp_ fallback))
    (decoded : decodeStream order stream = rest.prepend front) :
    ∀ call ∈ loop.published, call.length ≤ kMaxDatagramLength := by
  intro call member
  rw [published] at member
  obtain ⟨datagram, inside, rfl⟩ := List.mem_map.mp member
  exact announced.payload decoded inside

private theorem Accounted.inBounds (accounted : Accounted order use_clt_grp_ fallback stream loop)
    (announced : AnnouncesWithin order kMaxDatagramLength stream) : loop.InBounds := by
  cases accounted with
  | receiving receiving =>
      refine ⟨fun _ => ?_, published_within announced receiving.published receiving.decoded⟩
      rw [receiving.request]
      exact receiving.wanted_le announced
  | ended ended published decoded =>
      exact ⟨fun running => absurd running ended, published_within announced published decoded⟩

private theorem announced_of_published {ending : Ending} (inBounds : loop.InBounds)
    (published : loop.published = front.map (publication use_clt_grp_ fallback))
    (decoded : decodeStream order stream = ⟨front, ending⟩)
    (last : ∀ rest, ending = .endOfStream rest → kTunnelPacketHeaderLength ≤ rest.length →
      announcedLength order rest ≤ kMaxDatagramLength) :
    AnnouncesWithin order kMaxDatagramLength stream := by
  intro length member
  rw [announcements, decoded, List.mem_append] at member
  rcases member with shown | held
  · obtain ⟨datagram, inside, rfl⟩ := List.mem_map.mp shown
    have listed : publication use_clt_grp_ fallback datagram ∈ loop.published := by
      rw [published]; exact List.mem_map_of_mem inside
    exact inBounds.2 _ listed
  · cases ending with
    | badVersion | badType => cases held
    | endOfStream rest =>
        dsimp only at held
        split_ifs at held with header
        · rw [List.mem_singleton.mp held]
          exact last rest rfl header
        · cases held

private theorem Receiving.announced_of_drained
    (receiving : Receiving order use_clt_grp_ fallback stream front loop)
    (drained : loop.pending = []) (inBounds : loop.InBounds) :
    AnnouncesWithin order kMaxDatagramLength stream := by
  refine announced_of_published inBounds receiving.published (receiving.drained drained) ?_
  intro rest held header
  obtain ⟨⟩ := held
  have length : loop.unread.length = loop.p := by
    rw [length_unread receiving.inside, drained]; rfl
  rw [length] at header
  have preamble : kTunnelPacketPreambleLength ≤ loop.p := Nat.le_trans (by decide) header
  have room := inBounds.1 receiving.running
  rw [receiving.request, wanted, if_neg (Nat.not_lt.mpr preamble), if_neg (Nat.not_lt.mpr header),
    TunnelPacket.size, if_neg (by rw [(receiving.header preamble).2]; decide)] at room
  rw [announcedLength_unread receiving.inside header]
  simp only [kTunnelPacketHeaderLength, sizeofTunnelPacket] at room
  simp only [kMaxDatagramLength]
  omega

/-- Reading a stream to its end, one byte at a time, passes every header. -/
theorem Receiving.announced (receiving : Receiving order use_clt_grp_ fallback stream front loop)
    {size : Nat} (bound : loop.pending.length ≤ size)
    (good : ∀ events next, (runServer order use_clt_grp_).exec loop events = some next →
      next.InBounds) :
    AnnouncesWithin order kMaxDatagramLength stream := by
  induction size generalizing loop front with
  | zero =>
      have drained : loop.pending = [] := List.eq_nil_of_length_eq_zero (Nat.le_zero.mp bound)
      exact receiving.announced_of_drained drained (good [] loop rfl)
  | succ size ih =>
      have here : loop.InBounds := good [] loop rfl
      rcases Nat.eq_zero_or_pos loop.pending.length with none | some
      · exact receiving.announced_of_drained (List.eq_nil_of_length_eq_zero none) here
      · have asks := receiving.asks
        have room := here.1 receiving.running
        let arrival : Arrival := ⟨1, 0⟩
        have can : loop.CanRecv arrival.count := ⟨Nat.one_pos, asks, some⟩
        obtain ⟨next, stepped⟩ := step_recv receiving can
        have onward : ∀ events final, (runServer order use_clt_grp_).exec next events = .some final →
            final.InBounds := fun events final ran =>
          good (.recv arrival :: events) final ((Machine.exec_cons_iff _).mpr ⟨next, stepped, ran⟩)
        rw [step_of_running receiving.running asks] at stepped
        cases receiving.pass stepped with
        | receiving following =>
            refine ih following ?_ onward
            rcases pass_pending stepped with dropped | ⟨undefined, _⟩
            · rw [dropped, List.length_drop]
              exact Nat.sub_le_of_le_add bound
            · rw [following.running] at undefined
              cases undefined
        | finished refuses finished =>
            refine announced_of_published (onward [] next rfl) finished.published finished.decoded ?_
            intro rest same
            subst same
            exact absurd refuses id
        | unpublished failed => cases failed
        | overrun _ beyond =>
            dsimp only [arrival] at beyond
            omega

/-- Over all runs on a stream the loop stays inside its packet exactly when no
datagram header on the stream announces more than the packet can hold. -/
theorem runServer_inBounds_iff (order : ByteOrder) (use_clt_grp_ : Bool) (pub_group : SockAddrIn)
    (stream : List UInt8) :
    (∀ events loop, (runServer order use_clt_grp_).exec (start pub_group stream) events = some loop →
      loop.InBounds) ↔ AnnouncesWithin order kMaxDatagramLength stream := by
  constructor
  · exact start_receiving.announced (Nat.le_refl _)
  · intro announced events loop ran
    exact (accounted_of_exec ran).inBounds announced

/-- A header announcing 1473 bytes, alone on its stream, makes the loop ask for
bytes up to offset 1491. -/
theorem runServer_outOfBounds : ¬ ∀ (order : ByteOrder) (use_clt_grp_ : Bool)
    (pub_group : SockAddrIn) (stream : List UInt8) (events : List ServerEvent) (loop : ServerLoop),
    (runServer order use_clt_grp_).exec (start pub_group stream) events = some loop →
      loop.InBounds := by
  intro claimed
  have reaches : ((runServer .little false).exec
      (start ⟨[], []⟩ [1, 2, 239, 1, 2, 3, 136, 19, 193, 5, 0, 0, 0, 0, 0, 0, 0, 0])
      [.recv ⟨2, 0⟩, .recv ⟨16, 0⟩]).map (fun loop => (loop.status, loop.p + loop.len_to_read)) =
      some (.running, 1491) := by decide
  obtain ⟨loop, ran, seen⟩ := Option.map_eq_some_iff.mp reaches
  obtain ⟨running, reach⟩ := Prod.mk.inj seen
  have within := (claimed _ _ _ _ _ loop ran).1 running
  simp only [sizeofTunnelPacket] at within
  omega

end ServerLoop

end DatagramTunneler
