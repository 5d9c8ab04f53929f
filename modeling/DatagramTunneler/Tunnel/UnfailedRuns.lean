import DatagramTunneler.Tunnel.Delivery
import DatagramTunneler.Tunnel.OversizedDatagrams

/-! Runs in which anything may happen, as long as the loop has not failed: the client may
discard datagrams and be stopped, the server may lose its patience or its group. What has
gone out is then still made of whole frames. -/

set_option autoImplicit false

namespace DatagramTunneler

open Foundation

/-- Only calls that take the data piece by piece send all of it. -/
theorem split_of_sent {data accepted : List UInt8} {sends : List SendResult}
    (done : sendTCPData data sends = some (accepted, .sent)) (some_ : data ≠ []) :
    ClientLoop.Split sends data.length := by
  induction sends generalizing data accepted with
  | nil => cases done
  | cons result rest ih =>
      cases result with
      | failed error_code =>
          simp only [sendTCPData] at done
          split at done <;> cases done
      | accepted count =>
          simp only [sendTCPData] at done
          split_ifs at done with beyond none idle all last
          · cases done
          · subst last
            refine ⟨[count], ?_, ?_, rfl⟩
            · simpa using Nat.pos_of_ne_zero none
            · rw [List.sum_singleton]
              omega
          · obtain ⟨⟨more, outcome⟩, onward, joined⟩ := Option.map_eq_some_iff.mp done
            cases joined
            have left : (data.drop count).length = data.length - count := List.length_drop
            have rest_ : data.drop count ≠ [] := by
              intro empty
              rw [empty] at left
              exact all left.symm
            obtain ⟨counts, positive, total, rfl⟩ := ih onward rest_
            refine ⟨count :: counts, ?_, ?_, rfl⟩
            · intro each inside
              rcases List.mem_cons.mp inside with rfl | inside
              · exact Nat.pos_of_ne_zero none
              · exact positive each inside
            · rw [List.sum_cons, total, left]
              omega

/-! ## What a pass reports -/

private theorem ClientLoop.sendPacket_observations {order : ByteOrder} {loop next : ClientLoop}
    {sends : List SendResult} (sent : loop.sendPacket order sends = some next) :
    ∃ added, next.observations = loop.observations ++ added := by
  obtain ⟨⟨accepted, outcome⟩, -, rfl⟩ := Option.map_eq_some_iff.mp sent
  cases outcome with
  | failed | stalled => exact ⟨[], (List.append_nil _).symm⟩
  | sent =>
      dsimp only
      split
      · exact ⟨_, rfl⟩
      · exact ⟨[], (List.append_nil _).symm⟩

/-- A pass of the client adds to the observations, and only a stop request makes it return. -/
theorem ClientLoop.step_reports {build : Build} {order : ByteOrder} {loop next : ClientLoop}
    {event : ClientEvent} (stepped : (runClient build order).step loop event = some next) :
    (∃ added, next.observations = loop.observations ++ added) ∧
      (next.status = .returned → event = .stop_requested) := by
  have stepped : ClientLoop.step build order loop event = some next := stepped
  cases oversized : event.oversized with
  | true =>
      obtain ⟨data, running, rfl⟩ := step_oversized oversized stepped
      refine ⟨⟨[], (List.append_nil _).symm⟩, fun done => ?_⟩
      dsimp only at done
      split at done <;> cases done
  | false =>
      unfold ClientLoop.step at stepped
      split_ifs at stepped with running
      rw [not_not] at running
      have whole : ∀ packet sends,
          ClientLoop.sendPacket order { loop with tunnel_pkt := packet } sends = some next →
          (∃ added, next.observations = loop.observations ++ added) ∧ next.status ≠ .returned := by
        intro packet sends sent
        have grown := sendPacket_observations sent
        refine ⟨grown, ?_⟩
        rcases sendPacket_cases sent with ⟨status, -⟩ | ⟨what, threw⟩
        · rw [status, running]
          simp
        · rw [threw]
          simp
      cases event with
      | failed error_code =>
          cases stepped
          exact ⟨⟨[], (List.append_nil _).symm⟩, fun done => by cases done⟩
      | stop_requested =>
          cases stepped
          exact ⟨⟨[], (List.append_nil _).symm⟩, fun _ => rfl⟩
      | timeout sends => exact (whole _ _ stepped).imp id fun still done => absurd done still
      | datagram data now sends =>
          simp only [onDatagram, if_neg (of_decide_eq_false oversized)] at stepped
          exact (whole _ _ stepped).imp id fun still done => absurd done still

private theorem ServerLoop.pass_observations {order : ByteOrder} {use_clt_grp_ : Bool} {loop next : ServerLoop}
    {arrival : Arrival} {sendto_error : Option Nat}
    (passed : loop.pass order use_clt_grp_ arrival sendto_error = some next) :
    ∃ added, next.observations = loop.observations ++ added := by
  have received : (loop.recv arrival.count).observations = loop.observations := by
    unfold ServerLoop.recv
    split <;> rfl
  unfold ServerLoop.pass at passed
  dsimp only at passed
  split at passed
  · split at passed
    · cases passed
      exact ⟨[], by rw [received, List.append_nil]⟩
    · cases passed
      rw [← received]
      unfold ServerLoop.afterRecv
      dsimp only
      split_ifs
      case neg =>
        cases sendto_error with
        | some error_code => exact ⟨[], (List.append_nil _).symm⟩
        | none => exact ⟨_, rfl⟩
      all_goals exact ⟨[], (List.append_nil _).symm⟩
  · cases passed

theorem ServerLoop.step_reports {order : ByteOrder} {use_clt_grp_ : Bool} {loop next : ServerLoop}
    {event : ServerEvent} (stepped : (runServer order use_clt_grp_).step loop event = some next) :
    ∃ added, next.observations = loop.observations ++ added := by
  have stepped : ServerLoop.step order use_clt_grp_ loop event = some next := stepped
  unfold ServerLoop.step at stepped
  split at stepped
  · cases stepped
  · split at stepped
    · cases stepped
      exact ⟨[], (List.append_nil _).symm⟩
    · cases event with
      | recv arrival | recvUnpublished arrival error_code => exact pass_observations stepped
      | closed =>
          dsimp only at stepped
          split at stepped
          · cases stepped
            exact ⟨[], (List.append_nil _).symm⟩
          · cases stepped
      | timeout | failed error_code | stop_requested =>
          cases stepped
          exact ⟨[], (List.append_nil _).symm⟩

namespace ClientLoop

/-! ## The client -/

/-- What the client has sent and reported. -/
structure Forwarded (order : ByteOrder) (frames : List (Option Datagram)) (loop : ClientLoop) : Prop where
  tcp : loop.tcp = encodeFrames order frames
  observed : loop.observations =
    (frames.filterMap id).map fun datagram => ⟨datagram.payload.length, none⟩
  fits : ∀ datagram, some datagram ∈ frames →
    datagram.Fits ∧ datagram.payload.length ≤ kMaxDatagramLength

/-- A loop that has not failed. -/
structure Unfailed (order : ByteOrder) (cfg : Config) (loop : ClientLoop) : Prop where
  running : loop.status = .running → ∃ frames, Forwarding order cfg frames loop ∧
    Forwarded order frames loop
  returned : loop.status = .returned → ∃ frames, Forwarded order frames loop

variable {build : Build} {order : ByteOrder} {cfg : Config} {frames : List (Option Datagram)}
  {loop next : ClientLoop}

private theorem split_of_running {sends : List SendResult} {image : List UInt8}
    (frame : loop.tunnel_pkt.image.take (loop.tunnel_pkt.size order) = image) (some_ : image ≠ [])
    (sent : sendPacket order loop sends = some next) (running : next.status = .running) :
    Split sends image.length := by
  obtain ⟨⟨accepted, outcome⟩, done, rfl⟩ := Option.map_eq_some_iff.mp sent
  rw [frame] at done
  cases outcome with
  | failed | stalled => cases running
  | sent => exact split_of_sent done some_

/-- A pass after which the loop still runs has sent its frame, or has none. -/
theorem Forwarding.of_running (forwarding : Forwarding order cfg frames loop) {event : ClientEvent}
    (stepped : ClientLoop.step build order loop event = some next) (running : next.status = .running) :
    ∃ more, Forwarding order cfg (frames ++ more) next ∧
      ∀ datagram, some datagram ∈ more → datagram.Fits ∧ datagram.payload.length ≤ kMaxDatagramLength := by
  cases oversized : event.oversized with
  | true =>
      obtain ⟨data, -, rfl⟩ := step_oversized oversized stepped
      refine ⟨[], ?_, fun datagram inside => by cases inside⟩
      rw [List.append_nil]
      exact { forwarding with
        running := running
        header := recvInto_header.trans forwarding.header }
  | false =>
      have live : ¬loop.status ≠ .running := not_not.mpr forwarding.running
      cases event with
      | failed | stop_requested =>
          unfold ClientLoop.step at stepped
          rw [if_neg live] at stepped
          cases stepped
          cases running
      | timeout sends =>
          have sent := stepped
          unfold ClientLoop.step at sent
          rw [if_neg live] at sent
          have frame : ((loop.tunnel_pkt.setType .heartbeat).image.take
              ((loop.tunnel_pkt.setType .heartbeat).size order)) = encodedHeartbeat :=
            heartbeat_sent forwarding.header
          have split := @split_of_running order { loop with tunnel_pkt := loop.tunnel_pkt.setType .heartbeat }
            next sends _ frame (by simp [encodedHeartbeat]) sent running
          obtain ⟨other, stepped_, onward⟩ := @Forwarding.heartbeat build order cfg frames loop forwarding sends split
          cases stepped.symm.trans stepped_
          exact ⟨_, onward, fun datagram inside => by simp at inside⟩
      | datagram data now sends =>
          have short : ¬kMaxDatagramLength < data.length := of_decide_eq_false oversized
          have within := Nat.not_lt.mp short
          have sent := stepped
          unfold ClientLoop.step at sent
          rw [if_neg live] at sent
          simp only [onDatagram, if_neg short] at sent
          have length : (Datagram.encode order ⟨headerGroup cfg, cfg.udp_dst_port_.toNat, now.toNat, data⟩).length =
              kTunnelPacketHeaderLength + data.length := by
            simp only [Datagram.encode, Datagram.header, length_headerGroup, List.length_append,
              List.length_cons, List.length_nil, ByteOrder.length_toBytes, kTunnelPacketHeaderLength]
          have split := @split_of_running order
            { loop with tunnel_pkt := datagramPacket order loop.tunnel_pkt data now } next sends _
            (datagram_sent forwarding.header within) (by simp [Datagram.encode, Datagram.header]) sent running
          rw [length] at split
          obtain ⟨other, stepped_, onward⟩ :=
            @Forwarding.datagram build order cfg frames loop forwarding data now sends within split
          cases stepped.symm.trans stepped_
          refine ⟨_, onward, fun datagram inside => ?_⟩
          obtain rfl := Option.some.inj (List.mem_singleton.mp inside)
          refine ⟨?_, within⟩
          simp only [kMaxDatagramLength] at within
          exact {
            group := length_headerGroup cfg
            port := cfg.udp_dst_port_.toNat_lt
            length := by simp only; omega
            timestamp := now.toNat_lt }

theorem Forwarding.forwarded (forwarding : Forwarding order cfg frames loop)
    (fits : ∀ datagram, some datagram ∈ frames →
      datagram.Fits ∧ datagram.payload.length ≤ kMaxDatagramLength) : Forwarded order frames loop :=
  ⟨forwarding.tcp, forwarding.observed, fits⟩

theorem Unfailed.step (unfailed : Unfailed order cfg loop) {event : ClientEvent}
    (stepped : ClientLoop.step build order loop event = some next) : Unfailed order cfg next := by
  have live : loop.status = .running := by
    by_contra ended
    unfold ClientLoop.step at stepped
    rw [if_pos ended] at stepped
    cases stepped
  obtain ⟨frames, forwarding, forwarded⟩ := unfailed.running live
  constructor
  · intro running
    obtain ⟨more, onward, fits⟩ := forwarding.of_running stepped running
    refine ⟨_, onward, onward.forwarded fun datagram inside => ?_⟩
    rcases List.mem_append.mp inside with before | later
    · exact forwarded.fits datagram before
    · exact fits datagram later
  · intro returned
    refine ⟨frames, ?_⟩
    obtain rfl := (step_reports stepped).2 returned
    unfold ClientLoop.step at stepped
    rw [if_neg (not_not.mpr live)] at stepped
    cases stepped
    exact ⟨forwarded.tcp, forwarded.observed, forwarded.fits⟩

theorem forwarded_of_exec {events : List ClientEvent}
    (ran : (runClient build order).exec (start order cfg) events = some loop)
    (unfailed : loop.status = .running ∨ loop.status = .returned) : ∃ frames, Forwarded order frames loop := by
  have first : Unfailed order cfg (start order cfg) :=
    ⟨fun _ => ⟨[], .start, Forwarding.start.forwarded nofun⟩, nofun⟩
  have last := @Machine.invariant_of_exec _ _ (runClient build order) (Unfailed order cfg)
    (fun unfailed stepped => unfailed.step stepped) _ _ _ ran first
  rcases unfailed with running | returned
  · obtain ⟨frames, -, forwarded⟩ := last.running running
    exact ⟨frames, forwarded⟩
  · exact last.returned returned

end ClientLoop

namespace ServerLoop

/-! ## The server -/

variable {order : ByteOrder} {use_clt_grp_ : Bool} {fallback : SockAddrIn} {stream : List UInt8}
  {loop next : ServerLoop}

/-- A loop that has not failed has published what it has read whole; when there is nothing
more to read, that is everything. -/
structure Unfailed (order : ByteOrder) (use_clt_grp_ : Bool) (fallback : SockAddrIn) (stream : List UInt8)
    (loop : ServerLoop) : Prop where
  running : loop.status = .running → ∃ front, Receiving order use_clt_grp_ fallback stream front loop
  returned : loop.status = .returned → ∃ front, Delivered use_clt_grp_ fallback front loop ∧
    (loop.pending = [] → ∃ ending, decodeStream order stream = ⟨front, ending⟩)

theorem Unfailed.step (announced : AnnouncesWithin order kMaxDatagramLength stream)
    (unfailed : Unfailed order use_clt_grp_ fallback stream loop) {event : ServerEvent}
    (stepped : ServerLoop.step order use_clt_grp_ loop event = some next) :
    Unfailed order use_clt_grp_ fallback stream next := by
  have live : loop.status = .running := by
    by_contra ended
    unfold ServerLoop.step at stepped
    rw [if_pos ended] at stepped
    cases stepped
  obtain ⟨front, receiving⟩ := unfailed.running live
  have stays : Unfailed order use_clt_grp_ fallback stream { loop with status := .returned } :=
    ⟨nofun, fun _ => ⟨front, ⟨receiving.published, receiving.observed⟩,
      fun drained => ⟨_, receiving.drained drained⟩⟩⟩
  have passes : ∀ arrival sendto_error, loop.pass order use_clt_grp_ arrival sendto_error = some next →
      Unfailed order use_clt_grp_ fallback stream next := by
    intro arrival sendto_error passed
    have room := receiving.wanted_le announced
    have request := receiving.request
    cases receiving.pass passed with
    | receiving onward =>
        exact ⟨fun _ => ⟨_, onward⟩, fun returned => by rw [onward.running] at returned; cases returned⟩
    | finished refused finished =>
        refine ⟨fun running => ?_, fun _ => ⟨_, finished.toDelivered, fun _ => ⟨_, finished.decoded⟩⟩⟩
        rw [finished.status] at running
        exact absurd running (outcome_ne_running _)
    | unpublished failed threw =>
        constructor <;> intro ended <;> rw [threw] at ended <;> cases ended
    | overrun _ beyond =>
        have asked := (canRecv_of_pass passed).2.1
        omega
  rw [step_of_running receiving.running receiving.asks] at stepped
  cases event with
  | recv arrival | recvUnpublished arrival error_code => exact passes _ _ stepped
  | closed =>
      dsimp only at stepped
      split_ifs at stepped
      cases stepped
      exact stays
  | timeout | stop_requested =>
      cases stepped
      exact stays
  | failed error_code =>
      cases stepped
      exact ⟨nofun, nofun⟩

/-- With nothing left to read, a server that has not failed has published the whole stream. -/
theorem delivered_of_exec (announced : AnnouncesWithin order kMaxDatagramLength stream)
    {events : List ServerEvent}
    (ran : (runServer order use_clt_grp_).exec (start fallback stream) events = some loop)
    (unfailed : loop.status = .running ∨ loop.status = .returned) (drained : loop.pending = []) :
    ∃ front ending, decodeStream order stream = ⟨front, ending⟩ ∧
      Delivered use_clt_grp_ fallback front loop := by
  have first : Unfailed order use_clt_grp_ fallback stream (start fallback stream) :=
    ⟨fun _ => ⟨[], start_receiving⟩, nofun⟩
  have last := @Machine.invariant_of_exec _ _ (runServer order use_clt_grp_)
    (Unfailed order use_clt_grp_ fallback stream) (fun unfailed stepped => unfailed.step announced stepped)
    _ _ _ ran first
  rcases unfailed with running | returned
  · obtain ⟨front, receiving⟩ := last.running running
    exact ⟨front, _, receiving.drained drained, receiving.toDelivered⟩
  · obtain ⟨front, delivered, whole⟩ := last.returned returned
    obtain ⟨ending, decoded⟩ := whole drained
    exact ⟨front, ending, decoded, delivered⟩

end ServerLoop

end DatagramTunneler
