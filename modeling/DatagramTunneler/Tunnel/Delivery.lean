import DatagramTunneler.Tunnel.ClientProperties
import DatagramTunneler.Tunnel.ServerRuns

/-! Both loops together. The client's wire is an encoding, the server's loop is a
decoder, and decoding an encoding gives the datagrams back, so the server
publishes what the client received, however the bytes were cut on the way. -/

set_option autoImplicit false

namespace DatagramTunneler

open Foundation

/-- The group a datagram of this client is published on. -/
def publishedGroup (use_clt_grp_ : Bool) (cfg : Config) (pub_group : SockAddrIn) : SockAddrIn :=
  if use_clt_grp_ then
    ⟨ByteOrder.big.toBytes 2 cfg.udp_dst_port_.toNat, ClientLoop.headerGroup cfg⟩
  else pub_group

namespace ClientLoop

theorem fits_of_frames {cfg : Config} {events : List ClientEvent}
    (forwards : ∀ event ∈ events, Forwards event) (datagram : Datagram)
    (inside : some datagram ∈ events.filterMap (frameOf cfg)) :
    datagram.Fits ∧ datagram.payload.length ≤ kMaxDatagramLength := by
  obtain ⟨event, member, framed⟩ := List.mem_filterMap.mp inside
  have accepted := forwards event member
  cases event with
  | timeout | failed | stop_requested => cases framed
  | datagram data now sends =>
      cases framed
      have short := accepted.1
      refine ⟨?_, short⟩
      simp only [kMaxDatagramLength] at short
      exact {
        group := length_headerGroup cfg
        port := cfg.udp_dst_port_.toNat_lt
        length := by simp only; omega
        timestamp := now.toNat_lt }

theorem publications_of_frames (use_clt_grp_ : Bool) (cfg : Config) (pub_group : SockAddrIn)
    (events : List ClientEvent) :
    ((events.filterMap (frameOf cfg)).filterMap id).map
        (ServerLoop.publication use_clt_grp_ pub_group) =
      (payloads events).map fun payload =>
        ⟨payload.length, payload, publishedGroup use_clt_grp_ cfg pub_group⟩ := by
  induction events with
  | nil => rfl
  | cons event events ih =>
      cases event with
      | timeout | failed | stop_requested => exact ih
      | datagram data now sends =>
          simpa [frameOf, payloads, ServerLoop.publication, publishedGroup] using ih

end ClientLoop

/-- The wire of a forwarding client announces nothing the server has no room for. -/
theorem announcesWithin_encodeFrames {order : ByteOrder} {frames : List (Option Datagram)}
    (fits : ∀ datagram, some datagram ∈ frames → datagram.Fits ∧
      datagram.payload.length ≤ kMaxDatagramLength) :
    AnnouncesWithin order kMaxDatagramLength (encodeFrames order frames) := by
  have decoded := decodeStream_encodeFrames order frames fun datagram inside =>
    (fits datagram inside).1
  intro length member
  rw [announcements_of_ending decoded, if_neg (by decide), List.append_nil] at member
  obtain ⟨datagram, inside, rfl⟩ := List.mem_map.mp member
  obtain ⟨frame, member, rfl⟩ := List.mem_filterMap.mp inside
  exact (fits datagram member).2

namespace ServerLoop

/-- A server that has read the whole encoding of some frames has published exactly
their datagrams. -/
theorem delivered_of_encodeFrames {order : ByteOrder} {use_clt_grp_ : Bool} {fallback : SockAddrIn}
    {frames : List (Option Datagram)} {events : List ServerEvent} {loop : ServerLoop}
    (fits : ∀ datagram, some datagram ∈ frames → datagram.Fits ∧
      datagram.payload.length ≤ kMaxDatagramLength)
    (delivers : ∀ event ∈ events, Delivers event)
    (ran : (runServer order use_clt_grp_).exec (start fallback (encodeFrames order frames)) events =
      some loop) (drained : loop.pending = []) :
    Delivered use_clt_grp_ fallback (frames.filterMap id) loop ∧
      (loop.status = .running ∨ loop.status = .returned) := by
  have encoded := decodeStream_encodeFrames order frames fun datagram inside =>
    (fits datagram inside).1
  cases delivering_of_exec (announcesWithin_encodeFrames fits) delivers ran with
  | receiving receiving =>
      obtain ⟨rfl, -⟩ := Decoded.mk.inj (encoded.symm.trans (receiving.drained drained))
      exact ⟨receiving.toDelivered, .inl receiving.running⟩
  | finished finished =>
      obtain ⟨rfl, rfl⟩ := Decoded.mk.inj (encoded.symm.trans finished.decoded)
      exact ⟨finished.toDelivered, .inr finished.status⟩

end ServerLoop

/-- Whatever datagrams and timeouts the client sees and however its frames are
split, it gets them onto the wire; and whatever segments the server reads that
wire in, once it has read it all it has published exactly those datagrams. -/
theorem runClient_runServer_delivery (build : Build) (order : ByteOrder) (cfg : Config)
    (events : List ClientEvent) (forwards : ∀ event ∈ events, ClientLoop.Forwards event) :
    ∃ client, (runClient build order).exec (ClientLoop.start order cfg) events = some client ∧
      client.status = .running ∧
      ∀ (use_clt_grp_ : Bool) (pub_group : SockAddrIn) (arrivals : List ServerEvent)
        (server : ServerLoop), (∀ arrival ∈ arrivals, ServerLoop.Delivers arrival) →
        (runServer order use_clt_grp_).exec (ServerLoop.start pub_group client.tcp) arrivals =
          some server → server.pending = [] →
        server.published = (ClientLoop.payloads events).map (fun payload =>
          ⟨payload.length, payload, publishedGroup use_clt_grp_ cfg pub_group⟩) ∧
        server.observations.map (·.bytes) = (ClientLoop.payloads events).map List.length ∧
        (server.status = .running ∨ server.status = .returned) := by
  obtain ⟨client, ran, forwarded⟩ :=
    @ClientLoop.exec_forwards build order cfg [] _ events forwards ClientLoop.Forwarding.start
  refine ⟨client, ran, forwarded.running, ?_⟩
  intro use_clt_grp_ pub_group arrivals server delivers received drained
  rw [forwarded.tcp, List.nil_append] at received
  obtain ⟨delivered, status⟩ := ServerLoop.delivered_of_encodeFrames
    (ClientLoop.fits_of_frames forwards) delivers received drained
  have published := ClientLoop.publications_of_frames use_clt_grp_ cfg pub_group events
  refine ⟨delivered.published.trans published, ?_, status⟩
  have lengths := congrArg (List.map Publication.length) published
  rw [List.map_map, List.map_map] at lengths
  exact delivered.observed.trans lengths

/-- A heartbeat and a datagram of two bytes, each sent in two pieces and received in others. -/
theorem runClient_runServer_delivery_sample : ∃ client server,
    (runClient ⟨false, false⟩ .little).exec
      (.start .little { udp_dst_ip_ := ascii "239.1.2.3", udp_dst_port_ := 5000 })
      [.timeout [.accepted 1, .accepted 1], .datagram [7, 8] 9 [.accepted 3, .accepted 17]] =
        some client ∧
    (runServer .little true).exec (.start ⟨[], []⟩ client.tcp)
      [.recv ⟨2, 0⟩, .recv ⟨1, 0⟩, .recv ⟨1, 0⟩, .recv ⟨16, 0⟩, .recv ⟨2, 0⟩] = some server ∧
    server.published = [⟨2, [7, 8], ⟨[19, 136], [239, 1, 2, 3]⟩⟩] ∧
    server.observations.map (·.bytes) = [2] := by
  let cfg : Config := { udp_dst_ip_ := ascii "239.1.2.3", udp_dst_port_ := 5000 }
  let events : List ClientEvent :=
    [.timeout [.accepted 1, .accepted 1], .datagram [7, 8] 9 [.accepted 3, .accepted 17]]
  let arrivals : List ServerEvent :=
    [.recv ⟨2, 0⟩, .recv ⟨1, 0⟩, .recv ⟨1, 0⟩, .recv ⟨16, 0⟩, .recv ⟨2, 0⟩]
  have forwards : ∀ event ∈ events, ClientLoop.Forwards event := by
    intro event inside
    simp only [events, List.mem_cons, List.not_mem_nil, or_false] at inside
    rcases inside with rfl | rfl
    · exact ⟨[1, 1], by decide, rfl, rfl⟩
    · exact ⟨by decide, [3, 17], by decide, rfl, rfl⟩
  obtain ⟨client, ran, -, delivered⟩ :=
    runClient_runServer_delivery ⟨false, false⟩ .little cfg events forwards
  have wire : ((runClient ⟨false, false⟩ .little).exec (.start .little cfg) events).map (·.tcp) =
      some [0, 2, 1, 2, 239, 1, 2, 3, 136, 19, 2, 0, 9, 0, 0, 0, 0, 0, 0, 0, 7, 8] := by
    decide
  rw [ran] at wire
  have tcp := Option.some.inj wire
  have reads : ((runServer .little true).exec (.start ⟨[], []⟩
      [0, 2, 1, 2, 239, 1, 2, 3, 136, 19, 2, 0, 9, 0, 0, 0, 0, 0, 0, 0, 7, 8]) arrivals).map
      (·.pending) = some [] := by decide
  obtain ⟨server, received, drained⟩ := Option.map_eq_some_iff.mp reads
  dsimp only at tcp
  rw [← tcp] at received
  obtain ⟨published, observed, -⟩ :=
    delivered true ⟨[], []⟩ arrivals server (by simp [arrivals, ServerLoop.Delivers]) received drained
  exact ⟨client, server, ran, received, published.trans (by decide),
    observed.trans (by decide)⟩

end DatagramTunneler
