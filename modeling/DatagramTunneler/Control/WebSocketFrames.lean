import DatagramTunneler.Control.ControlJson
import DatagramTunneler.Control.FailedClients

/-! The bytes that a WebSocket client is sent. A frame goes out in as many calls of
`send` as it takes, each of which accepts a part of the rest or fails; a client to
which one has failed is erased, but other broadcasts may have copied it before. -/

set_option autoImplicit false

namespace DatagramTunneler

open Foundation

/-- What the socket has accepted of some data, and whether that is all of it. -/
structure Sent where
  accepted : Text
  complete : Bool
  deriving DecidableEq, Repr

/-- `results` are those of `send`; there is no answer while a call has not returned. -/
def sendAll (data : Text) : List Int → Option Sent
  | [] => if data.isEmpty then some ⟨[], true⟩ else none
  | result :: results =>
      if data.isEmpty then some ⟨[], true⟩
      else if result ≤ 0 then some ⟨[], false⟩
      else (sendAll (data.drop result.toNat) results).map fun rest =>
        { rest with accepted := data.take result.toNat ++ rest.accepted }

/-- The frame that `sendWebSocketText` builds, unless the text is too long. -/
def webSocketFrame (text : Text) : Option Text :=
  if 65535 < text.length then none
  else if text.length < 126 then some (0x81 :: UInt8.ofNat text.length :: text)
  else some (0x81 :: 126 :: UInt8.ofNat (text.length >>> 8 &&& 0xff) ::
    UInt8.ofNat (text.length &&& 0xff) :: text)

def sendWebSocketText (text : Text) (results : List Int) : Option Sent :=
  match webSocketFrame text with
  | none => some ⟨[], false⟩
  | some frame => sendAll frame results

/-- The cut of the delivery. -/
def Sent.cut (sent : Sent) : Option Nat := if sent.complete then none else some sent.accepted.length

/-! ## One call -/

theorem sendAll_accepted {data : Text} {results : List Int} {sent : Sent}
    (returned : sendAll data results = some sent) :
    sent.accepted <+: data ∧ (sent.complete = true ↔ sent.accepted = data) := by
  induction results generalizing data sent with
  | nil =>
      rw [sendAll] at returned
      split_ifs at returned with empty
      cases returned
      rw [List.isEmpty_iff.mp empty]
      exact ⟨List.nil_prefix, iff_of_true rfl rfl⟩
  | cons result results ih =>
      rw [sendAll] at returned
      split_ifs at returned with empty failed
      · cases returned
        rw [List.isEmpty_iff.mp empty]
        exact ⟨List.nil_prefix, iff_of_true rfl rfl⟩
      · cases returned
        refine ⟨List.nil_prefix, iff_of_false Bool.false_ne_true fun nothing => ?_⟩
        rw [← nothing] at empty
        exact empty rfl
      · obtain ⟨rest, after, rfl⟩ := Option.map_eq_some_iff.mp returned
        obtain ⟨front, whole⟩ := ih after
        have split := List.take_append_drop result.toNat data
        constructor
        · calc data.take result.toNat ++ rest.accepted
            _ <+: data.take result.toNat ++ data.drop result.toNat :=
              (List.prefix_append_right_inj _).mpr front
            _ = data := split
        · dsimp only
          rw [whole]
          constructor
          · intro same
            rw [same, split]
          · intro same
            exact List.append_cancel_left (same.trans split.symm)

section Frames

variable (rendering : NumberRendering)

namespace Delivery

def frame (delivery : Delivery) : Option Text := webSocketFrame (eventJson rendering delivery.event)

/-- The bytes of the frame that the socket has accepted. -/
def accepted (delivery : Delivery) : Text :=
  match delivery.frame rendering, delivery.cut with
  | none, _ => []
  | some frame, none => frame
  | some frame, some bytes => frame.take bytes

/-- The frame has begun and is not complete. -/
def Truncated (delivery : Delivery) : Prop :=
  delivery.accepted rendering ≠ [] ∧ delivery.frame rendering ≠ some (delivery.accepted rendering)

variable {rendering}

private theorem cut_of_truncated {delivery : Delivery} (truncated : delivery.Truncated rendering) :
    delivery.cut.isSome = true := by
  obtain ⟨event, moment, cut⟩ := delivery
  cases cut with
  | some bytes => rfl
  | none =>
      obtain ⟨some_, partial_⟩ := truncated
      unfold accepted at some_ partial_
      cases shape : (⟨event, moment, none⟩ : Delivery).frame rendering with
      | none =>
          rw [shape] at some_
          exact absurd rfl some_
      | some frame =>
          rw [shape] at partial_
          exact absurd rfl partial_

theorem accepted_prefix {delivery : Delivery} (begun : delivery.accepted rendering ≠ []) :
    ∃ frame, delivery.frame rendering = some frame ∧ delivery.accepted rendering <+: frame := by
  unfold accepted at begun ⊢
  cases shape : delivery.frame rendering with
  | none =>
      rw [shape] at begun
      exact absurd rfl begun
  | some frame =>
      refine ⟨frame, rfl, ?_⟩
      cases delivery.cut with
      | none => exact List.prefix_rfl
      | some bytes => exact List.take_prefix ..

/-- The delivery of a call is what the call has sent. -/
theorem accepted_of_sent {event : ControlEvent} {moment : Nat} {results : List Int} {sent : Sent}
    (returned : sendWebSocketText (eventJson rendering event) results = some sent) :
    (⟨event, moment, sent.cut⟩ : Delivery).accepted rendering = sent.accepted := by
  unfold sendWebSocketText at returned
  unfold accepted frame Sent.cut
  cases shape : webSocketFrame (eventJson rendering event) with
  | none =>
      rw [shape] at returned
      cases returned
      rfl
  | some frame =>
      rw [shape] at returned
      obtain ⟨front, whole⟩ := sendAll_accepted returned
      cases complete : sent.complete with
      | true => exact (whole.mp complete).symm
      | false => exact (List.prefix_iff_eq_take.mp front).symm

end Delivery

/-- Complete frames, then at most one that is truncated, and nothing more. -/
def WholeFrames (deliveries : List Delivery) : Prop :=
  ∃ whole last quiet, deliveries = whole ++ last ++ quiet ∧
    (∀ delivery ∈ whole, ¬ delivery.Truncated rendering) ∧ last.length ≤ 1 ∧
    ∀ delivery ∈ quiet, delivery.accepted rendering = []

variable {rendering}

theorem wholeFrames_iff {deliveries : List Delivery} :
    WholeFrames rendering deliveries ↔ deliveries.Pairwise fun earlier later =>
      earlier.Truncated rendering → later.accepted rendering = [] := by
  constructor
  · intro parts
    obtain ⟨whole, last, quiet, rfl, complete, single, silent⟩ := parts
    have front : (whole ++ last).Pairwise fun earlier later =>
        earlier.Truncated rendering → later.accepted rendering = [] := by
      rw [List.pairwise_append]
      refine ⟨List.pairwise_of_forall_mem_list fun earlier inside _ _ truncated =>
        absurd truncated (complete earlier inside), ?_, fun earlier inside _ _ truncated =>
        absurd truncated (complete earlier inside)⟩
      cases last with
      | nil => exact .nil
      | cons delivery more =>
          have none : more = [] := List.eq_nil_of_length_eq_zero (Nat.le_zero.mp (Nat.le_of_succ_le_succ single))
          rw [none]
          exact List.pairwise_singleton _ _
    rw [List.pairwise_append]
    exact ⟨front, List.pairwise_of_forall_mem_list fun _ _ later inside _ => silent later inside,
      fun _ _ later inside _ => silent later inside⟩
  · intro ordered
    induction deliveries with
    | nil => exact ⟨[], [], [], rfl, by simp, by simp, by simp⟩
    | cons delivery deliveries ih =>
        rw [List.pairwise_cons] at ordered
        by_cases truncated : delivery.Truncated rendering
        · exact ⟨[], [delivery], deliveries, rfl, by simp, by simp, fun later inside =>
            ordered.1 later inside truncated⟩
        · obtain ⟨whole, last, quiet, rfl, complete, single, silent⟩ := ih ordered.2
          exact ⟨delivery :: whole, last, quiet, rfl, List.forall_mem_cons.mpr ⟨truncated, complete⟩,
            single, silent⟩

private theorem wholeFrames_snoc {deliveries : List Delivery} {delivery : Delivery}
    (before : WholeFrames rendering deliveries) :
    WholeFrames rendering (deliveries ++ [delivery]) ↔
      ∀ earlier ∈ deliveries, earlier.Truncated rendering → delivery.accepted rendering = [] := by
  rw [wholeFrames_iff] at before ⊢
  rw [List.pairwise_append]
  constructor
  · intro ordered earlier inside
    exact ordered.2.2 earlier inside delivery (List.mem_singleton.mpr rfl)
  · intro silent
    refine ⟨before, List.pairwise_singleton _ _, fun earlier inside later added => ?_⟩
    rw [List.mem_singleton.mp added]
    exact silent earlier inside

/-- The bytes that the socket has accepted. -/
theorem WholeFrames.bytes {deliveries : List Delivery} (parts : WholeFrames rendering deliveries) :
    ∃ (frames : List Text) (rest : Text),
      deliveries.flatMap (Delivery.accepted rendering) = frames.flatten ++ rest ∧
        (∀ frame ∈ frames, ∃ delivery ∈ deliveries, delivery.frame rendering = some frame) ∧
        (rest ≠ [] → ∃ delivery ∈ deliveries, ∃ frame, delivery.frame rendering = some frame ∧
          rest <+: frame) := by
  obtain ⟨whole, last, quiet, rfl, complete, single, silent⟩ := parts
  have nothing : quiet.flatMap (Delivery.accepted rendering) = [] :=
    List.flatMap_eq_nil_iff.mpr silent
  refine ⟨(whole.map (Delivery.accepted rendering)).filter (· ≠ []),
    last.flatMap (Delivery.accepted rendering), ?_, ?_, ?_⟩
  · rw [List.flatMap_append, List.flatMap_append, nothing, List.append_nil, List.flatMap_def,
      List.flatten_filter_ne_nil]
  · intro frame inside
    obtain ⟨listed, some_⟩ := List.mem_filter.mp inside
    obtain ⟨delivery, placed, rfl⟩ := List.mem_map.mp listed
    have some_ : delivery.accepted rendering ≠ [] := by simpa using some_
    refine ⟨delivery, by simp [placed], ?_⟩
    by_contra partial_
    exact complete delivery placed ⟨some_, partial_⟩
  · intro begun
    cases last with
    | nil => exact absurd rfl begun
    | cons delivery more =>
        have none : more = [] := List.eq_nil_of_length_eq_zero (Nat.le_zero.mp (Nat.le_of_succ_le_succ single))
        rw [none, List.flatMap_singleton] at begun ⊢
        obtain ⟨frame, built, front⟩ := Delivery.accepted_prefix begun
        exact ⟨delivery, by simp, frame, built, front⟩

end Frames

/-! ## The server with its sockets -/

/-- The steps of the server, with the results of `send` in those that send. -/
inductive SocketLabel where
  | server (label : ServerLabel)
  | send (publisher : Publisher) (results : List Int)
  | sendSnapshot (results : List Int)
  deriving DecidableEq

def ServerLabel.sends : ServerLabel → Bool
  | .send _ _ | .sendSnapshot _ => true
  | _ => false

section Sockets

variable (rendering : NumberRendering)

namespace LocalControlServer

def socketStep (server : LocalControlServer) : SocketLabel → Option LocalControlServer
  | .server label => if label.sends then none else server.step label
  | .send publisher results => do
      let broadcast ← server.broadcasts publisher
      let sent ← sendWebSocketText (eventJson rendering broadcast.event) results
      server.step (.send publisher sent.cut)
  | .sendSnapshot results => do
      let upgrade ← server.upgrade
      let snapshot ← upgrade.remaining.head?
      let event := snapshotEvent server.runtime_.clock snapshot
      let sent ← sendWebSocketText (eventJson rendering event) results
      server.step (.sendSnapshot sent.cut)

end LocalControlServer

def socketServer : Machine LocalControlServer SocketLabel :=
  ⟨LocalControlServer.socketStep rendering⟩

namespace LocalControlServer

/-- Another broadcast has noted the client in its `failed`, or has erased it. -/
def NotedBesides (server : LocalControlServer) (publisher : Publisher) (client : ClientId) : Prop :=
  client ∉ server.clients_ ∨ ∃ other broadcast, other ≠ publisher ∧
    server.broadcasts other = some broadcast ∧ client ∈ broadcast.failed

/-- No send puts bytes behind a truncated frame to a client that another broadcast has
noted since this one copied it. -/
def avoidsNoted (server : LocalControlServer) : SocketLabel → Prop
  | .send publisher results => ∀ broadcast client rest sent,
      server.broadcasts publisher = some broadcast → broadcast.clients = some (client :: rest) →
      sendWebSocketText (eventJson rendering broadcast.event) results = some sent →
      sent.accepted ≠ [] → server.NotedBesides publisher client →
      ∀ delivery ∈ server.written client, ¬ delivery.Truncated rendering
  | _ => True

variable {rendering} {server next : LocalControlServer}

theorem written_of_step {label : ServerLabel} (stepped : server.step label = some next)
    (silent : label.sends = false) : next.written = server.written := by
  obtain ⟨performed, done, rfl⟩ := performed_of_step stepped
  cases done with
  | quiet | copied | finished | checked | collected | metric | skipped | collectedAll | upgrade
  | registered => rfl
  | advance | worker => exact publish_written _ _ _
  | sent | snapshotSent | dropped => cases silent

/-- What a step of the sockets does to the server, and what it writes. -/
inductive SocketStepped (server next : LocalControlServer) : SocketLabel → Prop
  | server {label : ServerLabel} : server.step label = some next → next.written = server.written →
      SocketStepped server next (.server label)
  | send {publisher : Publisher} {results : List Int} {broadcast : Broadcast} {client : ClientId}
      {rest : List ClientId} {sent : Sent} : server.step (.send publisher sent.cut) = some next →
      server.broadcasts publisher = some broadcast → broadcast.clients = some (client :: rest) →
      sendWebSocketText (eventJson rendering broadcast.event) results = some sent →
      next.written = (server.write client ⟨broadcast.event, broadcast.moment, sent.cut⟩).written →
      SocketStepped server next (.send publisher results)
  | sendSnapshot {results : List Int} {upgrade : Upgrade} {delivery : Delivery} {sent : Sent} :
      server.step (.sendSnapshot sent.cut) = some next → server.upgrade = some upgrade →
      next.written = (server.write upgrade.client delivery).written →
      SocketStepped server next (.sendSnapshot results)

theorem socketStepped_of_step {label : SocketLabel}
    (stepped : server.socketStep rendering label = some next) :
    @SocketStepped rendering server next label := by
  cases label with
  | server label =>
      simp only [socketStep] at stepped
      split at stepped
      · cases stepped
      · next silent => exact .server stepped (written_of_step stepped (by simpa using silent))
  | send publisher results =>
      simp only [socketStep, Option.bind_eq_bind, Option.bind_eq_some_iff] at stepped
      obtain ⟨broadcast, here, sent, returned, stepped⟩ := stepped
      obtain ⟨performed, done, same⟩ := performed_of_step stepped
      have written := congrArg LocalControlServer.written same
      cases done with
      | quiet is => cases is
      | sent there copies =>
          cases here.symm.trans there
          exact .send stepped here copies returned written
  | sendSnapshot results =>
      simp only [socketStep, Option.bind_eq_bind, Option.bind_eq_some_iff] at stepped
      obtain ⟨upgrade, here, snapshot, first, sent, returned, stepped⟩ := stepped
      obtain ⟨performed, done, same⟩ := performed_of_step stepped
      have written := congrArg LocalControlServer.written same
      generalize cut : sent.cut = broken at done
      cases done with
      | quiet is => cases is
      | snapshotSent there =>
          cases here.symm.trans there
          exact .sendSnapshot stepped here written
      | dropped there =>
          cases here.symm.trans there
          exact .sendSnapshot stepped here written

/-! ## Runs -/

structure Tracked (server : LocalControlServer) : Prop where
  sound : Sound server
  marked : Marked server

theorem Tracked.step (tracked : Tracked server) {label : SocketLabel}
    (stepped : server.socketStep rendering label = some next) : Tracked next := by
  cases socketStepped_of_step stepped with
  | server taken | send taken | sendSnapshot taken =>
      exact ⟨tracked.sound.step taken, tracked.marked.of_step tracked.sound taken⟩

/-- What every client is sent is whole. -/
def SendsWholeFrames (rendering : NumberRendering) (server : LocalControlServer) : Prop :=
  ∀ client, WholeFrames rendering (server.written client)

/-- A client with a failed send that is still to be sent to has been noted by another broadcast. -/
theorem Marked.notedBesides (marked : Marked server) {publisher : Publisher} {broadcast : Broadcast}
    {client : ClientId} {rest : List ClientId} (there : server.broadcasts publisher = some broadcast)
    (copies : broadcast.clients = some (client :: rest)) (failed : server.Failed client) :
    server.NotedBesides publisher client := by
  cases marked.noted client failed with
  | inl gone => exact .inl gone
  | inr listed =>
      obtain ⟨other, under, here, inside⟩ := listed
      refine .inr ⟨other, under, ?_, here, inside⟩
      intro same
      subst same
      cases there.symm.trans here
      exact (marked.orderly other broadcast there).unlisted _ copies client (List.mem_cons_self ..) inside

/-- Only the client that is written to has to be looked at. -/
theorem sendsWholeFrames_write {client : ClientId} {delivery : Delivery}
    (before : SendsWholeFrames rendering server)
    (written : next.written = (server.write client delivery).written) :
    SendsWholeFrames rendering next ↔ ∀ earlier ∈ server.written client,
      earlier.Truncated rendering → delivery.accepted rendering = [] := by
  have here : next.written client = server.written client ++ [delivery] := by
    rw [written, write_self]
  rw [← wholeFrames_snoc (before client), ← here]
  constructor
  · intro all
    exact all client
  · intro only other
    by_cases same : other = client
    · exact same ▸ only
    · rw [written, write_of_ne _ _ same]
      exact before other

theorem sendsWholeFrames_step (tracked : Tracked server) (before : SendsWholeFrames rendering server)
    {label : SocketLabel} (stepped : server.socketStep rendering label = some next) :
    SendsWholeFrames rendering next ↔ server.avoidsNoted rendering label := by
  cases socketStepped_of_step stepped with
  | server _ written =>
      refine iff_of_true (fun client => ?_) trivial
      rw [written]
      exact before client
  | @sendSnapshot results upgrade delivery sent _ here written =>
      rw [sendsWholeFrames_write before written]
      refine iff_of_true (fun earlier inside truncated => ?_) trivial
      exact absurd ⟨earlier, inside, Delivery.cut_of_truncated truncated⟩
        (tracked.marked.upgrading upgrade here)
  | @send publisher results broadcast client rest sent _ there copies returned written =>
      rw [sendsWholeFrames_write before written, Delivery.accepted_of_sent returned]
      constructor
      · intro silent other client_ rest_ sent_ there_ copies_ returned_ some_ _ delivery inside truncated
        cases there.symm.trans there_
        cases copies.symm.trans copies_
        cases returned.symm.trans returned_
        exact some_ (silent delivery inside truncated)
      · intro avoids earlier inside truncated
        by_contra some_
        have failed : server.Failed client := ⟨earlier, inside, Delivery.cut_of_truncated truncated⟩
        have noted := tracked.marked.notedBesides there copies failed
        exact avoids broadcast client rest sent there copies returned some_ noted earlier inside truncated

/-- In a run every client is sent whole frames at all times exactly if no broadcast
sends on to a client in whose frame another one has failed. -/
theorem sendsWholeFrames_iff (rendering : NumberRendering) (configuration : TunnelConfiguration)
    (clients : Nat) (labels : List SocketLabel) (final : LocalControlServer)
    (ran : (socketServer rendering).exec (start configuration clients) labels = some final) :
    (socketServer rendering).Along (SendsWholeFrames rendering) (start configuration clients) labels ↔
      (socketServer rendering).Guarded (avoidsNoted rendering) (start configuration clients) labels := by
  have initial : Tracked (start configuration clients) :=
    ⟨sound_start configuration clients, marked_start configuration clients⟩
  have nothing : SendsWholeFrames rendering (start configuration clients) :=
    fun client => wholeFrames_iff.mpr .nil
  exact Machine.along_iff_guarded (fun tracked stepped => Tracked.step tracked stepped)
    (fun tracked before stepped => sendsWholeFrames_step tracked before stepped) ran initial nothing

/-- Every number is written as a zero, as those of a worker without datagrams are. -/
def zeroRendering : NumberRendering where
  text := fun _ => (naturalNumber 0).text
  number := fun _ => naturalNumber 0
  spelled := fun _ => rfl

/-- `a` is started, and the metrics are published while its start is; both have copied
the client. -/
def overlapping : List ServerLabel :=
  [.call (.start (ascii "a"))] ++ List.replicate 4 .advance ++
    [.copyClients .request, .checkClients, .collect, .nextMetric, .copyClients .metrics]

/-- The socket takes one byte of the first frame, and later one of the second. -/
def sendsOn : List SocketLabel := overlapping.map .server ++ [.send .request [1, 0], .send .metrics [1, 0]]

theorem sendsWholeFrames_iff_sendsOn : ∃ final,
    (socketServer zeroRendering).exec (start ManagedTunnelRuntime.soleServer 1) sendsOn = some final ∧
      ((socketServer zeroRendering).Along (SendsWholeFrames zeroRendering)
          (start ManagedTunnelRuntime.soleServer 1) sendsOn ↔
        (socketServer zeroRendering).Guarded (avoidsNoted zeroRendering)
          (start ManagedTunnelRuntime.soleServer 1) sendsOn) := by
  have possible : ((socketServer zeroRendering).exec (start ManagedTunnelRuntime.soleServer 1)
      sendsOn).isSome = true := by decide +kernel
  obtain ⟨final, ran⟩ := Option.isSome_iff_exists.mp possible
  exact ⟨final, ran, sendsWholeFrames_iff zeroRendering _ 1 sendsOn final ran⟩

theorem sendsOn_broken : ¬ ∀ (rendering : NumberRendering) (configuration : TunnelConfiguration)
    (clients : Nat) (labels : List SocketLabel) (final : LocalControlServer),
    (socketServer rendering).exec (start configuration clients) labels = some final →
    ∀ client, WholeFrames rendering (final.written client) := by
  intro claimed
  have seen : ((socketServer zeroRendering).exec (start ManagedTunnelRuntime.soleServer 1)
      sendsOn).map (fun server => (server.written 0).map fun delivery =>
        (delivery.accepted zeroRendering, decide (delivery.frame zeroRendering = some [0x81]))) =
      some [([0x81], false), ([0x81], false)] := by decide +kernel
  obtain ⟨final, ran, observed⟩ := Option.map_eq_some_iff.mp seen
  obtain ⟨first, second, sent, begun, more⟩ : ∃ first second, final.written 0 = [first, second] ∧
      (first.accepted zeroRendering = [0x81] ∧ first.frame zeroRendering ≠ some [0x81]) ∧
      second.accepted zeroRendering = [0x81] := by
    obtain ⟨first, rest, layout, begun, others⟩ := List.map_eq_cons_iff.mp observed
    obtain ⟨second, none, rfl, more, ended⟩ := List.map_eq_cons_iff.mp others
    rw [Prod.mk.injEq, decide_eq_false_iff_not] at begun more
    rw [List.map_eq_nil_iff.mp ended] at layout
    exact ⟨first, second, layout, begun, more.1⟩
  have whole := wholeFrames_iff.mp (claimed _ _ _ _ final ran 0)
  rw [sent, List.pairwise_cons] at whole
  have truncated : first.Truncated zeroRendering :=
    ⟨by rw [begun.1]; decide, by rw [begun.1]; exact begun.2⟩
  have silent := whole.1 second (List.mem_singleton.mpr rfl) truncated
  rw [more] at silent
  cases silent

end LocalControlServer

end Sockets

end DatagramTunneler
