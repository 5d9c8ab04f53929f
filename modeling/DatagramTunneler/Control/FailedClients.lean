import DatagramTunneler.Control.ServerSteps

/-! Clients to which a send has failed. In every run each of them stands in the `failed`
list of a broadcast that is still going on, or has left `clients_`; but it may be
in the copy of another broadcast, which will send to it once more. -/

set_option autoImplicit false

namespace DatagramTunneler

namespace LocalControlServer

/-- A send to the client has failed. -/
def Failed (server : LocalControlServer) (client : ClientId) : Prop :=
  ∃ delivery ∈ server.written client, delivery.cut.isSome = true

/-- A broadcast has noted that the client failed, or has erased it already. -/
def Noted (server : LocalControlServer) (client : ClientId) : Prop :=
  client ∉ server.clients_ ∨
    ∃ publisher broadcast, server.broadcasts publisher = some broadcast ∧ client ∈ broadcast.failed

/-- A broadcast notes none of the clients that it is still to send to. -/
structure Orderly (broadcast : Broadcast) : Prop where
  uncopied : broadcast.clients = none → broadcast.failed = []
  distinct : ∀ clients, broadcast.clients = some clients → clients.Nodup
  unlisted : ∀ clients, broadcast.clients = some clients → ∀ client ∈ clients, client ∉ broadcast.failed

structure Marked (server : LocalControlServer) : Prop where
  distinct : server.clients_.Nodup
  orderly : ∀ publisher broadcast, server.broadcasts publisher = some broadcast → Orderly broadcast
  noted : ∀ client, server.Failed client → server.Noted client
  upgrading : ∀ upgrade, server.upgrade = some upgrade → ¬ server.Failed upgrade.client

variable {server next : LocalControlServer} {label : ServerLabel}

theorem marked_start (configuration : TunnelConfiguration) (clients : Nat) :
    Marked (start configuration clients) where
  distinct := List.nodup_range
  orderly := by simp [start]
  noted := by simp [start, Failed]
  upgrading := by simp [start]

private theorem failed_write {client other : ClientId} {delivery : Delivery}
    (failed : (server.write client delivery).Failed other) :
    server.Failed other ∨ (other = client ∧ delivery.cut.isSome = true) := by
  obtain ⟨sent, inside, cut⟩ := failed
  by_cases same : other = client
  · rw [same, write_self] at inside
    cases List.mem_append.mp inside with
    | inl old => exact .inl ⟨sent, same ▸ old, cut⟩
    | inr new => exact .inr ⟨same, List.mem_singleton.mp new ▸ cut⟩
  · rw [write_of_ne _ _ same] at inside
    exact .inl ⟨sent, inside, cut⟩

section Broadcasts

variable {base : LocalControlServer} {publisher : Publisher} {set : Option Broadcast}

private theorem Marked.orderly_setBroadcast (marked : Marked server) (others : base.broadcasts = server.broadcasts)
    (fresh : ∀ broadcast, set = some broadcast → Orderly broadcast) :
    ∀ other broadcast, (base.setBroadcast publisher set).broadcasts other = some broadcast →
      Orderly broadcast := by
  intro other broadcast here
  cases broadcasts_setBroadcast here with
  | inl own => exact fresh broadcast own.2
  | inr old => exact marked.orderly other broadcast (others ▸ old.2)

/-- Where a broadcast is replaced, the clients it has noted have to be noted or erased. -/
theorem Noted.setBroadcast {client : ClientId} (noted : server.Noted client)
    (others : base.broadcasts = server.broadcasts)
    (kept : ∀ other, other ∈ base.clients_ → other ∈ server.clients_)
    (own : ∀ broadcast, server.broadcasts publisher = some broadcast → client ∈ broadcast.failed →
      (base.setBroadcast publisher set).Noted client) :
    (base.setBroadcast publisher set).Noted client := by
  cases noted with
  | inl gone => exact .inl fun inside => gone (kept client inside)
  | inr listed =>
      obtain ⟨other, broadcast, here, inside⟩ := listed
      by_cases same : other = publisher
      · exact own broadcast (same ▸ here) inside
      · refine .inr ⟨other, broadcast, ?_, inside⟩
        rw [setBroadcast_of_ne _ _ same, others, here]

end Broadcasts

/-- What does not touch clients, copies and what is written leaves them marked. -/
theorem Marked.kept (marked : Marked server) (clients : next.clients_ = server.clients_)
    (written : next.written = server.written) (broadcasts : next.broadcasts = server.broadcasts)
    (upgrade : ∀ upgrade, next.upgrade = some upgrade → ¬ server.Failed upgrade.client) : Marked next where
  distinct := clients ▸ marked.distinct
  orderly := broadcasts ▸ marked.orderly
  noted := by
    intro client failed
    unfold Failed at failed
    rw [written] at failed
    have noted := marked.noted client failed
    unfold Noted at noted ⊢
    rw [clients, broadcasts]
    exact noted
  upgrading := by
    intro under here
    unfold Failed
    rw [written]
    exact upgrade under here

/-- A broadcast that begins has neither copied clients nor noted any. -/
theorem Marked.begun (marked : Marked server) {publisher : Publisher}
    (free : server.broadcasts publisher = none) {broadcast : Broadcast}
    (begins : broadcast.clients = none ∧ broadcast.failed = []) :
    Marked (server.setBroadcast publisher (some broadcast)) where
  distinct := marked.distinct
  orderly := by
    apply marked.orderly_setBroadcast rfl
    intro other same
    cases same
    exact {
      uncopied := fun _ => begins.2
      distinct := by simp [begins.1]
      unlisted := by simp [begins.1] }
  noted := by
    intro client failed
    apply (marked.noted client failed).setBroadcast rfl fun _ inside => inside
    intro other here
    rw [free] at here
    cases here
  upgrading := marked.upgrading

theorem Marked.publish (marked : Marked server) {runtime : ManagedTunnelRuntime} {publisher : Publisher}
    (free : server.broadcasts publisher = none) (notice? : Option Notice) :
    Marked (server.publish runtime publisher notice?) := by
  have moved : Marked { server with runtime_ := runtime } := marked.kept rfl rfl rfl marked.upgrading
  cases notice? with
  | none => exact moved
  | some notice => exact moved.begun free ⟨rfl, rfl⟩

private theorem Marked.copy (marked : Marked server) {publisher : Publisher} {broadcast : Broadcast}
    (there : server.broadcasts publisher = some broadcast) (uncopied : broadcast.clients = none) :
    Marked (server.setBroadcast publisher (some { broadcast with clients := some server.clients_ })) where
  distinct := marked.distinct
  orderly := by
    have none := (marked.orderly publisher broadcast there).uncopied uncopied
    apply marked.orderly_setBroadcast rfl
    intro other same
    cases same
    exact {
      uncopied := by simp
      distinct := by
        intro clients same
        cases same
        exact marked.distinct
      unlisted := by simp [none] }
  noted := by
    intro client failed
    apply (marked.noted client failed).setBroadcast rfl fun _ inside => inside
    intro other here inside
    cases there.symm.trans here
    exact .inr ⟨publisher, _, setBroadcast_self _ _ _, inside⟩
  upgrading := marked.upgrading

theorem Marked.send (marked : Marked server) (numbered : Numbered server) {publisher : Publisher}
    {broadcast : Broadcast} {client : ClientId} {rest : List ClientId} {cut : Option Nat}
    (there : server.broadcasts publisher = some broadcast) (copies : broadcast.clients = some (client :: rest)) :
    Marked ((server.write client ⟨broadcast.event, broadcast.moment, cut⟩).setBroadcast publisher
      (some { broadcast with
        clients := some rest
        failed := if cut.isSome then broadcast.failed ++ [client] else broadcast.failed })) where
  distinct := marked.distinct
  orderly := by
    have orderly := marked.orderly publisher broadcast there
    have unique := orderly.distinct _ copies
    rw [List.nodup_cons] at unique
    apply marked.orderly_setBroadcast rfl
    intro other same
    cases same
    exact {
      uncopied := by simp
      distinct := by
        intro clients same
        cases same
        exact unique.2
      unlisted := by
        intro clients same sentTo inside listed
        cases same
        have before := orderly.unlisted _ copies sentTo (List.mem_cons_of_mem _ inside)
        dsimp only at listed
        split at listed
        · cases List.mem_append.mp listed with
          | inl old => exact before old
          | inr new => exact unique.1 (List.mem_singleton.mp new ▸ inside)
        · exact before listed }
  noted := by
    intro other failed
    cases failed_write failed with
    | inr here =>
        obtain ⟨rfl, cut⟩ := here
        refine .inr ⟨publisher, _, setBroadcast_self _ _ _, ?_⟩
        rw [if_pos cut]
        exact List.mem_append_right _ (List.mem_singleton.mpr rfl)
    | inl before =>
        apply (marked.noted other before).setBroadcast rfl fun _ inside => inside
        intro holder here inside
        cases there.symm.trans here
        refine .inr ⟨publisher, _, setBroadcast_self _ _ _, ?_⟩
        dsimp only
        split
        · exact List.mem_append_left _ inside
        · exact inside
  upgrading := by
    intro upgrade here failed
    cases failed_write failed with
    | inl before => exact marked.upgrading upgrade here before
    | inr same =>
        refine numbered.copied client (.inr ⟨upgrade, here, same.1⟩) _ _ _ there copies ?_
        exact List.mem_cons_self

/-- A broadcast that ends has erased the clients that it has noted. -/
theorem Marked.finish (marked : Marked server) {publisher : Publisher} {broadcast : Broadcast}
    {runtime : ManagedTunnelRuntime} (there : server.broadcasts publisher = some broadcast) :
    Marked (({ server with
        runtime_ := runtime
        clients_ := server.clients_.filter (· ∉ broadcast.failed) } :
      LocalControlServer).setBroadcast publisher none) where
  distinct := marked.distinct.filter _
  orderly := marked.orderly_setBroadcast rfl (by simp)
  noted := by
    intro client failed
    refine @Noted.setBroadcast server _ publisher none client (marked.noted client failed) rfl
      (fun _ inside => (List.mem_filter.mp inside).1) ?_
    intro other here inside
    cases there.symm.trans here
    refine .inl fun still => ?_
    have unlisted := (List.mem_filter.mp still).2
    simp [inside] at unlisted
  upgrading := marked.upgrading

theorem Marked.register (marked : Marked server) (numbered : Numbered server) {upgrade : Upgrade}
    (there : server.upgrade = some upgrade) :
    Marked { server with clients_ := server.clients_ ++ [upgrade.client], upgrade := none } where
  distinct := by
    have outside := numbered.clients upgrade.client (.inr ⟨upgrade, there, rfl⟩)
    rw [List.nodup_append]
    refine ⟨marked.distinct, List.nodup_singleton _, ?_⟩
    intro client inside other added same
    rw [List.mem_singleton.mp added] at same
    exact outside (same ▸ inside)
  orderly := marked.orderly
  noted := by
    intro client failed
    cases marked.noted client failed with
    | inr listed => exact .inr listed
    | inl gone =>
        refine .inl fun inside => ?_
        cases List.mem_append.mp inside with
        | inl old => exact gone old
        | inr new =>
            rw [List.mem_singleton.mp new] at failed
            exact marked.upgrading upgrade there failed
  upgrading := by simp

theorem Marked.step (marked : Marked server) (numbered : Numbered server)
    (performed : Performed server label next) : Marked next := by
  cases performed with
  | quiet | checked | collected | skipped | collectedAll =>
      exact marked.kept rfl rfl rfl marked.upgrading
  | advance free => exact marked.publish free _
  | worker _ free => exact marked.publish free _
  | @metric snapshot rest moment _ free =>
      have moved : Marked { server with metrics := .publishing rest moment } :=
        marked.kept rfl rfl rfl marked.upgrading
      exact moved.begun free ⟨rfl, rfl⟩
  | copied there uncopied => exact marked.copy there uncopied
  | sent there copies => exact marked.send numbered there copies
  | finished there => exact marked.finish there
  | registered there => exact marked.register numbered there
  | upgrade =>
      refine marked.kept rfl rfl rfl fun upgrade here failed => ?_
      cases here
      obtain ⟨delivery, inside, -⟩ := failed
      rw [numbered.unsent _ (Nat.le_refl _)] at inside
      cases inside
  | @snapshotSent upgrade snapshot rest event there =>
      have unharmed : ∀ client, (server.write upgrade.client ⟨event, upgrade.moment, none⟩).Failed client →
          server.Failed client := by
        intro client failed
        cases failed_write failed with
        | inl before => exact before
        | inr cut => cases cut.2
      exact {
        distinct := marked.distinct
        orderly := marked.orderly
        noted := fun client failed => marked.noted client (unharmed client failed)
        upgrading := by
          intro under here failed
          cases here
          exact marked.upgrading upgrade there (unharmed _ failed) }
  | @dropped upgrade event bytes there =>
      exact {
        distinct := marked.distinct
        orderly := marked.orderly
        noted := by
          intro client failed
          cases failed_write failed with
          | inl before => exact marked.noted client before
          | inr same =>
              rw [same.1]
              exact .inl (numbered.clients _ (.inr ⟨upgrade, there, rfl⟩))
        upgrading := by simp }

theorem Marked.of_step (marked : Marked server) (sound : Sound server)
    (stepped : server.step label = some next) : Marked next := by
  obtain ⟨performed, done, rfl⟩ := performed_of_step stepped
  have after := marked.step sound.numbered done
  exact after.kept rfl rfl rfl after.upgrading

end LocalControlServer

end DatagramTunneler
