import DatagramTunneler.Configuration.Outline

/-! What a section makes. `makeTunnel` and the functions it reads values with are
each described once, in both directions: what they accept and what comes of it. -/

set_option autoImplicit false

namespace DatagramTunneler

open Foundation

private theorem isIpv4Address_ne_nil {address : Text} (accepted : isIpv4Address address = true) :
    address ≠ [] := by
  intro empty
  rw [empty] at accepted
  cases accepted

theorem parsePort_eq_ok {value field_name : Text} {port : UInt16} :
    parsePort value field_name = .ok port ↔
      ∃ number, stoul value = .ok number ∧ number ≠ 0 ∧ number ≤ 65535 ∧ UInt16.ofNat number = port := by
  unfold parsePort
  cases stoul value with
  | error what => simp
  | ok number =>
      dsimp only
      split_ifs with outside
      · simp only [Except.ok.injEq, exists_eq_left', false_iff]
        intro held
        obtain ⟨some, within, -⟩ := held
        omega
      · simp only [Except.ok.injEq, exists_eq_left']
        have inside : number ≠ 0 ∧ number ≤ 65535 := by omega
        simp [inside]

theorem parsePort_ne_zero {value field_name : Text} {port : UInt16}
    (parsed : parsePort value field_name = .ok port) : port ≠ 0 := by
  obtain ⟨number, -, some, within, rfl⟩ := parsePort_eq_ok.mp parsed
  intro zero
  have same : (UInt16.ofNat number).toNat = 0 := by rw [zero]; rfl
  rw [UInt16.toNat_ofNat'] at same
  omega

theorem parsePort_nil {field_name : Text} {port : UInt16} : parsePort [] field_name ≠ .ok port := by
  intro parsed
  obtain ⟨number, read, -⟩ := parsePort_eq_ok.mp parsed
  cases read

theorem parseEndpoint_eq_ok {value field_name address : Text} {port : UInt16} :
    parseEndpoint value field_name = .ok (address, port) ↔
      ∃ digits, value = address ++ byteOf ':' :: digits ∧ byteOf ':' ∉ digits ∧
        isIpv4Address address = true ∧ parsePort digits field_name = .ok port := by
  unfold parseEndpoint
  cases found : rfind value (byteOf ':') with
  | none =>
      rw [rfind_eq_none] at found
      simp only [reduceCtorEq, false_iff]
      intro held
      obtain ⟨digits, rfl, -⟩ := held
      simp at found
  | some separator =>
      obtain ⟨front, back, rfl, absent, rfl⟩ := rfind_eq_some.mp found
      dsimp only
      have first : (front ++ byteOf ':' :: back).take front.length = front := List.take_left
      have last : (front ++ byteOf ':' :: back).drop (front.length + 1) = back := by
        rw [← List.drop_drop, List.drop_left]
        rfl
      rw [first, last]
      have unique : ∀ digits, front ++ byteOf ':' :: back = address ++ byteOf ':' :: digits →
          byteOf ':' ∉ digits → front = address ∧ back = digits := by
        intro digits layout clean
        have same := found.symm.trans (rfind_eq_some.mpr ⟨address, digits, layout, clean, rfl⟩)
        obtain ⟨front, back⟩ := List.append_inj layout (Option.some.inj same)
        exact ⟨front, (List.cons.inj back).2⟩
      split_ifs with missing invalid
      · simp only [false_iff]
        intro held
        obtain ⟨digits, layout, clean, accepted, parsed⟩ := held
        obtain ⟨rfl, rfl⟩ := unique digits layout clean
        rcases missing with none | none
        · exact isIpv4Address_ne_nil accepted (List.eq_nil_of_length_eq_zero none)
        · have empty : back = [] := by simpa using none
          exact parsePort_nil (empty ▸ parsed)
      · simp only [false_iff]
        intro held
        obtain ⟨digits, layout, clean, accepted, parsed⟩ := held
        obtain ⟨rfl, rfl⟩ := unique digits layout clean
        simp [accepted] at invalid
      · rw [except_bind_eq_ok]
        constructor
        · intro held
          obtain ⟨read, parsed, same⟩ := held
          cases same
          exact ⟨back, rfl, absent, by simpa using invalid, parsed⟩
        · intro held
          obtain ⟨digits, layout, clean, accepted, parsed⟩ := held
          obtain ⟨rfl, rfl⟩ := unique digits layout clean
          exact ⟨port, parsed, rfl⟩

private theorem requiredField_eq_ok {fields : TunnelFields} {name alias_ value : Text} :
    requiredField fields name alias_ = .ok value ↔ fields[name]? = some value ∧ value ≠ [] := by
  unfold requiredField
  cases fields[name]? with
  | none => simp
  | some assigned =>
      dsimp only
      split_ifs with empty
      · simp only [Option.some.injEq, false_iff]
        intro held
        obtain ⟨rfl, some⟩ := held
        simp [some] at empty
      · simp only [Except.ok.injEq, Option.some.injEq]
        constructor
        · intro same
          subst same
          exact ⟨rfl, by simpa using empty⟩
        · exact fun assigned => assigned.1

/-! ## One section -/

/-- The endpoint a field was given. -/
def Endpoint (fields : TunnelFields) (name address : Text) (port : UInt16) : Prop :=
  ∃ value, fields[name]? = some value ∧ parseEndpoint value name = .ok (address, port)

/-- The configs a section can make, with what it must and must not assign. -/
inductive Configures (fields : TunnelFields) (config : Config) : Config → Prop where
  | client {server_address group_address : Text} {server_port group_port : UInt16} :
      fields[ascii "mode"]? = some (ascii "client") →
      ascii "tcp_listen_port" ∉ fields → ascii "udp_destination" ∉ fields →
      Endpoint fields (ascii "tcp_server") server_address server_port →
      Endpoint fields (ascii "udp_group") group_address group_port →
      Configures fields config { config with
        is_client_ := true
        tcp_srv_ip_ := server_address
        tcp_srv_port_ := server_port
        udp_dst_ip_ := group_address
        udp_dst_port_ := group_port
        use_clt_grp_ := false }
  | replicating {listen_port : Text} {port : UInt16} :
      fields[ascii "mode"]? = some (ascii "server") →
      ascii "tcp_server" ∉ fields → ascii "udp_group" ∉ fields →
      fields[ascii "tcp_listen_port"]? = some listen_port →
      parsePort listen_port (ascii "tcp_listen_port") = .ok port →
      (ascii "udp_destination" ∉ fields ∨
        fields[ascii "udp_destination"]? = some kReplicateClientDestination) →
      Configures fields config { config with
        is_client_ := false, tcp_srv_port_ := port, use_clt_grp_ := true }
  | publishing {listen_port address : Text} {port udp_port : UInt16} :
      fields[ascii "mode"]? = some (ascii "server") →
      ascii "tcp_server" ∉ fields → ascii "udp_group" ∉ fields →
      fields[ascii "tcp_listen_port"]? = some listen_port →
      parsePort listen_port (ascii "tcp_listen_port") = .ok port →
      fields[ascii "udp_destination"]? ≠ some kReplicateClientDestination →
      Endpoint fields (ascii "udp_destination") address udp_port →
      Configures fields config { config with
        is_client_ := false
        tcp_srv_port_ := port
        use_clt_grp_ := false
        udp_dst_ip_ := address
        udp_dst_port_ := udp_port }

private theorem parseEndpoint_nil {field_name address : Text} {port : UInt16} :
    parseEndpoint [] field_name ≠ .ok (address, port) := by
  intro parsed
  obtain ⟨digits, layout, -⟩ := parseEndpoint_eq_ok.mp parsed
  simp at layout

private theorem endpoint_iff {fields : TunnelFields} {name alias_ address : Text} {port : UInt16} :
    Endpoint fields name address port ↔
      ∃ value, requiredField fields name alias_ = .ok value ∧
        parseEndpoint value name = .ok (address, port) := by
  simp only [requiredField_eq_ok]
  constructor
  · intro held
    obtain ⟨value, assigned, parsed⟩ := held
    refine ⟨value, ⟨assigned, ?_⟩, parsed⟩
    intro same
    subst same
    exact parseEndpoint_nil parsed
  · intro held
    obtain ⟨value, ⟨assigned, -⟩, parsed⟩ := held
    exact ⟨value, assigned, parsed⟩

private theorem client_ne_server : ascii "client" ≠ ascii "server" := by decide

section Sections

variable {interfaces : List Interface} {alias_ : Text} {fields : TunnelFields} {config made : Config}

private theorem makeClient_eq_ok (mode : fields[ascii "mode"]? = some (ascii "client")) :
    makeClient alias_ fields config = .ok made ↔ Configures fields config made := by
  unfold makeClient
  split_ifs with mixed
  · simp only [Std.ExtTreeMap.contains_iff_mem] at mixed
    simp only [false_iff]
    intro configures
    cases configures with
    | client _ noPort noDestination => exact mixed.elim noPort noDestination
    | replicating server | publishing server =>
        exact client_ne_server (Option.some.inj (mode.symm.trans server))
  · simp only [Std.ExtTreeMap.contains_iff_mem, not_or] at mixed
    simp only [except_bind_eq_ok]
    constructor
    · rintro ⟨server, required, ⟨server_address, server_port⟩, parsed, group, groupRequired,
        ⟨group_address, group_port⟩, groupParsed, same⟩
      cases same
      exact .client mode mixed.1 mixed.2 (endpoint_iff.mpr ⟨server, required, parsed⟩)
        (endpoint_iff.mpr ⟨group, groupRequired, groupParsed⟩)
    · intro configures
      cases configures with
      | client _ _ _ server group =>
          obtain ⟨server, required, parsed⟩ := endpoint_iff.mp server
          obtain ⟨group, groupRequired, groupParsed⟩ := endpoint_iff.mp group
          exact ⟨server, required, _, parsed, group, groupRequired, _, groupParsed, rfl⟩
      | replicating server | publishing server =>
          exact absurd (Option.some.inj (mode.symm.trans server)) client_ne_server

private theorem makeServer_eq_ok (mode : fields[ascii "mode"]? = some (ascii "server")) :
    makeServer alias_ fields config = .ok made ↔ Configures fields config made := by
  unfold makeServer
  split_ifs with mixed
  · simp only [Std.ExtTreeMap.contains_iff_mem] at mixed
    simp only [false_iff]
    intro configures
    cases configures with
    | client client => exact client_ne_server (Option.some.inj (client.symm.trans mode))
    | replicating _ noServer noGroup | publishing _ noServer noGroup =>
        exact mixed.elim noServer noGroup
  · simp only [Std.ExtTreeMap.contains_iff_mem, not_or] at mixed
    simp only [except_bind_eq_ok]
    constructor
    · intro held
      obtain ⟨listen_port, required, port, parsed, rest⟩ := held
      have assigned := (requiredField_eq_ok.mp required).1
      split at rest
      · next absent =>
          cases rest
          exact .replicating mode mixed.1 mixed.2 assigned parsed
            (.inl (by rw [Std.ExtTreeMap.mem_iff_isSome_getElem?, absent]; simp))
      · next destination present =>
          split_ifs at rest with replicate
          · cases rest
            rw [replicate] at present
            exact .replicating mode mixed.1 mixed.2 assigned parsed (.inr present)
          · obtain ⟨⟨address, udp_port⟩, endpoint, same⟩ := except_bind_eq_ok.mp rest
            cases same
            exact .publishing mode mixed.1 mixed.2 assigned parsed
              (fun other => replicate (Option.some.inj (present.symm.trans other)))
              ⟨destination, present, endpoint⟩
    · intro configures
      have required : ∀ {listen_port : Text} {port : UInt16},
          fields[ascii "tcp_listen_port"]? = some listen_port →
          parsePort listen_port (ascii "tcp_listen_port") = .ok port →
          requiredField fields (ascii "tcp_listen_port") alias_ = .ok listen_port := by
        intro listen_port port assigned parsed
        refine requiredField_eq_ok.mpr ⟨assigned, ?_⟩
        intro same
        subst same
        exact parsePort_nil parsed
      cases configures with
      | client client => exact absurd (Option.some.inj (client.symm.trans mode)) client_ne_server
      | @replicating listen_port port _ _ _ assigned parsed destination =>
          refine ⟨listen_port, required assigned parsed, port, parsed, ?_⟩
          rcases destination with absent | replicate
          · rw [Std.ExtTreeMap.getElem?_eq_none absent]
            rfl
          · rw [replicate]
            simp only [if_pos]
            rfl
      | @publishing listen_port address port udp_port _ _ _ assigned parsed other endpoint =>
          refine ⟨listen_port, required assigned parsed, port, parsed, ?_⟩
          obtain ⟨destination, present, endpoint⟩ := endpoint
          rw [present]
          have ne : destination ≠ kReplicateClientDestination := fun same =>
            other (same ▸ present)
          simp only [if_neg ne]
          exact except_bind_eq_ok.mpr ⟨_, endpoint, rfl⟩

theorem Endpoint.sound {name address : Text} {port : UInt16}
    (endpoint : Endpoint fields name address port) : isIpv4Address address = true ∧ port ≠ 0 := by
  obtain ⟨value, -, parsed⟩ := endpoint
  obtain ⟨digits, -, -, accepted, port⟩ := parseEndpoint_eq_ok.mp parsed
  exact ⟨accepted, parsePort_ne_zero port⟩

/-- What is made is complete as soon as its interface has an address. -/
theorem Configures.isComplete (configures : Configures fields config made) :
    made.isComplete = !config.udp_iface_ip_.isEmpty := by
  have nonempty : ∀ {name address : Text} {port : UInt16}, Endpoint fields name address port →
      address.isEmpty = false := fun endpoint =>
    List.isEmpty_eq_false_iff.mpr (isIpv4Address_ne_nil endpoint.sound.1)
  unfold Config.isComplete
  cases configures with
  | client _ _ _ server group =>
      cases config.udp_iface_ip_.isEmpty <;>
        simp [nonempty server, nonempty group, server.sound.2, group.sound.2]
  | replicating _ _ _ _ parsed =>
      cases config.udp_iface_ip_.isEmpty <;> simp [parsePort_ne_zero parsed]
  | publishing _ _ _ _ parsed _ destination =>
      cases config.udp_iface_ip_.isEmpty <;>
        simp [parsePort_ne_zero parsed, nonempty destination, destination.sound.2]

theorem Configures.mode (configures : Configures fields config made) :
    fields[ascii "mode"]? = some (if made.is_client_ then ascii "client" else ascii "server") := by
  cases configures with
  | client mode | replicating mode | publishing mode => exact mode

/-- What `makeTunnel` does once it knows the address of the interface. -/
theorem completed_eq_ok {mode : Text} {tunnel : NamedTunnel}
    (assigned : fields[ascii "mode"]? = some mode) :
    (do
      let made ←
        if mode = ascii "client" then makeClient alias_ fields config
        else if mode = ascii "server" then makeServer alias_ fields config
        else .error (ascii "tunnel '" ++ alias_ ++ ascii "' has unsupported mode '" ++ mode ++
          ascii "'")
      if !made.isComplete then .error (ascii "tunnel '" ++ alias_ ++ ascii "' is incomplete")
      else return ⟨alias_, made⟩ : Except Text NamedTunnel) = .ok tunnel ↔
      tunnel.alias_ = alias_ ∧ config.udp_iface_ip_ ≠ [] ∧ Configures fields config tunnel.config := by
  have completed : ∀ maker : Except Text Config,
      (∀ made, maker = .ok made ↔ Configures fields config made) →
      ((maker >>= fun made =>
        if !made.isComplete then .error (ascii "tunnel '" ++ alias_ ++ ascii "' is incomplete")
        else pure ⟨alias_, made⟩ : Except Text NamedTunnel) = .ok tunnel ↔
        tunnel.alias_ = alias_ ∧ config.udp_iface_ip_ ≠ [] ∧
          Configures fields config tunnel.config) := by
    intro maker configured
    simp only [except_bind_eq_ok, configured]
    constructor
    · intro held
      obtain ⟨made, configures, returned⟩ := held
      rw [configures.isComplete] at returned
      split_ifs at returned with incomplete
      cases returned
      exact ⟨rfl, by simpa using incomplete, configures⟩
    · intro held
      obtain ⟨rfl, present, configures⟩ := held
      refine ⟨tunnel.config, configures, ?_⟩
      rw [configures.isComplete, if_neg (by simpa using present)]
      rfl
  split_ifs with client server
  · subst client
    exact completed _ fun made => makeClient_eq_ok assigned
  · subst server
    exact completed _ fun made => makeServer_eq_ok assigned
  · refine completed (.error _) fun made => iff_of_false (by simp) ?_
    intro configures
    have same := Option.some.inj (assigned.symm.trans configures.mode)
    split at same
    · exact client same
    · exact server same

theorem makeTunnel_eq_ok {tunnel : NamedTunnel} :
    makeTunnel interfaces alias_ fields = .ok tunnel ↔
      (∀ key ∈ fields, key ∈ allowed_fields) ∧ tunnel.alias_ = alias_ ∧
        ∃ reference address, fields[ascii "udp_interface"]? = some reference ∧ reference ≠ [] ∧
          resolveInterfaceIpv4 interfaces reference = some address ∧ address ≠ [] ∧
          Configures fields { udp_iface_reference_ := reference, udp_iface_ip_ := address }
            tunnel.config := by
  unfold makeTunnel
  cases unknown : fields.keys.find? (· ∉ allowed_fields) with
  | some key =>
      have present := List.mem_of_find?_eq_some unknown
      have foreign := List.find?_some unknown
      simp only [reduceCtorEq, false_iff]
      intro held
      obtain ⟨allowed, -⟩ := held
      exact of_decide_eq_true foreign (allowed key (Std.ExtTreeMap.mem_keys.mp present))
  | none =>
      have allowed : ∀ key ∈ fields, key ∈ allowed_fields := by
        intro key present
        have found := List.find?_eq_none.mp unknown key (Std.ExtTreeMap.mem_keys.mpr present)
        simpa using found
      simp only [except_bind_eq_ok, requiredField_eq_ok]
      constructor
      · intro held
        obtain ⟨reference, ⟨assigned, some⟩, rest⟩ := held
        split at rest
        · cases rest
        · next address resolved =>
            obtain ⟨mode, required, rest⟩ := except_bind_eq_ok.mp rest
            have named := (requiredField_eq_ok.mp required).1
            obtain ⟨rfl, present, configures⟩ := (completed_eq_ok named).mp rest
            exact ⟨allowed, rfl, reference, address, assigned, some, resolved, present, configures⟩
      · intro held
        obtain ⟨-, same, reference, address, assigned, some, resolved, present, configures⟩ := held
        refine ⟨reference, ⟨assigned, some⟩, ?_⟩
        rw [resolved]
        have mode := configures.mode
        refine except_bind_eq_ok.mpr ⟨_, requiredField_eq_ok.mpr ⟨mode, by split <;> decide⟩, ?_⟩
        exact (completed_eq_ok mode).mpr ⟨same, present, configures⟩

end Sections

end DatagramTunneler
