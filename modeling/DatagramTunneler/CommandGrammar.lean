import DatagramTunneler.Commands
import DatagramTunneler.Configuration.WellFormed
import DatagramTunneler.DirectOptions

/-! Which command lines start a tunnel, a producer or the control server, and with what.
Options stand anywhere among the operands, each as often as one likes, and the last one
counts; a path that is empty is as good as none. -/

set_option autoImplicit false

namespace DatagramTunneler

open Foundation

/-- The configuration that is in the file. -/
def CommandEnvironment.Reads (environment : CommandEnvironment) (config_path : Text)
    (configuration : TunnelConfiguration) : Prop :=
  ∃ content, environment.files config_path = some content ∧
    parseConfiguration environment.interfaces content = .ok configuration

section

variable {environment : CommandEnvironment} {config_path : Text} {configuration : TunnelConfiguration}

theorem CommandEnvironment.Reads.outline (reads : environment.Reads config_path configuration) :
    ∃ outline, WellFormed outline configuration := by
  obtain ⟨content, -, parsed⟩ := reads
  obtain ⟨outline, -, legal, version, makes⟩ := ConfigurationOutline.parseConfiguration_iff.mp parsed
  exact ⟨outline, wellFormed_of_made legal version makes⟩

/-- Where the interfaces have addresses, so do the tunnels. -/
theorem CommandEnvironment.Reads.interface (reads : environment.Reads config_path configuration)
    (addresses : ∀ interface ∈ environment.interfaces, (inet_pton interface.address).isSome = true)
    {tunnel : NamedTunnel} (listed : tunnel ∈ configuration.tunnels) :
    (inet_pton tunnel.config.udp_iface_ip_).isSome = true := by
  obtain ⟨content, -, parsed⟩ := reads
  obtain ⟨outline, -, legal, -, makes⟩ := ConfigurationOutline.parseConfiguration_iff.mp parsed
  obtain ⟨part, -, made⟩ := makes.section legal listed
  obtain ⟨-, -, reference, address, -, -, resolves, -, configures⟩ := makeTunnel_eq_ok.mp made
  have kept : tunnel.config.udp_iface_ip_ = address := by
    cases tunnel
    cases configures <;> rfl
  rw [kept]
  unfold resolveInterfaceIpv4 at resolves
  split_ifs at resolves with literal
  · exact Option.some.inj resolves ▸ literal
  · obtain ⟨interface, found, rfl⟩ := Option.map_eq_some_iff.mp resolves
    exact addresses interface (List.mem_of_find?_eq_some found)

theorem CommandEnvironment.Reads.describes (reads : environment.Reads config_path configuration)
    {tunnel : NamedTunnel} (listed : tunnel ∈ configuration.tunnels) :
    ∃ part : ConfigurationSection, part.Describes tunnel := by
  obtain ⟨outline, wellFormed⟩ := reads.outline
  obtain ⟨part, -, describes⟩ := wellFormed.described tunnel listed
  exact ⟨part, describes⟩

end

/-! ## Commands -/

/-- Whether something is started that goes on running. -/
def Invocation.starts : Invocation → Bool
  | .tunnel _ _ | .producer _ _ _ | .control _ _ => true
  | .version | .path _ | .created _ _ | .edited _ _ | .list _ | .show _ | .validTunnel _
  | .validConfiguration _ => false

section

variable {environment : CommandEnvironment} {argv : List Text} {invocation : Invocation}

/-- A client of a configuration has a group that datagrams can be sent to. -/
theorem CommandEnvironment.Reads.setUp {config_path : Text} {configuration : TunnelConfiguration}
    (reads : environment.Reads config_path configuration)
    (addresses : ∀ interface ∈ environment.interfaces, (inet_pton interface.address).isSome = true)
    {tunnel : NamedTunnel} (listed : tunnel ∈ configuration.tunnels)
    (client : tunnel.config.is_client_ = true) :
    ∃ sin_addr,
      inet_pton tunnel.config.udp_dst_ip_ = some sin_addr ∧ tunnel.config.udp_dst_port_ ≠ 0 ∧
      DatagramProducer.setUp tunnel.config {} =
        .ok ⟨ByteOrder.big.toBytes 2 tunnel.config.udp_dst_port_.toNat, sin_addr⟩ := by
  obtain ⟨part, describes⟩ := reads.describes listed
  obtain ⟨group, port⟩ := describes.destination (.inl client)
  obtain ⟨sin_addr, address⟩ := Option.isSome_iff_exists.mp group
  obtain ⟨interface, resolved⟩ := Option.isSome_iff_exists.mp (reads.interface addresses listed)
  refine ⟨sin_addr, address, port, ?_⟩
  unfold DatagramProducer.setUp
  simp only [resolved, address]

end

end DatagramTunneler
