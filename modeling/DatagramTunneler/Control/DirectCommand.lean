import DatagramTunneler.CommandLine
import DatagramTunneler.Configuration.WellFormed
import DatagramTunneler.Foundation.ShellWords

/-! The direct invocation that the service advertises for a named tunnel. Its
interface name goes into the command line as it is, so the command says the same
as the tunnel if and only if a shell passes that name on as one word. -/

set_option autoImplicit false

namespace DatagramTunneler

open Foundation

def endpoint (address : Text) (port : UInt16) : Text := address ++ ascii ":" ++ to_string port.toNat

def directCommand (tunnel : NamedTunnel) : Text :=
  let config := tunnel.config
  let udp_interface :=
    if config.udp_iface_reference_.isEmpty then config.udp_iface_ip_ else config.udp_iface_reference_
  if config.is_client_ then
    ascii "dgramtunneler --client -i " ++ udp_interface ++ ascii " -t " ++
      endpoint config.tcp_srv_ip_ config.tcp_srv_port_ ++ ascii " -u " ++
      endpoint config.udp_dst_ip_ config.udp_dst_port_
  else
    let command := ascii "dgramtunneler --server -i " ++ udp_interface ++ ascii " -t " ++
      to_string config.tcp_srv_port_.toNat
    if !config.use_clt_grp_ then
      command ++ ascii " -u " ++ endpoint config.udp_dst_ip_ config.udp_dst_port_
    else command

/-- What the constructor does before it opens a socket. -/
def resolveInterface (interfaces : List Interface) (cfg : Config) : Except Text Config :=
  let udp_iface_reference :=
    if cfg.udp_iface_reference_.isEmpty then cfg.udp_iface_ip_ else cfg.udp_iface_reference_
  match resolveInterfaceIpv4 interfaces cfg.udp_iface_ip_ with
  | none =>
      .error (ascii "could not resolve UDP interface '" ++ udp_iface_reference ++
        ascii "' to an IPv4 address")
  | some interface_address =>
      .ok { cfg with udp_iface_reference_ := udp_iface_reference, udp_iface_ip_ := interface_address }

/-- The same tunnel, whatever else the configs say. -/
structure SameTunnel (first second : Config) : Prop where
  is_client_ : first.is_client_ = second.is_client_
  udp_iface_reference_ : first.udp_iface_reference_ = second.udp_iface_reference_
  udp_iface_ip_ : first.udp_iface_ip_ = second.udp_iface_ip_
  tcp_srv_ip_ : first.tcp_srv_ip_ = second.tcp_srv_ip_
  tcp_srv_port_ : first.tcp_srv_port_ = second.tcp_srv_port_
  udp_dst_ip_ : first.udp_dst_ip_ = second.udp_dst_ip_
  udp_dst_port_ : first.udp_dst_port_ = second.udp_dst_port_
  use_clt_grp_ : first.use_clt_grp_ = second.use_clt_grp_

/-- A shell that runs the direct command runs the tunnel. -/
def RunsDirectly (interfaces : List Interface) (tunnel : NamedTunnel) : Prop :=
  ∃ argv cfg resolved, shellWords (directCommand tunnel) = some argv ∧
    parseCommandLineConfig argv {} = .ok (true, cfg) ∧
    resolveInterface interfaces cfg = .ok resolved ∧ SameTunnel resolved tunnel.config

/-! ## The words of the command -/

def frontWords (config : Config) : List Text :=
  [if config.is_client_ then ascii "--client" else ascii "--server", ascii "-i"]

def backWords (config : Config) : List Text :=
  [ascii "-t",
    if config.is_client_ then endpoint config.tcp_srv_ip_ config.tcp_srv_port_
    else to_string config.tcp_srv_port_.toNat] ++
  if config.is_client_ || !config.use_clt_grp_ then
    [ascii "-u", endpoint config.udp_dst_ip_ config.udp_dst_port_]
  else []

private theorem directCommand_eq {tunnel : NamedTunnel} (named : tunnel.config.udp_iface_reference_ ≠ []) :
    directCommand tunnel = ascii "dgramtunneler" ++ spaced (frontWords tunnel.config) ++
      0x20 :: tunnel.config.udp_iface_reference_ ++ spaced (backWords tunnel.config) := by
  have client : ascii "dgramtunneler --client -i " =
      ascii "dgramtunneler" ++ 0x20 :: ascii "--client" ++ 0x20 :: ascii "-i" ++ [0x20] := by decide
  have server : ascii "dgramtunneler --server -i " =
      ascii "dgramtunneler" ++ 0x20 :: ascii "--server" ++ 0x20 :: ascii "-i" ++ [0x20] := by decide
  have tcp : ascii " -t " = 0x20 :: ascii "-t" ++ [0x20] := by decide
  have udp : ascii " -u " = 0x20 :: ascii "-u" ++ [0x20] := by decide
  unfold directCommand frontWords backWords spaced
  cases mode : tunnel.config.is_client_ <;> cases replicates : tunnel.config.use_clt_grp_ <;>
    simp [named, client, server, tcp, udp, mode, replicates]

/-- Digits, dots and colons mean nothing to a shell. -/
theorem plainWord_of_digits {word : Text} (nonempty : word ≠ [])
    (bytes : ∀ byte ∈ word, isdigit byte = true ∨ byte = byteOf '.' ∨ byte = byteOf ':') :
    PlainWord word := by
  have ordinary : ∀ byte ∈ word, ShellReader.isOrdinary byte = true ∧
      byte ≠ ShellReader.numberSign ∧ byte ≠ ShellReader.tilde := by
    intro byte inside
    rcases bytes byte inside with digit | rfl | rfl
    · exact of_decide_eq_true (@of_isdigit (fun byte => decide (ShellReader.isOrdinary byte = true ∧
        byte ≠ ShellReader.numberSign ∧ byte ≠ ShellReader.tilde)) (by decide) byte digit)
    · decide
    · decide
  obtain ⟨first, rest, rfl⟩ := List.exists_cons_of_ne_nil nonempty
  have front := ordinary first (List.mem_cons_self ..)
  exact ⟨nonempty, fun byte inside => (ordinary byte inside).1, by simpa using front.2.1,
    by simpa using front.2.2⟩

private theorem plainWord_to_string (value : Nat) : PlainWord (to_string value) :=
  plainWord_of_digits (to_string_ne_nil value) fun _ inside => .inl (isdigit_to_string inside)

private theorem plainWord_endpoint {address : Text} (accepted : (inet_pton address).isSome = true)
    (visible : 0 ∉ address) (port : UInt16) : PlainWord (endpoint address port) := by
  have colon : ascii ":" = [byteOf ':'] := by decide
  apply plainWord_of_digits
  · simp [endpoint, colon]
  · intro byte inside
    simp only [endpoint, colon, List.mem_append, List.mem_singleton] at inside
    rcases inside with (inside | rfl) | inside
    · have here : byte ∈ c_str address := by rwa [c_str_of_visible visible]
      exact (isdigit_or_dot_of_inet_pton accepted here).imp_right .inl
    · exact .inr (.inr rfl)
    · exact .inl (isdigit_to_string inside)

theorem colon_not_mem {address : Text} (accepted : (inet_pton address).isSome = true)
    (visible : 0 ∉ address) : byteOf ':' ∉ address := by
  intro inside
  rw [← c_str_of_visible visible] at inside
  rcases isdigit_or_dot_of_inet_pton accepted inside with digit | dot
  · exact (isdigit_apart digit).2.2.2.1 rfl
  · revert dot
    decide

/-! ## Reading the words -/

section Reading

variable {fields : TunnelFields} {reference address : Text} {config : Config}

private theorem getIpAndPort_of_inet_pton {address : Text} {port : UInt16}
    (accepted : (inet_pton address).isSome = true) (visible : 0 ∉ address) :
    getIpAndPort (endpoint address port) = .ok (address, port) := by
  have colon : endpoint address port = address ++ byteOf ':' :: to_string port.toNat := by
    have colon : ascii ":" = [byteOf ':'] := by decide
    simp [endpoint, colon]
  rw [colon]
  exact getIpAndPort_endpoint (colon_not_mem accepted visible)

private theorem readOptions_client {cfg : Config} {arguments : List Text} :
    CommandLine.readOptions false cfg (ascii "--client" :: arguments) =
      CommandLine.readOptions true { cfg with is_client_ := true } arguments := by
  cases arguments <;> rfl

private theorem readOptions_serverMode {cfg : Config} {arguments : List Text} :
    CommandLine.readOptions false cfg (ascii "--server" :: arguments) =
      CommandLine.readOptions true { cfg with is_client_ := false } arguments := by
  cases arguments <;> rfl

private theorem readOptions_interface {cfg : Config} {argument : Text} {arguments : List Text} :
    CommandLine.readOptions true cfg (ascii "-i" :: argument :: arguments) =
      CommandLine.readOptions true
        { cfg with udp_iface_ip_ := argument, udp_iface_reference_ := argument } arguments := rfl

private theorem readOptions_destination {cfg : Config} {ip : Text} {port : UInt16} {arguments : List Text}
    (accepted : (inet_pton ip).isSome = true) (visible : 0 ∉ ip) :
    CommandLine.readOptions true cfg (ascii "-u" :: endpoint ip port :: arguments) =
      CommandLine.readOptions true
        { cfg with use_clt_grp_ := false, udp_dst_ip_ := ip, udp_dst_port_ := port } arguments := by
  have taken : CommandLine.readOptions true cfg (ascii "-u" :: endpoint ip port :: arguments) =
      ((getIpAndPort (endpoint ip port)).bind fun read => .ok
        { cfg with use_clt_grp_ := false, udp_dst_ip_ := read.1, udp_dst_port_ := read.2 }).bind fun cfg =>
          CommandLine.readOptions true cfg arguments := rfl
  rw [taken, getIpAndPort_of_inet_pton accepted visible]
  rfl

private theorem readOptions_server {cfg : Config} {ip : Text} {port : UInt16} {arguments : List Text}
    (accepted : (inet_pton ip).isSome = true) (visible : 0 ∉ ip) (client : cfg.is_client_ = true) :
    CommandLine.readOptions true cfg (ascii "-t" :: endpoint ip port :: arguments) =
      CommandLine.readOptions true { cfg with tcp_srv_ip_ := ip, tcp_srv_port_ := port } arguments := by
  have taken : CommandLine.readOptions true cfg (ascii "-t" :: endpoint ip port :: arguments) =
      (if cfg.is_client_ then (getIpAndPort (endpoint ip port)).bind fun read =>
          .ok { cfg with tcp_srv_ip_ := read.1, tcp_srv_port_ := read.2 }
        else (getPort (endpoint ip port)).bind fun port => .ok { cfg with tcp_srv_port_ := port }).bind
          fun cfg => CommandLine.readOptions true cfg arguments := rfl
  rw [taken, if_pos client, getIpAndPort_of_inet_pton accepted visible]
  rfl

private theorem readOptions_listenPort {cfg : Config} {port : UInt16} {arguments : List Text}
    (server : cfg.is_client_ = false) :
    CommandLine.readOptions true cfg (ascii "-t" :: to_string port.toNat :: arguments) =
      CommandLine.readOptions true { cfg with tcp_srv_port_ := port } arguments := by
  have taken : CommandLine.readOptions true cfg (ascii "-t" :: to_string port.toNat :: arguments) =
      (if cfg.is_client_ then (getIpAndPort (to_string port.toNat)).bind fun read =>
          .ok { cfg with tcp_srv_ip_ := read.1, tcp_srv_port_ := read.2 }
        else (getPort (to_string port.toNat)).bind fun port => .ok { cfg with tcp_srv_port_ := port }).bind
          fun cfg => CommandLine.readOptions true cfg arguments := rfl
  rw [taken, if_neg (Bool.eq_false_iff.mp server), getPort_to_string]
  rfl

private theorem readOptions_words
    (configures : Configures fields
      { udp_iface_reference_ := reference, udp_iface_ip_ := address } config)
    (server : 0 ∉ config.tcp_srv_ip_) (destination : 0 ∉ config.udp_dst_ip_) :
    CommandLine.readOptions false { use_clt_grp_ := true }
        (frontWords config ++ reference :: backWords config) =
      .ok { config with udp_iface_ip_ := reference } := by
  cases configures with
  | client _ _ _ tcp udp =>
      apply readOptions_client.trans
      apply readOptions_interface.trans
      apply (readOptions_server tcp.sound.1 server rfl).trans
      exact readOptions_destination udp.sound.1 destination
  | replicating =>
      apply readOptions_serverMode.trans
      apply readOptions_interface.trans
      exact readOptions_listenPort rfl
  | publishing _ _ _ _ _ _ udp =>
      apply readOptions_serverMode.trans
      apply readOptions_interface.trans
      apply (readOptions_listenPort rfl).trans
      exact readOptions_destination udp.sound.1 destination

end Reading

/-! ## When the command is the tunnel -/

section Equivalence

variable {interfaces : List Interface} {fields : TunnelFields} {reference address : Text}
  {tunnel : NamedTunnel}

private theorem plainWord_frontWords (config : Config) :
    ∀ word ∈ ascii "dgramtunneler" :: frontWords config, PlainWord word := by
  intro word inside
  have plain : PlainWord (ascii "dgramtunneler") ∧ PlainWord (ascii "--client") ∧
      PlainWord (ascii "--server") ∧ PlainWord (ascii "-i") := by decide
  simp only [frontWords, List.mem_cons, List.not_mem_nil, or_false] at inside
  rcases inside with rfl | rfl | rfl
  · exact plain.1
  · split
    · exact plain.2.1
    · exact plain.2.2.1
  · exact plain.2.2.2

private theorem plainWord_backWords {config : Config}
    (configures : Configures fields
      { udp_iface_reference_ := reference, udp_iface_ip_ := address } config)
    (server : 0 ∉ config.tcp_srv_ip_) (destination : 0 ∉ config.udp_dst_ip_) :
    ∀ word ∈ backWords config, PlainWord word := by
  have options : PlainWord (ascii "-t") ∧ PlainWord (ascii "-u") := by decide
  cases configures with
  | client _ _ _ tcp udp =>
      exact List.forall_mem_cons.mpr ⟨options.1, List.forall_mem_cons.mpr
        ⟨plainWord_endpoint tcp.sound.1 server _, List.forall_mem_cons.mpr
          ⟨options.2, List.forall_mem_singleton.mpr (plainWord_endpoint udp.sound.1 destination _)⟩⟩⟩
  | replicating =>
      exact List.forall_mem_cons.mpr ⟨options.1,
        List.forall_mem_singleton.mpr (plainWord_to_string _)⟩
  | publishing _ _ _ _ _ _ udp =>
      exact List.forall_mem_cons.mpr ⟨options.1, List.forall_mem_cons.mpr
        ⟨plainWord_to_string _, List.forall_mem_cons.mpr
          ⟨options.2, List.forall_mem_singleton.mpr (plainWord_endpoint udp.sound.1 destination _)⟩⟩⟩

private theorem resolveInterface_words {config : Config} (named : reference ≠ [])
    (configures : Configures fields
      { udp_iface_reference_ := reference, udp_iface_ip_ := address } config)
    (resolves : resolveInterfaceIpv4 interfaces reference = some address) :
    resolveInterface interfaces { config with udp_iface_ip_ := reference } = .ok config := by
  unfold resolveInterface
  simp only [resolves]
  cases configures <;> simp [named]

private theorem reference_resolveInterface {cfg resolved : Config}
    (resolves : resolveInterface interfaces cfg = .ok resolved)
    (same : cfg.udp_iface_reference_ = cfg.udp_iface_ip_) :
    resolved.udp_iface_reference_ = cfg.udp_iface_reference_ := by
  unfold resolveInterface at resolves
  dsimp only at resolves
  split at resolves
  · cases resolves
  · cases resolves
    simp [same]

private theorem Configures.unresolved {config : Config}
    (configures : Configures fields
      { udp_iface_reference_ := reference, udp_iface_ip_ := address } config) :
    Configures fields { udp_iface_reference_ := reference, udp_iface_ip_ := reference }
      { config with udp_iface_ip_ := reference } := by
  cases configures with
  | client mode noPort noDestination tcp udp => exact .client mode noPort noDestination tcp udp
  | replicating mode noServer noGroup assigned parsed destination =>
      exact .replicating mode noServer noGroup assigned parsed destination
  | publishing mode noServer noGroup assigned parsed other destination =>
      exact .publishing mode noServer noGroup assigned parsed other destination

private theorem addresses_visible {config : Config}
    (configures : Configures fields
      { udp_iface_reference_ := reference, udp_iface_ip_ := address } config)
    (visible : ∀ word ∈ backWords config, (0 : UInt8) ∉ word) :
    0 ∉ config.tcp_srv_ip_ ∧ 0 ∉ config.udp_dst_ip_ := by
  have hidden : ∀ {ip : Text} {port : UInt16}, endpoint ip port ∈ backWords config → 0 ∉ ip :=
    fun listed inside => visible _ listed (by simp [endpoint, inside])
  cases configures with
  | client => exact ⟨hidden (.tail _ (.head _)), hidden (.tail _ (.tail _ (.tail _ (.head _))))⟩
  | replicating => exact ⟨List.not_mem_nil, List.not_mem_nil⟩
  | publishing => exact ⟨List.not_mem_nil, hidden (.tail _ (.tail _ (.tail _ (.head _))))⟩

private theorem runsDirectly_iff
    (made : makeTunnel interfaces tunnel.alias_ fields = .ok tunnel) :
    RunsDirectly interfaces tunnel ↔ PlainWord tunnel.config.udp_iface_reference_ ∧
      0 ∉ tunnel.config.tcp_srv_ip_ ∧ 0 ∉ tunnel.config.udp_dst_ip_ := by
  obtain ⟨-, -, reference, address, -, named, resolves, present, configures⟩ := makeTunnel_eq_ok.mp made
  have same : tunnel.config.udp_iface_reference_ = reference := by
    cases tunnel
    cases configures <;> rfl
  subst same
  constructor
  · intro held
    obtain ⟨argv, cfg, resolved, split, parsed, resolves, same⟩ := held
    rw [directCommand_eq named] at split
    have line := endsLine_of_shellWords split
    have visible : ∀ word ∈ backWords tunnel.config, (0 : UInt8) ∉ word := by
      intro word listed inside
      have written : (0 : UInt8) ∈ spaced (backWords tunnel.config) :=
        List.mem_flatMap.mpr ⟨word, listed, List.mem_cons_of_mem _ inside⟩
      exact absurd (line 0 (List.mem_append_right _ written)) (by decide)
    obtain ⟨server, destination⟩ := addresses_visible configures visible
    refine ⟨?_, server, destination⟩
    apply plainWord_of_mem (plainWord_frontWords _) (plainWord_backWords configures server destination)
      named split
    obtain ⟨cfg, read, complete⟩ := except_bind_eq_ok.mp parsed
    have started : CommandLine.Named argv { use_clt_grp_ := true } := ⟨rfl, .inl rfl⟩
    have given := started.readOptions (fun _ inside => List.mem_of_mem_tail inside) read
    obtain ⟨-, rfl⟩ := Prod.mk.inj (Except.ok.inj complete)
    have kept := same.udp_iface_reference_.symm.trans (reference_resolveInterface resolves given.1)
    rw [kept] at named ⊢
    exact given.2.resolve_left named
  · intro held
    obtain ⟨plain, server, destination⟩ := held
    have split : shellWords (directCommand tunnel) = some (ascii "dgramtunneler" ::
        (frontWords tunnel.config ++ tunnel.config.udp_iface_reference_ :: backWords tunnel.config)) := by
      have words : directCommand tunnel = ascii "dgramtunneler" ++ spaced (frontWords tunnel.config ++
          tunnel.config.udp_iface_reference_ :: backWords tunnel.config) := by
        rw [directCommand_eq named]
        simp [spaced]
      rw [words]
      apply shellWords_spaced (plainWord_frontWords tunnel.config _ (List.mem_cons_self ..))
      intro word inside
      rcases List.mem_append.mp inside with inside | inside
      · exact plainWord_frontWords tunnel.config word (List.mem_cons_of_mem _ inside)
      · rcases List.mem_cons.mp inside with rfl | inside
        · exact plain
        · exact plainWord_backWords configures server destination word inside
    have complete : ({ tunnel.config with
        udp_iface_ip_ := tunnel.config.udp_iface_reference_ } : Config).isComplete = true := by
      rw [configures.unresolved.isComplete]
      simpa using named
    have parsed : parseCommandLineConfig (ascii "dgramtunneler" :: (frontWords tunnel.config ++
          tunnel.config.udp_iface_reference_ :: backWords tunnel.config)) {} =
        .ok (true, { tunnel.config with udp_iface_ip_ := tunnel.config.udp_iface_reference_ }) := by
      apply except_bind_eq_ok.mpr
      exact ⟨_, readOptions_words configures server destination, by rw [complete]; rfl⟩
    exact ⟨_, _, _, split, parsed, resolveInterface_words named configures resolves,
      rfl, rfl, rfl, rfl, rfl, rfl, rfl, rfl⟩

end Equivalence

/-! ## Accepted configurations -/

theorem directCommand_runs_iff {interfaces : List Interface} {input : Text}
    {configuration : TunnelConfiguration}
    (accepted : parseConfiguration interfaces input = .ok configuration) :
    ∀ tunnel ∈ configuration.tunnels,
      RunsDirectly interfaces tunnel ↔ PlainWord tunnel.config.udp_iface_reference_ ∧
        0 ∉ tunnel.config.tcp_srv_ip_ ∧ 0 ∉ tunnel.config.udp_dst_ip_ := by
  intro tunnel inside
  obtain ⟨outline, -, legal, -, makes⟩ := ConfigurationOutline.parseConfiguration_iff.mp accepted
  obtain ⟨part, -, made⟩ := makes.section legal inside
  have named := (makeTunnel_eq_ok.mp made).2.1
  exact runsDirectly_iff (named ▸ made)

def spacedInterfaces : List Interface := [⟨ascii "Ethernet 2", ascii "192.168.1.5"⟩]

def spacedInterface : Text :=
  ["version = 1", "[tunnels.lan]", "mode = \"server\"", "udp_interface = \"Ethernet 2\"",
    "tcp_listen_port = 14052"].flatMap fun line => ascii line ++ ascii "\n"

def spacedTunnel : NamedTunnel where
  alias_ := ascii "lan"
  config := {
    udp_iface_ip_ := ascii "192.168.1.5"
    udp_iface_reference_ := ascii "Ethernet 2"
    tcp_srv_port_ := 14052
    use_clt_grp_ := true }

theorem directCommand_split :
    parseConfiguration spacedInterfaces spacedInterface = .ok ⟨[spacedTunnel]⟩ ∧
      directCommand spacedTunnel = ascii "dgramtunneler --server -i Ethernet 2 -t 14052" ∧
      ¬ RunsDirectly spacedInterfaces spacedTunnel := by
  refine ⟨by decide, by decide, ?_⟩
  intro held
  obtain ⟨argv, cfg, resolved, split, parsed, -⟩ := held
  have words : shellWords (directCommand spacedTunnel) = some [ascii "dgramtunneler", ascii "--server",
      ascii "-i", ascii "Ethernet", ascii "2", ascii "-t", ascii "14052"] := by decide
  cases split.symm.trans words
  have died : parseCommandLineConfig [ascii "dgramtunneler", ascii "--server", ascii "-i",
      ascii "Ethernet", ascii "2", ascii "-t", ascii "14052"] {} =
      .error (.death (ascii "Invalid option 2")) := by decide
  cases parsed.symm.trans died

theorem directCommand_runs_iff_twoTunnels : ∃ configuration,
    parseConfiguration [] twoTunnels = .ok configuration ∧ configuration.tunnels.length = 2 ∧
      ∀ tunnel ∈ configuration.tunnels, RunsDirectly [] tunnel := by
  have accepted : ((parseConfiguration [] twoTunnels).map fun configuration =>
      configuration.tunnels.length) = .ok 2 := by decide
  have plain : ((parseConfiguration [] twoTunnels).map fun configuration =>
      configuration.tunnels.all fun tunnel => decide (PlainWord tunnel.config.udp_iface_reference_ ∧
        0 ∉ tunnel.config.tcp_srv_ip_ ∧ 0 ∉ tunnel.config.udp_dst_ip_)) = .ok true := by decide
  cases parsed : parseConfiguration [] twoTunnels with
  | error what =>
      rw [parsed] at accepted
      cases accepted
  | ok configuration =>
      rw [parsed] at accepted plain
      refine ⟨configuration, rfl, Except.ok.inj accepted, fun tunnel inside => ?_⟩
      have decided := List.all_eq_true.mp (Except.ok.inj plain) tunnel inside
      exact (directCommand_runs_iff parsed tunnel inside).mpr (of_decide_eq_true decided)

end DatagramTunneler
