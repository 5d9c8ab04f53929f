import DatagramTunneler.Configuration.Tunnels
import Mathlib.Data.List.Nodup

/-! Accepted configurations. Whatever the text, what is accepted has its version in
front, one tunnel for each section in the order of the aliases, and tunnels that
are complete and made of the assignments of their own section only. -/

set_option autoImplicit false

namespace DatagramTunneler

open Foundation

namespace ConfigurationSection

/-- The value the section assigns to a key. -/
def Assigns (part : ConfigurationSection) (key value : Text) : Prop := (key, value) ∈ part.assignments

def Mentions (part : ConfigurationSection) (key : Text) : Prop := key ∈ part.assignments.map Prod.fst

/-- A tunnel as its section describes it. -/
structure Describes (part : ConfigurationSection) (tunnel : NamedTunnel) : Prop where
  alias_ : tunnel.alias_ = part.alias_
  complete : tunnel.config.isComplete = true
  port : tunnel.config.tcp_srv_port_ ≠ 0
  server : tunnel.config.is_client_ = true → (inet_pton tunnel.config.tcp_srv_ip_).isSome = true
  destination : tunnel.config.is_client_ = true ∨ tunnel.config.use_clt_grp_ = false →
    (inet_pton tunnel.config.udp_dst_ip_).isSome = true ∧ tunnel.config.udp_dst_port_ ≠ 0
  clientOnly : tunnel.config.is_client_ = true →
    ¬ part.Mentions (ascii "tcp_listen_port") ∧ ¬ part.Mentions (ascii "udp_destination")
  serverOnly : tunnel.config.is_client_ = false →
    ¬ part.Mentions (ascii "tcp_server") ∧ ¬ part.Mentions (ascii "udp_group")
  replicates : tunnel.config.is_client_ = false → (tunnel.config.use_clt_grp_ = true ↔
    ¬ part.Mentions (ascii "udp_destination") ∨
      part.Assigns (ascii "udp_destination") kReplicateClientDestination)

end ConfigurationSection

/-- What holds of an accepted text with this outline and the configuration read from it. -/
structure WellFormed (outline : ConfigurationOutline) (configuration : TunnelConfiguration) :
    Prop where
  version : outline.preamble = [(ascii "version", ascii "1")]
  versionOnce : ∀ part ∈ outline.sections, ¬ part.Mentions (ascii "version")
  ascending : (configuration.tunnels.map (·.alias_)).Pairwise fun first last =>
    compare first last = .lt
  onePerHeader : (configuration.tunnels.map (·.alias_)).Perm (outline.sections.map (·.alias_))
  aliases : ∀ tunnel ∈ configuration.tunnels,
    1 ≤ tunnel.alias_.length ∧ tunnel.alias_.length ≤ 64 ∧
      ∀ byte ∈ tunnel.alias_, isalnum byte = true ∨ byte = byteOf '-' ∨ byte = byteOf '_'
  described : ∀ tunnel ∈ configuration.tunnels, ∃ part ∈ outline.sections, part.Describes tunnel

theorem fieldsOf_perm {first last : List (Text × Text)} (once : (first.map Prod.fst).Nodup)
    (same : first.Perm last) : fieldsOf first = fieldsOf last := by
  have lastOnce : (last.map Prod.fst).Nodup := (same.map Prod.fst).nodup_iff.mp once
  apply Std.ExtTreeMap.ext_getElem?
  intro key
  apply Option.ext
  intro value
  rw [getElem?_fieldsOf once, getElem?_fieldsOf lastOnce, same.mem_iff]

section Tunnels

variable {interfaces : List Interface} {part : ConfigurationSection} {tunnel : NamedTunnel}

private theorem makeTunnel_config {alias_ : Text} {fields : TunnelFields} {other : Text}
    (made : makeTunnel interfaces alias_ fields = .ok tunnel) :
    makeTunnel interfaces other fields = .ok ⟨other, tunnel.config⟩ := by
  obtain ⟨allowed, -, content⟩ := makeTunnel_eq_ok.mp made
  exact makeTunnel_eq_ok.mpr ⟨allowed, rfl, content⟩

private theorem describes_of_made (once : (part.assignments.map Prod.fst).Nodup)
    (made : makeTunnel interfaces part.alias_ (fieldsOf part.assignments) = .ok tunnel) :
    part.Describes tunnel := by
  obtain ⟨alias_, config⟩ := tunnel
  obtain ⟨-, named, reference, address, -, -, -, present, configures⟩ := makeTunnel_eq_ok.mp made
  have complete : config.isComplete = true := by
    rw [configures.isComplete]
    simpa using present
  have unmentioned : ∀ {key : Text}, key ∉ fieldsOf part.assignments → ¬ part.Mentions key :=
    fun absent mentioned => absent (mem_fieldsOf.mpr mentioned)
  have assigns : ∀ {key value : Text}, (fieldsOf part.assignments)[key]? = some value ↔
      part.Assigns key value := getElem?_fieldsOf once
  cases configures with
  | client _ noPort noDestination server group =>
      exact {
        alias_ := named
        complete := complete
        port := server.sound.2
        server := fun _ => server.sound.1
        destination := fun _ => group.sound
        clientOnly := fun _ => ⟨unmentioned noPort, unmentioned noDestination⟩
        serverOnly := fun server => by cases server
        replicates := fun server => by cases server }
  | replicating _ noServer noGroup _ parsed destination =>
      exact {
        alias_ := named
        complete := complete
        port := parsePort_ne_zero parsed
        server := fun client => by cases client
        destination := fun given => by simp at given
        clientOnly := fun client => by cases client
        serverOnly := fun _ => ⟨unmentioned noServer, unmentioned noGroup⟩
        replicates := fun _ => iff_of_true rfl (destination.imp unmentioned assigns.mp) }
  | publishing _ noServer noGroup _ parsed other destination =>
      exact {
        alias_ := named
        complete := complete
        port := parsePort_ne_zero parsed
        server := fun client => by cases client
        destination := fun _ => destination.sound
        clientOnly := fun client => by cases client
        serverOnly := fun _ => ⟨unmentioned noServer, unmentioned noGroup⟩
        replicates := by
          intro
          apply iff_of_false Bool.false_ne_true
          intro held
          rcases held with unassigned | replicate
          · obtain ⟨value, assigned, -⟩ := destination
            exact unassigned (List.mem_map_of_mem (assigns.mp assigned))
          · exact other (assigns.mpr replicate) }

end Tunnels

section Texts

variable {interfaces : List Interface} {outline : ConfigurationOutline}
  {configuration : TunnelConfiguration}

/-- Every tunnel is made of a section. -/
theorem ConfigurationOutline.Makes.section (legal : outline.Legal)
    (makes : outline.Makes interfaces configuration) {tunnel : NamedTunnel}
    (inside : tunnel ∈ configuration.tunnels) :
    ∃ part ∈ outline.sections,
      makeTunnel interfaces part.alias_ (fieldsOf part.assignments) = .ok tunnel := by
  obtain ⟨⟨alias_, fields⟩, listed, made⟩ := forall₂_mem_right makes inside
  have held := Std.ExtTreeMap.mem_toList_iff_getElem?_eq_some.mp listed
  obtain ⟨part, inside, rfl, rfl⟩ := legal.getElem?_reader.mp held
  exact ⟨part, inside, made⟩

/-- Every section makes a tunnel. -/
theorem ConfigurationOutline.Makes.tunnel (legal : outline.Legal)
    (makes : outline.Makes interfaces configuration) {part : ConfigurationSection}
    (inside : part ∈ outline.sections) :
    ∃ tunnel ∈ configuration.tunnels,
      makeTunnel interfaces part.alias_ (fieldsOf part.assignments) = .ok tunnel := by
  have held := legal.getElem?_reader.mpr ⟨part, inside, rfl, rfl⟩
  have listed := Std.ExtTreeMap.mem_toList_iff_getElem?_eq_some.mpr held
  exact forall₂_mem_right (List.Forall₂.flip makes) listed

/-- A configuration is made where every section makes a tunnel. -/
theorem ConfigurationOutline.exists_makes (legal : outline.Legal)
    (each : ∀ part ∈ outline.sections, ∃ tunnel,
      makeTunnel interfaces part.alias_ (fieldsOf part.assignments) = .ok tunnel) :
    ∃ configuration, outline.Makes interfaces configuration := by
  have entries : ∀ entry ∈ outline.reader.tunnel_fields.toList, ∃ tunnel,
      makeTunnel interfaces entry.1 entry.2 = .ok tunnel := by
    intro entry inside
    have held := Std.ExtTreeMap.mem_toList_iff_getElem?_eq_some.mp inside
    obtain ⟨part, listed, alias_, fields⟩ := legal.getElem?_reader.mp held
    rw [← alias_, ← fields]
    exact each part listed
  obtain ⟨tunnels, made⟩ := exists_forall₂ entries
  exact ⟨⟨tunnels⟩, made⟩

/-- The interface of a tunnel is what its section assigns. -/
theorem ConfigurationOutline.Makes.interface (legal : outline.Legal)
    (makes : outline.Makes interfaces configuration) {tunnel : NamedTunnel}
    (inside : tunnel ∈ configuration.tunnels) :
    ∃ part ∈ outline.sections, part.alias_ = tunnel.alias_ ∧
      (ascii "udp_interface", tunnel.config.udp_iface_reference_) ∈ part.assignments := by
  obtain ⟨part, present, made⟩ := makes.section legal inside
  obtain ⟨-, alias_, reference, address, assigned, -, -, -, configures⟩ := makeTunnel_eq_ok.mp made
  have kept : tunnel.config.udp_iface_reference_ = reference := by
    cases tunnel
    cases configures <;> rfl
  rw [← kept] at assigned
  exact ⟨part, present, alias_.symm, (getElem?_fieldsOf (legal.once part present)).mp assigned⟩

theorem ConfigurationOutline.Makes.aliases (makes : outline.Makes interfaces configuration) :
    configuration.tunnels.map (·.alias_) = outline.reader.tunnel_fields.toList.map Prod.fst := by
  unfold ConfigurationOutline.Makes at makes
  generalize outline.reader.tunnel_fields.toList = entries at makes ⊢
  generalize configuration.tunnels = tunnels at makes ⊢
  induction makes with
  | nil => rfl
  | cons made _ ih =>
      obtain ⟨-, named, -⟩ := makeTunnel_eq_ok.mp made
      rw [List.map_cons, List.map_cons, ih, named]

theorem ConfigurationOutline.Makes.made_of_alias (legal : outline.Legal)
    (makes : outline.Makes interfaces configuration) {part : ConfigurationSection}
    (inside : part ∈ outline.sections) {tunnel : NamedTunnel}
    (listed : tunnel ∈ configuration.tunnels) (named : tunnel.alias_ = part.alias_) :
    makeTunnel interfaces part.alias_ (fieldsOf part.assignments) = .ok tunnel := by
  obtain ⟨other, otherInside, made⟩ := makes.section legal listed
  obtain ⟨-, otherNamed, -⟩ := makeTunnel_eq_ok.mp made
  have same : other = part :=
    List.inj_on_of_nodup_map legal.distinct otherInside inside (otherNamed.symm.trans named)
  exact same ▸ made

theorem wellFormed_of_made (legal : outline.Legal)
    (version : outline.preamble = [(ascii "version", ascii "1")])
    (makes : outline.Makes interfaces configuration) : WellFormed outline configuration := by
  have described : ∀ tunnel ∈ configuration.tunnels, ∃ part ∈ outline.sections,
      part.Describes tunnel := by
    intro tunnel inside
    obtain ⟨part, listed, made⟩ := makes.section legal inside
    exact ⟨part, listed, describes_of_made (legal.once part listed) made⟩
  have distinct : (outline.reader.tunnel_fields.toList.map Prod.fst).Nodup := by
    rw [Std.ExtTreeMap.map_fst_toList_eq_keys]
    exact Std.ExtTreeMap.nodup_keys
  exact {
    version := version
    versionOnce := by
      intro part inside mentioned
      obtain ⟨tunnel, -, made⟩ := makes.tunnel legal inside
      have allowed := (makeTunnel_eq_ok.mp made).1 _ (mem_fieldsOf.mpr mentioned)
      exact absurd allowed (by decide)
    ascending := by
      rw [makes.aliases, List.pairwise_map]
      exact Std.ExtTreeMap.ordered_keys_toList
    onePerHeader := by
      rw [makes.aliases, List.perm_ext_iff_of_nodup distinct legal.distinct]
      intro alias_
      rw [Std.ExtTreeMap.map_fst_toList_eq_keys, Std.ExtTreeMap.mem_keys,
        ConfigurationOutline.mem_reader]
    aliases := by
      intro tunnel inside
      obtain ⟨part, listed, describes⟩ := described tunnel inside
      have named := legal.named part listed
      rw [describes.alias_]
      simp only [isAlias, Bool.and_eq_true, Bool.not_eq_true', List.isEmpty_eq_false_iff,
        decide_eq_true_eq, List.all_eq_true, Bool.or_eq_true, beq_iff_eq] at named
      refine ⟨List.length_pos_iff.mpr named.1.1, named.1.2, fun byte inside => ?_⟩
      have legal := named.2 byte inside
      tauto
    described := described }

/-- Every accepted text is well formed, and what a tunnel is configured with depends
on nothing but the assignments of its section. -/
theorem parseConfiguration_wellFormed (interfaces : List Interface) (input : Text)
    (configuration : TunnelConfiguration)
    (accepted : parseConfiguration interfaces input = .ok configuration) :
    ∃ outline, ConfigurationOutline.read input = some outline ∧ WellFormed outline configuration ∧
      ∀ other otherConfiguration otherOutline,
        parseConfiguration interfaces other = .ok otherConfiguration →
        ConfigurationOutline.read other = some otherOutline →
        ∀ part ∈ outline.sections, ∀ otherPart ∈ otherOutline.sections,
          part.assignments.Perm otherPart.assignments →
          ∀ tunnel ∈ configuration.tunnels, ∀ otherTunnel ∈ otherConfiguration.tunnels,
            tunnel.alias_ = part.alias_ → otherTunnel.alias_ = otherPart.alias_ →
            otherTunnel.config = tunnel.config := by
  obtain ⟨outline, meant, legal, version, makes⟩ :=
    ConfigurationOutline.parseConfiguration_iff.mp accepted
  refine ⟨outline, meant, wellFormed_of_made legal version makes, ?_⟩
  intro other otherConfiguration otherOutline otherAccepted otherMeant part inside otherPart
    otherInside same tunnel listed otherTunnel otherListed named otherNamed
  obtain ⟨otherOutline, meant, otherLegal, -, otherMakes⟩ :=
    ConfigurationOutline.parseConfiguration_iff.mp otherAccepted
  cases otherMeant.symm.trans meant
  have made := makes.made_of_alias legal inside listed named
  have otherMade := otherMakes.made_of_alias otherLegal otherInside otherListed otherNamed
  rw [← fieldsOf_perm (legal.once part inside) same, makeTunnel_config made] at otherMade
  exact (congrArg NamedTunnel.config (Except.ok.inj otherMade)).symm

/-- A text with a client and a replicating server, out of order, and a comment. -/
def twoTunnels : Text :=
  ["version = 1 # format", "[tunnels.b]", "mode = \"server\"", "udp_interface = \"127.0.0.1\"",
    "tcp_listen_port = 14052", "", "[tunnels.a]", "mode = \"client\"",
    "udp_interface = \"127.0.0.1\"", "udp_group = \"239.1.2.3:5000\"",
    "tcp_server = \"127.0.0.1:14052\""].flatMap fun line => ascii line ++ ascii "\n"

theorem parseConfiguration_wellFormed_twoTunnels : ∃ configuration,
    parseConfiguration [] twoTunnels = .ok configuration ∧ configuration.tunnels.length = 2 ∧
      ∃ outline, ConfigurationOutline.read twoTunnels = some outline ∧
        WellFormed outline configuration := by
  have accepted : ((parseConfiguration [] twoTunnels).map fun configuration =>
      configuration.tunnels.length) = .ok 2 := by decide
  cases parsed : parseConfiguration [] twoTunnels with
  | error what =>
      rw [parsed] at accepted
      cases accepted
  | ok configuration =>
      rw [parsed] at accepted
      obtain ⟨outline, meant, formed, -⟩ :=
        parseConfiguration_wellFormed [] twoTunnels configuration parsed
      exact ⟨configuration, rfl, Except.ok.inj accepted, outline, meant, formed⟩

end Texts

end DatagramTunneler
