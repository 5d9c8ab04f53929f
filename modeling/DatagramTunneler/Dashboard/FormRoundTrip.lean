import DatagramTunneler.Configuration.Lines
import DatagramTunneler.Configuration.WellFormed
import DatagramTunneler.Dashboard.ConfigurationForm

/-! What the guided editor writes and the service reads. The editor escapes quotes
and backslashes, the service knows no escapes, so the tunnels come back if and
only if there was nothing to escape. -/

set_option autoImplicit false

namespace DatagramTunneler

open Foundation

namespace FormTunnel

/-- A decimal port in the range 1-65535. -/
def IsPort (digits : JsString) (port : UInt16) : Prop :=
  digits ≠ [] ∧ digits.all Script.isDigit = true ∧
    digitsValue (utf8 digits) = port.toNat ∧ port ≠ 0

instance (digits : JsString) (port : UInt16) : Decidable (IsPort digits port) :=
  inferInstanceAs (Decidable (_ ∧ _))

/-- An IPv4 address and a port. -/
def IsEndpoint (value : JsString) (address : Text) (port : UInt16) : Prop :=
  ∃ ip digits, value = ip ++ ':' :: digits ∧ utf8 ip = address ∧ (inet_pton address).isSome = true ∧
    0 ∉ address ∧ IsPort digits port

/-- What the service can serve. -/
structure Valid (interfaces : List Interface) (tunnel : FormTunnel) : Prop where
  alias_ : tunnel.alias_.length ≤ 64
  singleLine : '\n' ∉ tunnel.udp_interface
  resolves : ∃ address, resolveInterfaceIpv4 interfaces (utf8 tunnel.udp_interface) = some address ∧
    address ≠ []
  client : tunnel.mode = js "client" →
    (∃ address port, IsEndpoint tunnel.udp_group address port) ∧
      ∃ address port, IsEndpoint tunnel.tcp_server address port
  server : tunnel.mode = js "server" → (∃ port, IsPort tunnel.tcp_listen_port port) ∧
    (tunnel.udp_destination = [] ∨ tunnel.udp_destination = js "replicate_client" ∨
      ∃ address port, IsEndpoint tunnel.udp_destination address port)

/-- The service has the tunnel of the form. -/
structure Means (tunnel : FormTunnel) (named : NamedTunnel) : Prop where
  alias_ : named.alias_ = utf8 tunnel.alias_
  mode : named.config.is_client_ = true ↔ tunnel.mode = js "client"
  interface : named.config.udp_iface_reference_ = utf8 tunnel.udp_interface
  client : tunnel.mode = js "client" →
    IsEndpoint tunnel.udp_group named.config.udp_dst_ip_ named.config.udp_dst_port_ ∧
      IsEndpoint tunnel.tcp_server named.config.tcp_srv_ip_ named.config.tcp_srv_port_
  server : tunnel.mode = js "server" → IsPort tunnel.tcp_listen_port named.config.tcp_srv_port_ ∧
    (named.config.use_clt_grp_ = true ↔
      tunnel.udp_destination = [] ∨ tunnel.udp_destination = js "replicate_client") ∧
    (named.config.use_clt_grp_ = false →
      IsEndpoint tunnel.udp_destination named.config.udp_dst_ip_ named.config.udp_dst_port_)

end FormTunnel

/-- The service reads the text as these tunnels, in the order of their aliases. -/
def ReadBack (interfaces : List Interface) (tunnels : List FormTunnel) (text : JsString) : Prop :=
  ∃ configuration, parseConfiguration interfaces (utf8 text) = .ok configuration ∧
    (configuration.tunnels.map (·.alias_)).Pairwise (fun first last => compare first last = .lt) ∧
    (∀ tunnel ∈ tunnels, ∃ named ∈ configuration.tunnels, tunnel.Means named) ∧
    ∀ named ∈ configuration.tunnels, ∃ tunnel ∈ tunnels, tunnel.Means named

namespace ConfigurationForm

/-! ## What is written -/

/-- What stands between the quotes. -/
def escaped (value : JsString) : JsString :=
  (value.flatMap fun character => if character = '\\' then ['\\', '\\'] else [character]).flatMap
    fun character => if character = '"' then ['\\', '"'] else [character]

private theorem utf8_tomlValue (value : JsString) :
    utf8 (tomlValue value) = byteOf '"' :: utf8 (escaped value) ++ [byteOf '"'] := by
  have quote : utf8 ['"'] = [byteOf '"'] := by decide
  have layout : tomlValue value = ['"'] ++ escaped value ++ ['"'] := rfl
  rw [layout, utf8_append, utf8_append, quote]
  rfl

theorem escaped_cons (character : Char) (value : JsString) :
    escaped (character :: value) =
      (if character = '\\' ∨ character = '"' then ['\\', character] else [character]) ++
        escaped value := by
  unfold escaped
  rw [List.flatMap_cons, List.flatMap_append]
  congr 1
  by_cases slash : character = '\\'
  · subst slash
    rfl
  · by_cases quote : character = '"'
    · subst quote
      rfl
    · simp [slash, quote]

private theorem length_le_escaped (value : JsString) : value.length ≤ (escaped value).length := by
  induction value with
  | nil => exact Nat.zero_le _
  | cons character value ih =>
      rw [escaped_cons, List.length_append, List.length_cons]
      split <;> simp only [List.length_cons, List.length_nil] <;> omega

/-- A text with nothing to escape stays as it is, any other becomes longer. -/
theorem escaped_eq_iff {value : JsString} : escaped value = value ↔ '"' ∉ value ∧ '\\' ∉ value := by
  induction value with
  | nil => simp [escaped]
  | cons character value ih =>
      rw [escaped_cons, List.mem_cons, List.mem_cons, not_or, not_or]
      split
      · next special =>
          constructor
          · intro same
            have lengths := congrArg List.length same
            have longer := length_le_escaped value
            simp only [List.length_append, List.length_cons, List.length_nil] at lengths
            omega
          · intro held
            obtain ⟨⟨quote, -⟩, slash, -⟩ := held
            rcases special with rfl | rfl
            · exact absurd rfl slash
            · exact absurd rfl quote
      · next plain =>
          rw [not_or] at plain
          rw [List.singleton_append, List.cons.injEq, ih]
          exact ⟨fun ⟨_, quote, slash⟩ => ⟨⟨Ne.symm plain.2, quote⟩, Ne.symm plain.1, slash⟩,
            fun ⟨⟨_, quote⟩, _, slash⟩ => ⟨rfl, quote, slash⟩⟩

theorem mem_of_mem_escaped {character : Char} {value : JsString} (inside : character ∈ escaped value) :
    character ∈ value ∨ character = '\\' := by
  induction value with
  | nil => cases inside
  | cons first value ih =>
      rw [escaped_cons] at inside
      rcases List.mem_append.mp inside with inside | inside
      · split at inside
        · rcases List.mem_cons.mp inside with slash | inside
          · exact .inr slash
          · exact .inl (List.mem_cons.mpr (.inl (List.mem_singleton.mp inside)))
        · exact .inl (List.mem_cons.mpr (.inl (List.mem_singleton.mp inside)))
      · exact (ih inside).imp_left (List.mem_cons_of_mem _)

/-! ## How the lines are read -/

/-- The section that a card without quotes is read as. -/
def sectionOf (tunnel : FormTunnel) : ConfigurationSection where
  alias_ := utf8 tunnel.alias_
  assignments :=
    [(ascii "mode", utf8 tunnel.mode), (ascii "udp_interface", utf8 (escaped tunnel.udp_interface))] ++
    if tunnel.mode = js "client" then
      [(ascii "udp_group", utf8 tunnel.udp_group), (ascii "tcp_server", utf8 tunnel.tcp_server)]
    else
      (ascii "tcp_listen_port", utf8 tunnel.tcp_listen_port) ::
        if tunnel.udp_destination.isEmpty then []
        else [(ascii "udp_destination", utf8 tunnel.udp_destination)]

def entriesOf (tunnel : FormTunnel) : List ConfigurationLine :=
  .blank :: .header (utf8 tunnel.alias_) ::
    (sectionOf tunnel).assignments.map fun (key, value) => .assignment key value

private theorem add_assignments {outline : ConfigurationOutline} {active : ConfigurationSection}
    {earlier : List ConfigurationSection} (opened : outline.sections = active :: earlier)
    (assignments : List (Text × Text)) :
    (assignments.map fun (key, value) => ConfigurationLine.assignment key value).foldl
        ConfigurationOutline.add outline =
      { outline with sections :=
          { active with assignments := active.assignments ++ assignments } :: earlier } := by
  induction assignments generalizing outline active with
  | nil => simp [← opened]
  | cons assignment assignments ih =>
      rw [List.map_cons, List.foldl_cons]
      have added : outline.add (.assignment assignment.1 assignment.2) = { outline with sections :=
          { active with assignments := active.assignments ++ [assignment] } :: earlier } := by
        simp [ConfigurationOutline.add, opened]
      have rest := @ih { outline with sections :=
        { active with assignments := active.assignments ++ [assignment] } :: earlier } _ rfl
      rw [added, rest]
      simp

private theorem add_entriesOf (outline : ConfigurationOutline) (tunnel : FormTunnel) :
    (entriesOf tunnel).foldl ConfigurationOutline.add outline =
      { outline with sections := sectionOf tunnel :: outline.sections } := by
  have opened := @add_assignments (outline.add (.header (utf8 tunnel.alias_))) _ _ rfl
    (sectionOf tunnel).assignments
  rw [entriesOf, List.foldl_cons, List.foldl_cons]
  exact opened

private theorem add_entries (outline : ConfigurationOutline) (tunnels : List FormTunnel) :
    (tunnels.flatMap entriesOf).foldl ConfigurationOutline.add outline =
      { outline with sections := (tunnels.map sectionOf).reverse ++ outline.sections } := by
  induction tunnels generalizing outline with
  | nil => rfl
  | cons tunnel tunnels ih =>
      rw [List.flatMap_cons, List.foldl_append, add_entriesOf, ih]
      simp

/-- What the regular expression of the aliases and the check of the service agree on. -/
theorem isAlias_utf8 {value : JsString} (matched : matchesAlias value = true) (short : value.length ≤ 64) :
    isAlias (utf8 value) = true := by
  simp only [matchesAlias, Bool.and_eq_true, List.all_eq_true, Bool.not_eq_true',
    List.isEmpty_eq_false_iff] at matched
  have accepted := fun character inside => Script.isalnum_of_isAliasCharacter (matched.2 character inside)
  rw [utf8_ascii fun character inside => (accepted character inside).1]
  simp only [isAlias, Bool.and_eq_true, List.all_eq_true, Bool.not_eq_true', List.isEmpty_eq_false_iff,
    decide_eq_true_eq, List.length_map, ne_eq, List.map_eq_nil_iff]
  refine ⟨⟨matched.1, short⟩, fun byte inside => ?_⟩
  obtain ⟨character, listed, rfl⟩ := List.mem_map.mp inside
  exact (accepted character listed).2

/-- Nothing in an endpoint is escaped, and it stays on its line. -/
theorem plain_of_isEndpoint {value : JsString} {address : Text} {port : UInt16}
    (endpoint : FormTunnel.IsEndpoint value address port) :
    ∀ character ∈ value, character ≠ '"' ∧ character ≠ '\\' ∧ character ≠ '\n' := by
  obtain ⟨ip, digits, rfl, rfl, accepted, visible, -, decimal, -⟩ := endpoint
  have ascii : ∀ character : Char, character.toNat < 128 → character ∈ ip →
      isdigit (codeByte character) = true ∨ codeByte character = byteOf '.' := by
    intro character small inside
    have listed := (codeByte_mem_utf8 small).mpr inside
    rw [← c_str_of_visible visible] at listed
    exact isdigit_or_dot_of_inet_pton accepted listed
  intro character inside
  rcases List.mem_append.mp inside with inside | inside
  · refine ⟨?_, ?_, ?_⟩
    all_goals
      intro same
      subst same
      have here := ascii _ (by decide) inside
      revert here
      decide
  · rcases List.mem_cons.mp inside with rfl | inside
    · decide
    · have digit := List.all_eq_true.mp decimal character inside
      refine ⟨?_, ?_, ?_⟩
      all_goals
        intro same
        subst same
        revert digit
        decide

private theorem read_field {key : Text} {front value : JsString} (name : IsName key)
    (written : utf8 front = key ++ ascii " = ") (unquoted : '"' ∉ value) :
    ConfigurationLine.read (utf8 (front ++ tomlValue value)) =
      some (.assignment key (utf8 (escaped value))) := by
  have clean : byteOf '"' ∉ utf8 (escaped value) := by
    intro inside
    have quote := (codeByte_mem_utf8 (by decide : '"'.toNat < 128)).mp inside
    rcases mem_of_mem_escaped quote with inside | slash
    · exact unquoted inside
    · exact absurd slash (by decide)
  rw [utf8_append, written, utf8_tomlValue]
  exact ConfigurationLine.read_quoted name clean

private theorem read_plainField {key : Text} {front value : JsString} (name : IsName key)
    (written : utf8 front = key ++ ascii " = ")
    (plain : ∀ character ∈ value, character ≠ '"' ∧ character ≠ '\\' ∧ character ≠ '\n') :
    ConfigurationLine.read (utf8 (front ++ tomlValue value)) = some (.assignment key (utf8 value)) := by
  have unquoted : '"' ∉ value := fun inside => (plain _ inside).1 rfl
  have unescaped : '\\' ∉ value := fun inside => (plain _ inside).2.1 rfl
  rw [read_field name written unquoted, escaped_eq_iff.mpr ⟨unquoted, unescaped⟩]

private theorem read_tunnelLines {interfaces : List Interface} {tunnel : FormTunnel}
    (valid : tunnel.Valid interfaces) (matched : matchesAlias tunnel.alias_ = true)
    (mode : tunnel.mode = js "client" ∨ tunnel.mode = js "server") (unquoted : '"' ∉ tunnel.udp_interface) :
    ((tunnelLines tunnel).map utf8).mapM ConfigurationLine.read = some (entriesOf tunnel) := by
  have blank : ConfigurationLine.read (utf8 []) = some .blank := by decide
  have header : ConfigurationLine.read (utf8 (js "[tunnels." ++ tunnel.alias_ ++ js "]")) =
      some (.header (utf8 tunnel.alias_)) := by
    rw [utf8_append, utf8_append]
    exact ConfigurationLine.read_bracketed (isAlias_utf8 matched valid.alias_)
  have interface := @read_field (ascii "udp_interface") (js "udp_interface = ") tunnel.udp_interface
    (by decide) (by decide) unquoted
  have modes : ConfigurationLine.read (utf8 (js "mode = " ++ tomlValue tunnel.mode)) =
      some (.assignment (ascii "mode") (utf8 tunnel.mode)) := by
    rcases mode with mode | mode <;> rw [mode] <;> decide
  have rest : ∀ (lines : List JsString) (assignments : List (Text × Text)),
      tunnelLines tunnel = [[], js "[tunnels." ++ tunnel.alias_ ++ js "]",
        js "mode = " ++ tomlValue tunnel.mode, js "udp_interface = " ++ tomlValue tunnel.udp_interface] ++
          lines →
      (sectionOf tunnel).assignments = [(ascii "mode", utf8 tunnel.mode),
        (ascii "udp_interface", utf8 (escaped tunnel.udp_interface))] ++ assignments →
      (lines.map utf8).mapM ConfigurationLine.read =
        some (assignments.map fun (key, value) => .assignment key value) →
      ((tunnelLines tunnel).map utf8).mapM ConfigurationLine.read = some (entriesOf tunnel) := by
    intro lines assignments written assigned read
    rw [written, entriesOf, assigned]
    exact mapM_cons_of_eq_some blank (mapM_cons_of_eq_some header
      (mapM_cons_of_eq_some modes (mapM_cons_of_eq_some interface read)))
  rcases mode with mode | mode
  · obtain ⟨⟨_, _, group⟩, _, _, server⟩ := valid.client mode
    apply rest _ _ (by rw [tunnelLines, if_pos mode]) (by simp only [sectionOf, if_pos mode]; rfl)
    exact mapM_cons_of_eq_some (read_plainField (by decide) (by decide) (plain_of_isEndpoint group))
      (mapM_cons_of_eq_some (read_plainField (by decide) (by decide) (plain_of_isEndpoint server)) rfl)
  · have client : tunnel.mode ≠ js "client" := by rw [mode]; decide
    obtain ⟨⟨_, nonempty, decimal, -⟩, destination⟩ := valid.server mode
    have port : ConfigurationLine.read (utf8 (js "tcp_listen_port = " ++ tunnel.tcp_listen_port)) =
        some (.assignment (ascii "tcp_listen_port") (utf8 tunnel.tcp_listen_port)) := by
      have front : utf8 (js "tcp_listen_port = ") = ascii "tcp_listen_port" ++ ascii " = " := by decide
      rw [utf8_append, front]
      exact ConfigurationLine.read_digits (by decide) (utf8_ne_nil nonempty) (Script.isdigit_utf8 decimal)
    apply rest _ _ (by rw [tunnelLines, if_neg client]) (by simp only [sectionOf, if_neg client]; rfl)
    apply mapM_cons_of_eq_some port
    cases empty : tunnel.udp_destination.isEmpty with
    | true => rfl
    | false =>
        have plain : ∀ character ∈ tunnel.udp_destination,
            character ≠ '"' ∧ character ≠ '\\' ∧ character ≠ '\n' := by
          rcases destination with absent | replicate | ⟨_, _, endpoint⟩
          · simp [absent] at empty
          · rw [replicate]
            simp [js]
          · exact plain_of_isEndpoint endpoint
        exact mapM_cons_of_eq_some
          (@read_plainField (ascii "udp_destination") _ _ (by decide) (by decide) plain) rfl

/-! ## The whole text -/

theorem intercalate_concat {line : JsString} {lines : List JsString} :
    ['\n'].intercalate (line :: lines) ++ js "\n" = (line :: lines).flatMap (· ++ ['\n']) := by
  induction lines generalizing line with
  | nil => simp [js]
  | cons next lines ih =>
      rw [List.intercalate_cons_cons, List.append_assoc, ih, List.flatMap_cons]
      simp

theorem validateFormTunnels_eq_ok {aliases : List JsString} {tunnels : List FormTunnel}
    (validated : validateFormTunnels aliases tunnels = .ok ()) :
    (∀ tunnel ∈ tunnels, matchesAlias tunnel.alias_ = true ∧
      (tunnel.mode = js "client" ∨ tunnel.mode = js "server") ∧ tunnel.udp_interface ≠ [] ∧
      tunnel.alias_ ∉ aliases) ∧ (tunnels.map (·.alias_)).Nodup := by
  induction tunnels generalizing aliases with
  | nil => simp
  | cons tunnel tunnels ih =>
      obtain ⟨⟨⟩, here, later⟩ := except_bind_eq_ok.mp validated
      obtain ⟨each, distinct⟩ := ih later
      unfold validateFormTunnel at here
      split_ifs at here with malformed duplicated unmoded faceless endpoints port destination
      have facts : matchesAlias tunnel.alias_ = true ∧
          (tunnel.mode = js "client" ∨ tunnel.mode = js "server") ∧ tunnel.udp_interface ≠ [] ∧
          tunnel.alias_ ∉ aliases := by
        refine ⟨by simpa using malformed, ?_, by simpa using faceless, by simpa using duplicated⟩
        by_contra other
        exact unmoded (not_or.mp other)
      constructor
      · intro other inside
        rcases List.mem_cons.mp inside with rfl | inside
        · exact facts
        · obtain ⟨matched, mode, interface, fresh⟩ := each other inside
          exact ⟨matched, mode, interface, fun listed => fresh (List.mem_cons_of_mem _ listed)⟩
      · rw [List.map_cons, List.nodup_cons]
        refine ⟨fun listed => ?_, distinct⟩
        obtain ⟨other, inside, same⟩ := List.mem_map.mp listed
        exact (each other inside).2.2.2 (List.mem_cons.mpr (.inl same))

private theorem newline_tomlValue {value : JsString} (singleLine : '\n' ∉ value) : '\n' ∉ tomlValue value := by
  have layout : tomlValue value = '"' :: escaped value ++ ['"'] := rfl
  rw [layout]
  simp only [List.cons_append, List.mem_cons, List.mem_append, List.not_mem_nil, or_false, not_or]
  refine ⟨by decide, fun inside => ?_, by decide⟩
  rcases mem_of_mem_escaped inside with inside | slash
  · exact singleLine inside
  · exact absurd slash (by decide)

private theorem newline_tunnelLines {interfaces : List Interface} {tunnel : FormTunnel}
    (valid : tunnel.Valid interfaces) (matched : matchesAlias tunnel.alias_ = true)
    (mode : tunnel.mode = js "client" ∨ tunnel.mode = js "server") :
    ∀ line ∈ tunnelLines tunnel, '\n' ∉ line := by
  have field : ∀ (front : String) (value : JsString), '\n' ∉ js front → '\n' ∉ value →
      '\n' ∉ js front ++ tomlValue value := by
    intro front value first last inside
    exact (List.mem_append.mp inside).elim first (newline_tomlValue last)
  have endpoint : ∀ {value : JsString} {address : Text} {port : UInt16},
      FormTunnel.IsEndpoint value address port → '\n' ∉ value :=
    fun accepted inside => (plain_of_isEndpoint accepted _ inside).2.2 rfl
  have header : '\n' ∉ js "[tunnels." ++ tunnel.alias_ ++ js "]" := by
    simp only [List.mem_append, not_or]
    refine ⟨⟨by decide, fun inside => ?_⟩, by decide⟩
    simp only [matchesAlias, Bool.and_eq_true, List.all_eq_true] at matched
    exact absurd (matched.2 _ inside) (by decide)
  have modes : '\n' ∉ tunnel.mode := by
    rcases mode with mode | mode <;> rw [mode] <;> decide
  have opened : ∀ line ∈ [[], js "[tunnels." ++ tunnel.alias_ ++ js "]",
      js "mode = " ++ tomlValue tunnel.mode, js "udp_interface = " ++ tomlValue tunnel.udp_interface],
      '\n' ∉ line := by
    simp only [List.forall_mem_cons]
    exact ⟨List.not_mem_nil, header, field "mode = " _ (by decide) modes,
      field "udp_interface = " _ (by decide) valid.singleLine, by simp⟩
  intro line inside
  rcases List.mem_append.mp inside with inside | inside
  · exact opened line inside
  · rcases mode with mode | mode
    · obtain ⟨⟨_, _, group⟩, _, _, server⟩ := valid.client mode
      rw [if_pos mode] at inside
      rcases List.mem_cons.mp inside with rfl | inside
      · exact field "udp_group = " _ (by decide) (endpoint group)
      · rw [List.mem_singleton.mp inside]
        exact field "tcp_server = " _ (by decide) (endpoint server)
    · have client : tunnel.mode ≠ js "client" := by rw [mode]; decide
      obtain ⟨⟨_, nonempty, decimal, -⟩, destination⟩ := valid.server mode
      rw [if_neg client] at inside
      rcases List.mem_cons.mp inside with rfl | inside
      · intro newline
        rcases List.mem_append.mp newline with newline | newline
        · revert newline
          decide
        · exact absurd (List.all_eq_true.mp decimal _ newline) (by decide)
      · split at inside
        · cases inside
        · next given =>
            rw [List.mem_singleton.mp inside]
            apply field "udp_destination = " _ (by decide)
            rcases destination with absent | replicate | ⟨_, _, accepted⟩
            · rw [absent]
              exact List.not_mem_nil
            · rw [replicate]
              decide
            · exact endpoint accepted

/-- The outline of the text that cards without quotes are written as. -/
theorem read_written {interfaces : List Interface} {tunnels : List FormTunnel} {text : JsString}
    (valid : ∀ tunnel ∈ tunnels, tunnel.Valid interfaces)
    (written : serializeFormTunnels tunnels = .ok text)
    (unquoted : ∀ tunnel ∈ tunnels, '"' ∉ tunnel.udp_interface) :
    ConfigurationOutline.read (utf8 text) =
      some ⟨[(ascii "version", ascii "1")], (tunnels.map sectionOf).reverse⟩ := by
  obtain ⟨⟨⟩, validated, same⟩ := except_bind_eq_ok.mp written
  obtain ⟨each, -⟩ := validateFormTunnels_eq_ok validated
  cases same
  have version : ConfigurationLine.read (utf8 (js "version = 1")) =
      some (.assignment (ascii "version") (ascii "1")) := by decide
  have lines : getlines (utf8 (['\n'].intercalate (js "version = 1" :: tunnels.flatMap tunnelLines) ++
      js "\n")) = (js "version = 1" :: tunnels.flatMap tunnelLines).map utf8 := by
    have bytes : utf8 ((js "version = 1" :: tunnels.flatMap tunnelLines).flatMap (· ++ ['\n'])) =
        ((js "version = 1" :: tunnels.flatMap tunnelLines).map utf8).flatMap (· ++ [byteOf '\n']) := by
      rw [utf8_flatMap, List.flatMap_map]
      congr 1
      funext line
      exact utf8_append line ['\n']
    rw [intercalate_concat, bytes]
    apply getlines_flatMap
    intro line inside newline
    obtain ⟨characters, listed, rfl⟩ := List.mem_map.mp inside
    have here := (codeByte_mem_utf8 (by decide : '\n'.toNat < 128)).mp newline
    rcases List.mem_cons.mp listed with rfl | listed
    · revert here
      decide
    · obtain ⟨tunnel, card, listed⟩ := List.mem_flatMap.mp listed
      exact newline_tunnelLines (valid tunnel card) (each tunnel card).1 (each tunnel card).2.1 _ listed here
  have cards : ∀ cards ⊆ tunnels, ((cards.flatMap tunnelLines).map utf8).mapM ConfigurationLine.read =
      some (cards.flatMap entriesOf) := by
    intro cards listed
    induction cards with
    | nil => rfl
    | cons card cards ih =>
        have here := listed (List.mem_cons_self ..)
        obtain ⟨matched, mode, -⟩ := each card here
        rw [List.flatMap_cons, List.map_append, List.flatMap_cons]
        exact mapM_append_eq_some (read_tunnelLines (valid card here) matched mode (unquoted card here))
          (ih fun other inside => listed (List.mem_cons_of_mem _ inside))
  rw [ConfigurationOutline.read, lines, List.map_cons,
    mapM_cons_of_eq_some version (cards tunnels (List.Subset.refl _)), Option.map_some, List.foldl_cons,
    add_entries]
  simp [ConfigurationOutline.add]

/-! ## What the sections make -/

private theorem parsePort_of_isPort {digits : JsString} {port : UInt16} {name : Text}
    (accepted : FormTunnel.IsPort digits port) : parsePort (utf8 digits) name = .ok port := by
  obtain ⟨nonempty, decimal, value, positive⟩ := accepted
  have small : port.toNat < 65536 := port.toNat_lt
  have read := stoul_of_isdigit (utf8_ne_nil nonempty) (Script.isdigit_utf8 decimal)
    (by rw [value, unsignedLongBound]; omega)
  refine parsePort_eq_ok.mpr ⟨_, read, ?_, by omega, by rw [value]; exact UInt16.ofNat_toNat⟩
  rw [value]
  exact fun zero => positive (UInt16.toNat_inj.mp zero)

private theorem parseEndpoint_of_isEndpoint {value : JsString} {address : Text} {port : UInt16} {name : Text}
    (endpoint : FormTunnel.IsEndpoint value address port) :
    parseEndpoint (utf8 value) name = .ok (address, port) := by
  obtain ⟨ip, digits, rfl, rfl, accepted, visible, decimal⟩ := endpoint
  have layout : utf8 (ip ++ ':' :: digits) = utf8 ip ++ byteOf ':' :: utf8 digits := by
    rw [utf8_append, utf8_cons, utf8EncodeChar_ascii (by decide)]
    rfl
  have clean : byteOf ':' ∉ utf8 digits := by
    intro inside
    exact (isdigit_apart (Script.isdigit_utf8 decimal.2.1 _ inside)).2.2.2.1 rfl
  exact parseEndpoint_eq_ok.mpr ⟨_, layout, clean, accepted, parsePort_of_isPort decimal⟩

private theorem once_sectionOf (tunnel : FormTunnel) :
    ((sectionOf tunnel).assignments.map Prod.fst).Nodup := by
  unfold sectionOf
  dsimp only
  split
  · simp only [List.map_append, List.map_cons, List.map_nil]
    decide
  · split <;> simp only [List.map_append, List.map_cons, List.map_nil] <;> decide

private theorem allowed_sectionOf {tunnel : FormTunnel} {key : Text}
    (inside : key ∈ fieldsOf (sectionOf tunnel).assignments) : key ∈ allowed_fields := by
  have known : ∀ key ∈ (sectionOf tunnel).assignments.map Prod.fst, key ∈ allowed_fields := by
    unfold sectionOf
    dsimp only
    split
    · simp only [List.map_append, List.map_cons, List.map_nil]
      decide
    · split <;> simp only [List.map_append, List.map_cons, List.map_nil] <;> decide
  exact known key (mem_fieldsOf.mp inside)

private theorem assigned_sectionOf {tunnel : FormTunnel} {key value : Text}
    (listed : (key, value) ∈ (sectionOf tunnel).assignments) :
    (fieldsOf (sectionOf tunnel).assignments)[key]? = some value :=
  (getElem?_fieldsOf (once_sectionOf tunnel)).mpr listed

private theorem mode_sectionOf (tunnel : FormTunnel) :
    (fieldsOf (sectionOf tunnel).assignments)[ascii "mode"]? = some (utf8 tunnel.mode) :=
  assigned_sectionOf (by simp [sectionOf])

section Made

variable {interfaces : List Interface} {tunnel : FormTunnel} {config : Config}

private theorem client_sectionOf (valid : tunnel.Valid interfaces) (mode : tunnel.mode = js "client")
    (interface : config.udp_iface_reference_ = utf8 tunnel.udp_interface) :
    ∃ made, Configures (fieldsOf (sectionOf tunnel).assignments) config made ∧
      tunnel.Means ⟨(sectionOf tunnel).alias_, made⟩ := by
  obtain ⟨⟨group, groupPort, groupEndpoint⟩, server, serverPort, serverEndpoint⟩ := valid.client mode
  have assignments : (sectionOf tunnel).assignments = [(ascii "mode", utf8 tunnel.mode),
      (ascii "udp_interface", utf8 (escaped tunnel.udp_interface)),
      (ascii "udp_group", utf8 tunnel.udp_group), (ascii "tcp_server", utf8 tunnel.tcp_server)] := by
    simp only [sectionOf, if_pos mode]
    rfl
  have absent : ∀ {key : Text}, key ∉ [ascii "mode", ascii "udp_interface", ascii "udp_group",
      ascii "tcp_server"] → key ∉ fieldsOf (sectionOf tunnel).assignments := by
    intro key missing inside
    have listed := mem_fieldsOf.mp inside
    rw [assignments] at listed
    exact missing listed
  have client := mode_sectionOf tunnel
  rw [mode, show utf8 (js "client") = ascii "client" by decide] at client
  refine ⟨_, .client client (absent (by decide)) (absent (by decide))
    ⟨_, assigned_sectionOf (by simp [assignments]), parseEndpoint_of_isEndpoint serverEndpoint⟩
    ⟨_, assigned_sectionOf (by simp [assignments]), parseEndpoint_of_isEndpoint groupEndpoint⟩, ?_⟩
  exact {
    alias_ := rfl
    mode := iff_of_true rfl mode
    interface := interface
    client := fun _ => ⟨groupEndpoint, serverEndpoint⟩
    server := fun server => absurd (mode.symm.trans server) (by decide) }

private theorem mem_serverSection {key : Text} (mode : tunnel.mode = js "server")
    (inside : key ∈ fieldsOf (sectionOf tunnel).assignments) :
    key ∈ [ascii "mode", ascii "udp_interface", ascii "tcp_listen_port"] ∨
      key = ascii "udp_destination" ∧ tunnel.udp_destination ≠ [] := by
  have client : tunnel.mode ≠ js "client" := by rw [mode]; decide
  have listed := mem_fieldsOf.mp inside
  simp only [sectionOf, if_neg client] at listed
  split at listed
  · exact .inl listed
  · next given =>
      have split : key ∈ [ascii "mode", ascii "udp_interface", ascii "tcp_listen_port"] ++
        [ascii "udp_destination"] := listed
      rcases List.mem_append.mp split with common | destination
      · exact .inl common
      · exact .inr ⟨List.mem_singleton.mp destination, by simpa using given⟩

private theorem destination_sectionOf (mode : tunnel.mode = js "server") (given : tunnel.udp_destination ≠ []) :
    (fieldsOf (sectionOf tunnel).assignments)[ascii "udp_destination"]? =
      some (utf8 tunnel.udp_destination) := by
  have client : tunnel.mode ≠ js "client" := by rw [mode]; decide
  exact assigned_sectionOf (by simp [sectionOf, client, given])

private theorem server_sectionOf (valid : tunnel.Valid interfaces) (mode : tunnel.mode = js "server")
    (interface : config.udp_iface_reference_ = utf8 tunnel.udp_interface) :
    ∃ made, Configures (fieldsOf (sectionOf tunnel).assignments) config made ∧
      tunnel.Means ⟨(sectionOf tunnel).alias_, made⟩ := by
  obtain ⟨⟨port, accepted⟩, destination⟩ := valid.server mode
  have client : tunnel.mode ≠ js "client" := by rw [mode]; decide
  have server := mode_sectionOf tunnel
  rw [mode, show utf8 (js "server") = ascii "server" by decide] at server
  have absent : ∀ {key : Text}, key ∉ [ascii "mode", ascii "udp_interface", ascii "tcp_listen_port",
      ascii "udp_destination"] → key ∉ fieldsOf (sectionOf tunnel).assignments := by
    intro key missing inside
    rcases mem_serverSection mode inside with common | ⟨rfl, -⟩
    · exact missing (List.mem_append_left [ascii "udp_destination"] common)
    · exact missing (by simp)
  have listens := @assigned_sectionOf tunnel (ascii "tcp_listen_port") (utf8 tunnel.tcp_listen_port)
    (by simp [sectionOf, client])
  by_cases replicates : tunnel.udp_destination = [] ∨ tunnel.udp_destination = js "replicate_client"
  · have unassigned : ascii "udp_destination" ∉ fieldsOf (sectionOf tunnel).assignments ∨
        (fieldsOf (sectionOf tunnel).assignments)[ascii "udp_destination"]? =
          some kReplicateClientDestination := by
      rcases replicates with empty | replicate
      · left
        intro inside
        rcases mem_serverSection mode inside with common | ⟨-, given⟩
        · revert common
          decide
        · exact given empty
      · right
        have written := destination_sectionOf mode (by rw [replicate]; decide)
        rw [written, replicate]
        decide
    refine ⟨_, .replicating server (absent (by decide)) (absent (by decide)) listens
      (parsePort_of_isPort accepted) unassigned, ?_⟩
    exact {
      alias_ := rfl
      mode := iff_of_false Bool.false_ne_true client
      interface := interface
      client := fun same => absurd same client
      server := fun _ => ⟨accepted, iff_of_true rfl replicates, fun publishes => by cases publishes⟩ }
  · obtain ⟨empty, other⟩ := not_or.mp replicates
    obtain ⟨ip, udpPort, endpoint⟩ := (destination.resolve_left empty).resolve_left other
    have written : utf8 tunnel.udp_destination ≠ kReplicateClientDestination := by
      intro same
      have literal : kReplicateClientDestination = utf8 (js "replicate_client") := by decide
      exact other (utf8_injective (same.trans literal))
    have assigned := destination_sectionOf mode empty
    refine ⟨_, .publishing server (absent (by decide)) (absent (by decide)) listens
      (parsePort_of_isPort accepted)
      (fun same => written (Option.some.inj (assigned.symm.trans same)))
      ⟨_, assigned, parseEndpoint_of_isEndpoint endpoint⟩, ?_⟩
    exact {
      alias_ := rfl
      mode := iff_of_false Bool.false_ne_true client
      interface := interface
      client := fun same => absurd same client
      server := fun _ => ⟨accepted, iff_of_false Bool.false_ne_true replicates, fun _ => endpoint⟩ }

/-- A card whose interface needs no escapes makes its tunnel. -/
theorem makeTunnel_sectionOf (valid : tunnel.Valid interfaces)
    (mode : tunnel.mode = js "client" ∨ tunnel.mode = js "server")
    (named : tunnel.udp_interface ≠ []) (plain : escaped tunnel.udp_interface = tunnel.udp_interface) :
    ∃ made, makeTunnel interfaces (sectionOf tunnel).alias_ (fieldsOf (sectionOf tunnel).assignments) =
      .ok made ∧ tunnel.Means made := by
  obtain ⟨address, resolves, present⟩ := valid.resolves
  have interface := @assigned_sectionOf tunnel (ascii "udp_interface") (utf8 tunnel.udp_interface)
    (by simp [sectionOf, plain])
  have configured : ∃ made, Configures (fieldsOf (sectionOf tunnel).assignments)
      { udp_iface_reference_ := utf8 tunnel.udp_interface, udp_iface_ip_ := address } made ∧
      tunnel.Means ⟨(sectionOf tunnel).alias_, made⟩ := by
    rcases mode with client | server
    · exact client_sectionOf valid client rfl
    · exact server_sectionOf valid server rfl
  obtain ⟨made, configures, means⟩ := configured
  refine ⟨⟨(sectionOf tunnel).alias_, made⟩, makeTunnel_eq_ok.mpr ?_, means⟩
  exact ⟨fun key inside => allowed_sectionOf inside, rfl, utf8 tunnel.udp_interface, address,
    interface, utf8_ne_nil named, resolves, present, configures⟩

end Made

/-! ## Back again -/

private theorem mem_sections {tunnels : List FormTunnel} {part : ConfigurationSection}
    (inside : part ∈ (tunnels.map sectionOf).reverse) : ∃ tunnel ∈ tunnels, sectionOf tunnel = part :=
  List.mem_map.mp (List.mem_reverse.mp inside)

private theorem legal_written {interfaces : List Interface} {tunnels : List FormTunnel}
    (valid : ∀ tunnel ∈ tunnels, tunnel.Valid interfaces)
    (validated : validateFormTunnels [] tunnels = .ok ()) :
    ConfigurationOutline.Legal
      ⟨[(ascii "version", ascii "1")], (tunnels.map sectionOf).reverse⟩ := by
  obtain ⟨each, distinct⟩ := validateFormTunnels_eq_ok validated
  have aliases : (tunnels.map sectionOf).reverse.map (·.alias_) =
      ((tunnels.map (·.alias_)).map utf8).reverse := by
    rw [List.map_reverse, List.map_map, List.map_map]
    rfl
  exact {
    preamble := .inr rfl
    named := by
      intro part inside
      obtain ⟨tunnel, listed, rfl⟩ := mem_sections inside
      exact isAlias_utf8 (each tunnel listed).1 (valid tunnel listed).alias_
    distinct := by
      show ((tunnels.map sectionOf).reverse.map (·.alias_)).Nodup
      rw [aliases, List.nodup_reverse]
      exact distinct.map fun _ _ => utf8_injective
    once := by
      intro part inside
      obtain ⟨tunnel, listed, rfl⟩ := mem_sections inside
      exact once_sectionOf tunnel }

theorem serializeFormTunnels_readBack_iff {interfaces : List Interface} {tunnels : List FormTunnel}
    {text : JsString} (valid : ∀ tunnel ∈ tunnels, tunnel.Valid interfaces)
    (written : serializeFormTunnels tunnels = .ok text) :
    ReadBack interfaces tunnels text ↔
      ∀ tunnel ∈ tunnels, '"' ∉ tunnel.udp_interface ∧ '\\' ∉ tunnel.udp_interface := by
  obtain ⟨⟨⟩, validated, -⟩ := except_bind_eq_ok.mp written
  obtain ⟨each, distinct⟩ := validateFormTunnels_eq_ok validated
  have legal := legal_written valid validated
  constructor
  · intro held
    obtain ⟨configuration, accepted, -, described, -⟩ := held
    obtain ⟨outline, meant, outlineLegal, -, makes⟩ :=
      ConfigurationOutline.parseConfiguration_iff.mp accepted
    have assigned : ∀ tunnel ∈ tunnels, ∃ part ∈ outline.sections, part.alias_ = utf8 tunnel.alias_ ∧
        (ascii "udp_interface", utf8 tunnel.udp_interface) ∈ part.assignments := by
      intro tunnel inside
      obtain ⟨named, listed, means⟩ := described tunnel inside
      obtain ⟨part, present, alias_, assigned⟩ := makes.interface outlineLegal listed
      rw [means.interface] at assigned
      exact ⟨part, present, alias_.trans means.alias_, assigned⟩
    have unquoted : ∀ tunnel ∈ tunnels, '"' ∉ tunnel.udp_interface := by
      intro tunnel inside quote
      obtain ⟨part, present, -, assigned⟩ := assigned tunnel inside
      exact ConfigurationOutline.unquoted_of_read meant part present _ assigned
        ((codeByte_mem_utf8 (by decide : '"'.toNat < 128)).mpr quote)
    cases meant.symm.trans (read_written valid written unquoted)
    intro tunnel inside
    obtain ⟨part, present, named, assigned⟩ := assigned tunnel inside
    obtain ⟨other, listed, rfl⟩ := mem_sections present
    have same : other = tunnel := List.inj_on_of_nodup_map distinct listed inside (utf8_injective named)
    subst same
    have twice : utf8 (escaped other.udp_interface) = utf8 other.udp_interface := by
      have first := (getElem?_fieldsOf (once_sectionOf other)).mpr assigned
      have second := (getElem?_fieldsOf (once_sectionOf other)).mpr (by simp [sectionOf] :
        (ascii "udp_interface", utf8 (escaped other.udp_interface)) ∈ (sectionOf other).assignments)
      exact Option.some.inj (second.symm.trans first)
    exact escaped_eq_iff.mp (utf8_injective twice)
  · intro plain
    have meant := read_written valid written fun tunnel inside => (plain tunnel inside).1
    have made : ∀ tunnel ∈ tunnels, ∃ made, makeTunnel interfaces (sectionOf tunnel).alias_
        (fieldsOf (sectionOf tunnel).assignments) = .ok made ∧ tunnel.Means made := by
      intro tunnel inside
      obtain ⟨-, mode, named, -⟩ := each tunnel inside
      exact makeTunnel_sectionOf (valid tunnel inside) mode named (escaped_eq_iff.mpr (plain tunnel inside))
    obtain ⟨configuration, configured⟩ := ConfigurationOutline.exists_makes legal fun part inside => by
      obtain ⟨tunnel, card, rfl⟩ := mem_sections inside
      obtain ⟨result, makes, -⟩ := made tunnel card
      exact ⟨result, makes⟩
    have accepted := ConfigurationOutline.parseConfiguration_iff.mpr ⟨_, meant, legal, rfl, configured⟩
    refine ⟨configuration, accepted, (wellFormed_of_made legal rfl configured).ascending, ?_, ?_⟩
    · intro tunnel inside
      have present : sectionOf tunnel ∈ (tunnels.map sectionOf).reverse :=
        List.mem_reverse.mpr (List.mem_map_of_mem inside)
      obtain ⟨result, listed, makes⟩ := configured.tunnel legal present
      obtain ⟨expected, makesExpected, means⟩ := made tunnel inside
      cases makes.symm.trans makesExpected
      exact ⟨result, listed, means⟩
    · intro result listed
      obtain ⟨part, inside, makes⟩ := configured.section legal listed
      obtain ⟨tunnel, card, rfl⟩ := mem_sections inside
      obtain ⟨expected, makesExpected, means⟩ := made tunnel card
      cases makes.symm.trans makesExpected
      exact ⟨tunnel, card, means⟩

def slashedInterfaces : List Interface := [⟨ascii "lan\\1", ascii "192.168.1.5"⟩]

def slashedCard : FormTunnel where
  alias_ := js "lan"
  mode := js "server"
  udp_interface := js "lan\\1"
  udp_group := []
  tcp_server := []
  tcp_listen_port := js "14052"
  udp_destination := []

private theorem listenPort_valid : FormTunnel.IsPort (js "14052") 14052 := by decide

private theorem slashedCard_valid : slashedCard.Valid slashedInterfaces where
  alias_ := by decide
  singleLine := by decide
  resolves := ⟨ascii "192.168.1.5", by decide, by decide⟩
  client := fun client => absurd client (by decide)
  server := fun _ => ⟨⟨14052, listenPort_valid⟩, .inl rfl⟩

theorem slashedCard_lost : (∀ tunnel ∈ [slashedCard], tunnel.Valid slashedInterfaces) ∧
    ∃ text, serializeFormTunnels [slashedCard] = .ok text ∧
      parseConfiguration slashedInterfaces (utf8 text) = .error (ascii
        "tunnel 'lan' has an invalid udp_interface; use a local interface name or IPv4 address") ∧
      ¬ ReadBack slashedInterfaces [slashedCard] text := by
  have written : serializeFormTunnels [slashedCard] = .ok (js ("version = 1\n\n[tunnels.lan]\n" ++
      "mode = \"server\"\nudp_interface = \"lan\\\\1\"\ntcp_listen_port = 14052\n")) := by decide
  have refused : parseConfiguration slashedInterfaces (utf8 (js ("version = 1\n\n[tunnels.lan]\n" ++
      "mode = \"server\"\nudp_interface = \"lan\\\\1\"\ntcp_listen_port = 14052\n"))) = .error (ascii
        "tunnel 'lan' has an invalid udp_interface; use a local interface name or IPv4 address") := by
    decide
  refine ⟨by simpa using slashedCard_valid, _, written, refused, ?_⟩
  intro held
  obtain ⟨configuration, accepted, -⟩ := held
  cases refused.symm.trans accepted

def plainCards : List FormTunnel :=
  [⟨js "b", js "server", js "127.0.0.1", [], [], js "14052", []⟩,
    ⟨js "a", js "client", js "127.0.0.1", js "239.1.2.3:5000", js "127.0.0.1:14052", [], []⟩]

private theorem plainCards_valid : ∀ tunnel ∈ plainCards, tunnel.Valid [] := by
  have loopback : ∃ address, resolveInterfaceIpv4 [] (utf8 (js "127.0.0.1")) = some address ∧
      address ≠ [] := ⟨ascii "127.0.0.1", by decide, by decide⟩
  have group : FormTunnel.IsEndpoint (js "239.1.2.3:5000") (ascii "239.1.2.3") 5000 :=
    ⟨js "239.1.2.3", js "5000", by decide⟩
  have server : FormTunnel.IsEndpoint (js "127.0.0.1:14052") (ascii "127.0.0.1") 14052 :=
    ⟨js "127.0.0.1", js "14052", by decide⟩
  simp only [plainCards, List.forall_mem_cons]
  refine ⟨?_, ?_, by simp⟩
  · exact ⟨by decide, by decide, loopback, fun client => absurd client (by decide),
      fun _ => ⟨⟨14052, listenPort_valid⟩, .inl rfl⟩⟩
  · exact ⟨by decide, by decide, loopback, fun _ => ⟨⟨_, _, group⟩, _, _, server⟩,
      fun server => absurd server (by decide)⟩

theorem serializeFormTunnels_readBack_iff_plainCards : ∃ text,
    serializeFormTunnels plainCards = .ok text ∧ ReadBack [] plainCards text := by
  cases written : serializeFormTunnels plainCards with
  | error message =>
      have accepted : (serializeFormTunnels plainCards).isOk = true := by decide
      rw [written] at accepted
      cases accepted
  | ok text =>
      exact ⟨text, rfl, (serializeFormTunnels_readBack_iff plainCards_valid written).mpr (by decide)⟩

end ConfigurationForm

end DatagramTunneler
