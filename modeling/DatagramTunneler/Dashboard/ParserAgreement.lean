import DatagramTunneler.Configuration.WellFormed
import DatagramTunneler.Dashboard.LineAgreement

/-! Where the dashboard and the service understand a text alike. Both go through
the lines once; behind the same lines the sections of the one and the cards of the
other have the same headers and the same fields. What is left to differ is how a
single value is read. -/

set_option autoImplicit false

namespace DatagramTunneler

open Foundation

namespace TomlConfiguration

/-! ## Lines -/

private theorem splitLines_ne_nil (text : JsString) : splitLines text ≠ [] := by
  fun_cases splitLines text <;> simp

/-- The service's lines are the dashboard's, apart from carriage returns. -/
theorem lines_agree (toml : JsString) : ∃ raws : List JsString,
    splitOnByte (byteOf '\n') (utf8 toml) = raws.map utf8 ∧
      List.Forall₂ (fun raw line => raw = line ∨ raw = line ++ ['\r']) raws (splitLines toml) := by
  have newline : ∀ rest : JsString, splitOnByte (byteOf '\n') (utf8 ('\n' :: rest)) =
      [] :: splitOnByte (byteOf '\n') (utf8 rest) := fun rest => rfl
  have other : ∀ {character : Char} {rest raw : JsString} {raws : List JsString},
      character ≠ '\n' → splitOnByte (byteOf '\n') (utf8 rest) = (raw :: raws).map utf8 →
      splitOnByte (byteOf '\n') (utf8 (character :: rest)) = ((character :: raw) :: raws).map utf8 := by
    intro character rest raw raws plain split
    have clean : byteOf '\n' ∉ utf8 [character] :=
      (not_congr (codeByte_mem_utf8 (by decide))).mpr (by simpa using plain.symm)
    have bytes : ∀ tail : JsString, utf8 (character :: tail) = utf8 [character] ++ utf8 tail :=
      fun tail => utf8_append [character] tail
    rw [bytes rest, splitOnByte_prepend clean split, List.map_cons, bytes raw]
  fun_induction splitLines toml with
  | case1 => exact ⟨[[]], rfl, .cons (.inl rfl) .nil⟩
  | case2 rest ih =>
      obtain ⟨raws, split, same⟩ := ih
      have here : splitOnByte (byteOf '\n') (utf8 ('\n' :: rest)) = ([] :: raws).map utf8 := by
        rw [newline, split]
        rfl
      exact ⟨['\r'] :: raws, other (by decide) here, .cons (.inr rfl) same⟩
  | case3 rest ih =>
      obtain ⟨raws, split, same⟩ := ih
      refine ⟨[] :: raws, ?_, .cons (.inl rfl) same⟩
      rw [newline, split]
      rfl
  | case4 character rest windows plain empty ih =>
      exact absurd empty (splitLines_ne_nil rest)
  | case5 character rest windows plain line lines shape ih =>
      rw [shape] at ih
      obtain ⟨raws, split, same⟩ := ih
      cases same with
      | @cons raw _ raws _ here there =>
          refine ⟨(character :: raw) :: raws, other plain split, .cons ?_ there⟩
          exact here.imp (congrArg (character :: ·)) (congrArg (character :: ·))

theorem head?_of_matchField {line : JsString} {field : JsString × JsString}
    (matched : matchField line = some field) : ∃ first, line.head? = some first ∧
      isNameCharacter first = true := by
  obtain ⟨name, rawValue⟩ := field
  obtain ⟨inner, outer, text, nonempty, -, named, -⟩ := matchField_eq_some matched
  cases name with
  | nil => exact absurd rfl nonempty
  | cons first rest =>
      rw [text]
      exact ⟨first, rfl, named first (List.mem_cons_self ..)⟩

/-- What one pass of the dashboard's loop can do. -/
theorem readLine_cases {forms next : List TomlTunnel} {rawLine : JsString}
    (read : readLine forms rawLine = .ok next) :
    ((Script.trim rawLine = [] ∨ (Script.trim rawLine).head? = some '#') ∧
        matchField (Script.trim rawLine) = none ∧ next = forms) ∨
      (Script.trim rawLine = js "version = 1" ∧
        matchField (Script.trim rawLine) = some (js "version", js "1") ∧ next = forms) ∨
      (∃ alias_, matchHeader (Script.trim rawLine) = some alias_ ∧
        matchField (Script.trim rawLine) = none ∧ next = forms ++ [{ alias_ := alias_ }]) ∨
      ∃ field earlier tunnel assigned, matchField (Script.trim rawLine) = some field ∧
        forms = earlier ++ [tunnel] ∧ assign tunnel field.1 field.2 = .ok assigned ∧
        next = earlier ++ [assigned] := by
  have fieldless : ∀ {first : Char}, (Script.trim rawLine).head? = some first →
      isNameCharacter first = false → matchField (Script.trim rawLine) = none := by
    intro first head foreign
    apply Option.eq_none_iff_forall_ne_some.mpr
    intro field matched
    obtain ⟨other, named, accepted⟩ := head?_of_matchField matched
    rw [Option.some.inj (head.symm.trans named), accepted] at foreign
    cases foreign
  unfold readLine at read
  dsimp only at read
  split_ifs at read with skipped
  · cases read
    simp only [Bool.or_eq_true, List.isEmpty_iff, decide_eq_true_eq] at skipped
    rcases skipped with (empty | comment) | version
    · exact .inl ⟨.inl empty, by rw [empty]; rfl, rfl⟩
    · exact .inl ⟨.inr comment, fieldless comment (by decide), rfl⟩
    · exact .inr (.inl ⟨version, by rw [version]; decide, rfl⟩)
  · split at read
    · next alias_ matched =>
        cases read
        have head : (Script.trim rawLine).head? = some '[' := by
          rw [(matchHeader_eq_some matched).1]
          rfl
        exact .inr (.inr (.inl ⟨alias_, matched, fieldless head (by decide), rfl⟩))
    · split at read
      · next name rawValue tunnel matched last =>
          obtain ⟨assigned, accepted, same⟩ := except_bind_eq_ok.mp read
          cases same
          exact .inr (.inr (.inr ⟨(name, rawValue), forms.dropLast, tunnel, assigned, matched,
            (List.dropLast_append_getLast? _ last).symm, accepted, rfl⟩))
      · cases read

/-! ## Sections and cards -/

/-- A section assigns what no tunnel may have. -/
def Foreign (outline : ConfigurationOutline) : Prop :=
  ∃ part ∈ outline.sections, ∃ assignment ∈ part.assignments, assignment.1 ∉ allowed_fields

theorem Foreign.add {outline : ConfigurationOutline} (foreign : Foreign outline)
    (entry : ConfigurationLine) : Foreign (outline.add entry) := by
  obtain ⟨part, inside, assignment, assigned, unknown⟩ := foreign
  obtain ⟨preamble, sections⟩ := outline
  cases entry with
  | blank => exact ⟨part, inside, assignment, assigned, unknown⟩
  | header alias_ => exact ⟨part, List.mem_cons_of_mem _ inside, assignment, assigned, unknown⟩
  | assignment key value =>
      cases sections with
      | nil => cases inside
      | cons active earlier =>
          rcases List.mem_cons.mp inside with rfl | inside
          · exact ⟨_, List.mem_cons_self .., assignment, List.mem_append_left _ assigned, unknown⟩
          · exact ⟨part, List.mem_cons_of_mem _ inside, assignment, assigned, unknown⟩

private theorem foreign_of_assignment {preamble : List (Text × Text)} {active : ConfigurationSection}
    {earlier : List ConfigurationSection} {key value : Text} (unknown : key ∉ allowed_fields) :
    Foreign (ConfigurationOutline.add ⟨preamble, active :: earlier⟩ (.assignment key value)) :=
  ⟨_, List.mem_cons_self .., (key, value), List.mem_append_right _ (List.mem_singleton.mpr rfl), unknown⟩

/-- A card with its fields as they stand in the text. -/
structure RawCard where
  alias_ : JsString
  fields : List (JsString × JsString) := []

/-- The fields, assigned one after another, make the card that is shown. -/
def RawCard.Makes (card : RawCard) (form : TomlTunnel) : Prop :=
  card.fields.foldlM (fun tunnel field => assign tunnel field.1 field.2) { alias_ := card.alias_ } = .ok form

theorem RawCard.Makes.assign {card : RawCard} {form assigned : TomlTunnel} (makes : card.Makes form)
    {field : JsString × JsString} (accepted : assign form field.1 field.2 = .ok assigned) :
    RawCard.Makes { card with fields := card.fields ++ [field] } assigned := by
  unfold RawCard.Makes at makes ⊢
  rw [List.foldlM_append, makes]
  exact except_bind_eq_ok.mpr ⟨form, rfl, except_bind_eq_ok.mpr ⟨assigned, accepted, rfl⟩⟩

structure SameSection (part : ConfigurationSection) (card : RawCard) : Prop where
  alias_ : part.alias_ = utf8 card.alias_
  fields : List.Forall₂ SameField part.assignments card.fields

/-- Both readers behind the same lines, where `seen` are the fields in them. -/
structure Tracks (seen : List (JsString × JsString)) (outline : ConfigurationOutline)
    (forms : List TomlTunnel) (cards : List RawCard) : Prop where
  made : List.Forall₂ RawCard.Makes cards forms.reverse
  same : Foreign outline ∨ List.Forall₂ SameSection outline.sections cards
  kept : ∀ field ∈ seen, field = (js "version", js "1") ∨ ∃ card ∈ cards, field ∈ card.fields
  found : ∀ card ∈ cards, ∀ field ∈ card.fields, field ∈ seen

section Tracks

variable {seen : List (JsString × JsString)} {outline : ConfigurationOutline}
  {forms : List TomlTunnel} {cards : List RawCard}

/-- The version line is an assignment to the service, which no tunnel may have. -/
theorem Tracks.version (tracks : Tracks seen outline forms cards) {key value : Text}
    (unknown : key ∉ allowed_fields) :
    Tracks (seen ++ [(js "version", js "1")]) (outline.add (.assignment key value)) forms cards where
  made := tracks.made
  same := by
    obtain ⟨preamble, sections⟩ := outline
    cases sections with
    | nil => exact tracks.same.imp (fun foreign => foreign.add _) id
    | cons active earlier => exact .inl (foreign_of_assignment unknown)
  kept := by
    intro field inside
    rcases List.mem_append.mp inside with inside | here
    · exact tracks.kept field inside
    · exact .inl (List.mem_singleton.mp here)
  found := by
    intro card inside field listed
    exact List.mem_append_left _ (tracks.found card inside field listed)

theorem Tracks.header (tracks : Tracks seen outline forms cards) (alias_ : JsString) :
    Tracks seen (outline.add (.header (utf8 alias_))) (forms ++ [{ alias_ := alias_ }])
      (⟨alias_, []⟩ :: cards) where
  made := by
    rw [List.reverse_append]
    exact .cons rfl tracks.made
  same := tracks.same.imp (fun foreign => foreign.add _) fun same => .cons ⟨rfl, .nil⟩ same
  kept := by
    intro field inside
    apply (tracks.kept field inside).imp_right
    intro holder
    obtain ⟨card, inside, listed⟩ := holder
    exact ⟨card, List.mem_cons_of_mem _ inside, listed⟩
  found := by
    intro card inside field listed
    rcases List.mem_cons.mp inside with rfl | inside
    · cases listed
    · exact tracks.found card inside field listed

/-- A field goes to the open section and to the last card. -/
theorem Tracks.assign {earlier : List TomlTunnel} {tunnel assigned : TomlTunnel}
    (tracks : Tracks seen outline (earlier ++ [tunnel]) cards) {field : JsString × JsString}
    (accepted : assign tunnel field.1 field.2 = .ok assigned) {assignment : Text × Text}
    (same : assignment.1 ∈ allowed_fields → SameField assignment field) :
    ∃ cards, Tracks (seen ++ [field]) (outline.add (.assignment assignment.1 assignment.2))
      (earlier ++ [assigned]) cards := by
  obtain ⟨made, sections, kept, found⟩ := tracks
  rw [List.reverse_append] at made
  cases made with
  | @cons card _ others _ here there =>
      refine ⟨{ card with fields := card.fields ++ [field] } :: others, ?_⟩
      exact {
        made := by
          rw [List.reverse_append]
          exact .cons (here.assign accepted) there
        same := by
          rcases sections with foreign | sections
          · exact .inl (foreign.add _)
          · obtain ⟨preamble, parts⟩ := outline
            cases sections with
            | @cons active _ before _ alike rest =>
                by_cases allowed : assignment.1 ∈ allowed_fields
                · exact .inr (.cons ⟨alike.alias_,
                    List.rel_append alike.fields (.cons (same allowed) .nil)⟩ rest)
                · exact .inl (foreign_of_assignment allowed)
        kept := by
          intro other inside
          rcases List.mem_append.mp inside with inside | new
          · apply (kept other inside).imp_right
            intro listing
            obtain ⟨holder, inside, listed⟩ := listing
            rcases List.mem_cons.mp inside with rfl | inside
            · exact ⟨_, List.mem_cons_self .., List.mem_append_left _ listed⟩
            · exact ⟨holder, List.mem_cons_of_mem _ inside, listed⟩
          · rw [List.mem_singleton.mp new]
            exact .inr ⟨_, List.mem_cons_self .., List.mem_append_right _ (List.mem_singleton.mpr rfl)⟩
        found := by
          intro holder inside other listed
          rcases List.mem_cons.mp inside with rfl | inside
          · rcases List.mem_append.mp listed with listed | new
            · exact List.mem_append_left _ (found card (List.mem_cons_self ..) other listed)
            · exact List.mem_append_right _ new
          · exact List.mem_append_left _
              (found holder (List.mem_cons_of_mem _ inside) other listed) }

theorem Tracks.step {next : List TomlTunnel} (tracks : Tracks seen outline forms cards)
    {rawLine : JsString} {entry : ConfigurationLine} (read : readLine forms rawLine = .ok next)
    (meant : ConfigurationLine.read (utf8 rawLine) = some entry) :
    ∃ cards, Tracks (seen ++ (matchField (Script.trim rawLine)).toList) (outline.add entry) next cards := by
  rcases readLine_cases read with ⟨skipped, fieldless, rfl⟩ | ⟨version, field, rfl⟩ |
    ⟨alias_, matched, fieldless, rfl⟩ | ⟨field, earlier, tunnel, assigned, matched, rfl, accepted, rfl⟩
  · -- a blank line or a comment
    refine ⟨cards, ?_⟩
    rw [blank_of_skipped skipped meant, fieldless, Option.toList_none, List.append_nil]
    exact tracks
  · -- the version line
    obtain ⟨key, value, rfl, unknown⟩ := unallowed_of_version version meant
    rw [field]
    exact ⟨cards, tracks.version unknown⟩
  · -- a header
    cases header_of_read matched meant
    rw [fieldless, Option.toList_none, List.append_nil]
    exact ⟨_, tracks.header alias_⟩
  · -- a field of the open tunnel
    obtain ⟨assignment, rfl, same⟩ := field_of_read matched meant
    rw [matched]
    exact tracks.assign accepted same

end Tracks

/-- The fields of the lines. -/
def fieldsOfLines (lines : List JsString) : List (JsString × JsString) :=
  lines.filterMap fun line => matchField (Script.trim line)

theorem Tracks.run {seen : List (JsString × JsString)} {outline : ConfigurationOutline}
    {forms final : List TomlTunnel} {cards : List RawCard} (tracks : Tracks seen outline forms cards)
    {lines : List JsString} {entries : List ConfigurationLine}
    (read : lines.foldlM readLine forms = .ok final)
    (meant : (lines.map utf8).mapM ConfigurationLine.read = some entries) :
    ∃ cards, Tracks (seen ++ fieldsOfLines lines) (entries.foldl ConfigurationOutline.add outline)
      final cards := by
  induction lines generalizing seen outline forms cards entries with
  | nil =>
      cases read
      cases meant
      refine ⟨cards, ?_⟩
      rw [fieldsOfLines, List.filterMap_nil, List.append_nil]
      exact tracks
  | cons line lines ih =>
      obtain ⟨next, here, there⟩ := except_bind_eq_ok.mp read
      obtain ⟨entry, rest, entryRead, restRead, rfl⟩ := mapM_cons_eq_some.mp meant
      obtain ⟨cards, tracks⟩ := tracks.step here entryRead
      obtain ⟨cards, tracks⟩ := ih tracks there restRead
      refine ⟨cards, ?_⟩
      have split : fieldsOfLines (line :: lines) =
          (matchField (Script.trim line)).toList ++ fieldsOfLines lines := by
        unfold fieldsOfLines
        rw [List.filterMap_cons]
        cases matchField (Script.trim line) with
        | none => rfl
        | some field => rfl
      rw [split, ← List.append_assoc]
      exact tracks

end TomlConfiguration

/-! ## One card -/

/-- The fields that are quoted texts. -/
def textFields : List JsString :=
  [js "mode", js "udp_interface", js "udp_group", js "tcp_server", js "udp_destination"]

/-- `tunnel[name]` for one of these. -/
def TomlTunnel.text (tunnel : TomlTunnel) (name : JsString) : JsString :=
  if name = js "mode" then tunnel.mode
  else if name = js "udp_interface" then tunnel.udp_interface
  else if name = js "udp_group" then tunnel.udp_group
  else if name = js "tcp_server" then tunnel.tcp_server
  else if name = js "udp_destination" then tunnel.udp_destination
  else []

private theorem TomlTunnel.text_fresh (alias_ name : JsString) :
    ({ alias_ := alias_ } : TomlTunnel).text name = [] := by
  unfold TomlTunnel.text
  split_ifs <;> rfl

/-- A card shows what the service makes of a section; a field that is not set is
empty, and only a server listens. -/
structure TomlTunnel.Shows (form : TomlTunnel) (fields : TunnelFields) (tunnel : NamedTunnel) : Prop where
  texts : ∀ name ∈ textFields, fields.getD (utf8 name) [] = utf8 (form.text name)
  tcp_listen_port : form.tcp_listen_port =
    if tunnel.config.is_client_ then none else some (.finite tunnel.config.tcp_srv_port_.toNat)

namespace TomlConfiguration

/-- A value that both readers take as it is: a text without an escape, or digits. -/
def PlainValue (field : JsString × JsString) : Prop :=
  if field.1 = js "tcp_listen_port" then (Script.trim field.2).all Script.isDigit = true
  else escapes (contentOf field.2) = false

instance (field : JsString × JsString) : Decidable (PlainValue field) :=
  if port : field.1 = js "tcp_listen_port" then
    decidable_of_iff ((Script.trim field.2).all Script.isDigit = true) (by rw [PlainValue, if_pos port])
  else decidable_of_iff (escapes (contentOf field.2) = false) (by rw [PlainValue, if_neg port])

/-- The field has the value that the card shows. -/
def Shown (form : TomlTunnel) (field : JsString × JsString) : Prop :=
  if field.1 = js "tcp_listen_port" then
    form.tcp_listen_port = some (JsNumber.ofString (Script.trim field.2))
  else field.1 ∈ textFields ∧ tomlString field.2 = .ok (form.text field.1)

private theorem assign_eq_ok {tunnel next : TomlTunnel} {name rawValue : JsString}
    (assigned : assign tunnel name rawValue = .ok next) :
    Shown next (name, rawValue) ∧ next.alias_ = tunnel.alias_ ∧
      (∀ other, other ≠ name → next.text other = tunnel.text other) ∧
      (name ≠ js "tcp_listen_port" → next.tcp_listen_port = tunnel.tcp_listen_port) := by
  have apart : js "tcp_listen_port" ∉ textFields := by decide
  unfold assign at assigned
  split_ifs at assigned with port mode interface group server destination
  · cases assigned
    exact ⟨by rw [Shown, if_pos port], rfl, fun _ _ => rfl, fun other => absurd port other⟩
  all_goals
    first
    | cases assigned
    | obtain ⟨text, quoted, same⟩ := except_bind_eq_ok.mp assigned
      cases same
      subst name
      refine ⟨?_, rfl, fun other different => ?_, fun _ => rfl⟩
      · rw [Shown, if_neg port]
        refine ⟨?_, quoted⟩
        dsimp only
        decide
      · simp only [TomlTunnel.text, if_neg different]

/-- Where every name is assigned once, the card shows every field. -/
theorem shown_of_fold {fields : List (JsString × JsString)} {start form : TomlTunnel}
    (once : (fields.map Prod.fst).Nodup)
    (folded : fields.foldlM (fun tunnel field => assign tunnel field.1 field.2) start = .ok form) :
    (∀ field ∈ fields, Shown form field) ∧ form.alias_ = start.alias_ ∧
      (∀ name ∉ fields.map Prod.fst, form.text name = start.text name) ∧
      (js "tcp_listen_port" ∉ fields.map Prod.fst → form.tcp_listen_port = start.tcp_listen_port) := by
  induction fields generalizing start with
  | nil =>
      cases folded
      exact ⟨by simp, rfl, fun _ _ => rfl, fun _ => rfl⟩
  | cons field fields ih =>
      rw [List.map_cons, List.nodup_cons] at once
      obtain ⟨next, here, there⟩ := except_bind_eq_ok.mp folded
      obtain ⟨shown, named, texts, port⟩ := assign_eq_ok here
      obtain ⟨later, renamed, kept, listens⟩ := ih once.2 there
      refine ⟨?_, renamed.trans named, ?_, ?_⟩
      · intro other inside
        rcases List.mem_cons.mp inside with rfl | inside
        · unfold Shown at shown ⊢
          split_ifs at shown ⊢ with listen
          · rw [← shown]
            exact listens (listen ▸ once.1)
          · rw [kept _ once.1]
            exact shown
        · exact later other inside
      · intro name absent
        rw [List.map_cons, List.mem_cons, not_or] at absent
        rw [kept name absent.2, texts name absent.1]
      · intro absent
        rw [List.map_cons, List.mem_cons, not_or] at absent
        rw [listens absent.2, port (Ne.symm absent.1)]

namespace SameSection

variable {interfaces : List Interface} {part : ConfigurationSection} {card : RawCard}
  {form : TomlTunnel} {tunnel : NamedTunnel}

theorem names (same : SameSection part card) :
    part.assignments.map Prod.fst = (card.fields.map Prod.fst).map utf8 := by
  obtain ⟨-, fields⟩ := same
  generalize part.assignments = assignments at fields
  generalize card.fields = fields_ at fields
  induction fields with
  | nil => rfl
  | cons here _ ih => rw [List.map_cons, List.map_cons, List.map_cons, ih, here.key]

theorem once (same : SameSection part card) (once : (part.assignments.map Prod.fst).Nodup) :
    (card.fields.map Prod.fst).Nodup := by
  rw [same.names] at once
  exact once.of_map

private theorem mem_fields (same : SameSection part card) {name : JsString} :
    utf8 name ∈ fieldsOf part.assignments ↔ name ∈ card.fields.map Prod.fst := by
  rw [mem_fieldsOf, same.names]
  exact List.mem_map_of_injective fun _ _ => utf8_injective

/-- The service has assigned every field of the card. -/
theorem assigned (same : SameSection part card) (once : (part.assignments.map Prod.fst).Nodup)
    {field : JsString × JsString} (inside : field ∈ card.fields) :
    ∃ value, (fieldsOf part.assignments)[utf8 field.1]? = some value ∧
      SameField (utf8 field.1, value) field := by
  obtain ⟨⟨key, value⟩, listed, alike⟩ := forall₂_mem_right same.fields inside
  cases alike.key
  exact ⟨value, (getElem?_fieldsOf once).mpr listed, alike⟩

/-- Only a server has a listen port, and the dashboard has its number where it is plain digits. -/
theorem listens (same : SameSection part card) (once : (part.assignments.map Prod.fst).Nodup)
    {config made : Config} (configures : Configures (fieldsOf part.assignments) config made)
    (makes : card.Makes form) (plain : ∀ field ∈ card.fields, PlainValue field) :
    form.tcp_listen_port =
      if made.is_client_ then none else some (.finite made.tcp_srv_port_.toNat) := by
  obtain ⟨shown, -, -, absent⟩ := shown_of_fold (same.once once) makes
  have server : ∀ {listen_port : Text} {port : UInt16},
      (fieldsOf part.assignments)[ascii "tcp_listen_port"]? = some listen_port →
      parsePort listen_port (ascii "tcp_listen_port") = .ok port →
      form.tcp_listen_port = some (.finite port.toNat) := by
    intro listen_port port held parsed
    have named : ascii "tcp_listen_port" = utf8 (js "tcp_listen_port") := by decide
    have listed : js "tcp_listen_port" ∈ card.fields.map Prod.fst := by
      rw [← same.mem_fields, ← named, Std.ExtTreeMap.mem_iff_isSome_getElem?, held]
      rfl
    obtain ⟨⟨name, rawValue⟩, inside, rfl⟩ := List.mem_map.mp listed
    obtain ⟨value, holds, alike⟩ := same.assigned once inside
    rw [← named, held] at holds
    cases holds
    have digits := plain _ inside
    have number := shown _ inside
    have reads := alike.port
    rw [PlainValue, if_pos rfl] at digits
    rw [Shown, if_pos rfl] at number
    rw [if_pos digits] at reads
    dsimp only at digits number reads
    obtain ⟨value, read, -, small, rfl⟩ := parsePort_eq_ok.mp parsed
    have nonempty : listen_port ≠ [] := fun empty => parsePort_nil (empty ▸ parsed)
    have decimal : ∀ byte ∈ listen_port, isdigit byte = true := by
      rw [reads]
      exact Script.isdigit_utf8 digits
    have value_ := digitsValue_of_stoul nonempty decimal read
    rw [reads] at nonempty value_
    have some_ : Script.trim rawValue ≠ [] := fun empty => nonempty (by rw [empty]; rfl)
    rw [number, JsNumber.ofString_digits some_ digits (by omega), value_, UInt16.toNat_ofNat',
      Nat.mod_eq_of_lt (by omega)]
  cases configures with
  | client _ noPort =>
      exact absent fun listed => noPort (same.mem_fields.mpr listed)
  | replicating _ _ _ held parsed | publishing _ _ _ held parsed => exact server held parsed

private theorem shows_iff (same : SameSection part card) (once : (part.assignments.map Prod.fst).Nodup)
    (made : makeTunnel interfaces part.alias_ (fieldsOf part.assignments) = .ok tunnel)
    (makes : card.Makes form) :
    form.Shows (fieldsOf part.assignments) tunnel ↔ ∀ field ∈ card.fields, PlainValue field := by
  obtain ⟨shown, -, absent, -⟩ := shown_of_fold (same.once once) makes
  have values : ∀ {name : Text} {value : Text}, (fieldsOf part.assignments)[name]? = some value →
      (fieldsOf part.assignments).getD name [] = value := by
    intro name value held
    rw [Std.ExtTreeMap.getD_eq_getD_getElem?, held]
    rfl
  constructor
  · intro shows field inside
    obtain ⟨value, held, alike⟩ := same.assigned once inside
    have here := shown field inside
    unfold Shown at here
    unfold PlainValue
    split_ifs at here ⊢ with port
    · by_contra other
      have reads := alike.port
      rw [if_neg other] at reads
      rw [reads, shows.tcp_listen_port] at here
      split_ifs at here
      cases here
    · have text := shows.texts field.1 here.1
      rw [values held] at text
      exact (alike.string _ here.2).mp text
  · intro plain
    obtain ⟨-, -, _, _, -, -, -, -, configures⟩ := makeTunnel_eq_ok.mp made
    refine ⟨fun name textual => ?_, same.listens once configures makes plain⟩
    by_cases listed : name ∈ card.fields.map Prod.fst
    · obtain ⟨field, inside, rfl⟩ := List.mem_map.mp listed
      obtain ⟨value, held, alike⟩ := same.assigned once inside
      have here := shown field inside
      have value_ := plain field inside
      have apart : field.1 ≠ js "tcp_listen_port" := by
        intro port
        rw [port] at textual
        exact absurd textual (by decide)
      rw [Shown, if_neg apart] at here
      rw [PlainValue, if_neg apart] at value_
      rw [values held]
      exact (alike.string _ here.2).mpr value_
    · rw [absent name listed, Std.ExtTreeMap.getD_eq_fallback (mt same.mem_fields.mp listed),
        TomlTunnel.text_fresh]
      rfl

end SameSection

/-! ## Whole texts -/

private theorem trim_carriage_return (line : JsString) : Script.trim (line ++ ['\r']) = Script.trim line := by
  have dropped : (line ++ ['\r']).reverse.dropWhile Script.isWhiteSpace =
      line.reverse.dropWhile Script.isWhiteSpace := by
    rw [List.reverse_append, List.reverse_singleton, List.singleton_append,
      List.dropWhile_cons_of_pos (by decide)]
  calc
    Script.trim (line ++ ['\r']) =
        trimBy Script.isWhiteSpace ((line ++ ['\r']).reverse.dropWhile Script.isWhiteSpace).reverse :=
      (trimBy_rdropWhile _).symm
    _ = trimBy Script.isWhiteSpace (line.reverse.dropWhile Script.isWhiteSpace).reverse := by rw [dropped]
    _ = Script.trim line := trimBy_rdropWhile _

/-- To the dashboard a carriage return at the end of a line is white space. -/
theorem carriage_returns {raws lines : List JsString}
    (same : List.Forall₂ (fun raw line => raw = line ∨ raw = line ++ ['\r']) raws lines) :
    fieldsOfLines raws = fieldsOfLines lines ∧
      ∀ forms, raws.foldlM readLine forms = lines.foldlM readLine forms := by
  induction same with
  | nil => exact ⟨rfl, fun _ => rfl⟩
  | @cons raw line raws lines here _ ih =>
      have trimmed : Script.trim raw = Script.trim line := by
        rcases here with rfl | rfl
        · rfl
        · exact trim_carriage_return line
      constructor
      · unfold fieldsOfLines at ih ⊢
        rw [List.filterMap_cons, List.filterMap_cons, trimmed, ih.1]
      · intro forms
        have step : readLine forms raw = readLine forms line := by
          unfold readLine
          rw [trimmed]
        rw [List.foldlM_cons, List.foldlM_cons, step]
        exact bind_congr ih.2

/-- The empty rest behind the last newline, which the service leaves out, says nothing. -/
theorem read_rest {text : Text} {entries : List ConfigurationLine}
    (meant : (getlines text).mapM ConfigurationLine.read = some entries) :
    ∃ all, (splitOnByte (byteOf '\n') text).mapM ConfigurationLine.read = some all ∧
      all.foldl ConfigurationOutline.add {} = entries.foldl ConfigurationOutline.add {} := by
  unfold getlines at meant
  dsimp only at meant
  split_ifs at meant with rest
  · refine ⟨entries ++ [.blank], ?_, by rw [List.foldl_append]; rfl⟩
    rw [← List.dropLast_append_getLast? _ rest]
    exact mapM_append_eq_some meant rfl
  · exact ⟨entries, meant, rfl⟩

/-- Texts that both accept have an outline and cards that say the same. -/
theorem tracks_of_accepted {toml : JsString} {outline : ConfigurationOutline} {forms : List TomlTunnel}
    (meant : ConfigurationOutline.read (utf8 toml) = some outline)
    (dashboard : parseTomlConfiguration toml = .ok forms) :
    ∃ cards, Tracks (fieldsOfLines (splitLines toml)) outline forms cards := by
  obtain ⟨entries, lines, rfl⟩ := Option.map_eq_some_iff.mp meant
  obtain ⟨all, lines, same⟩ := read_rest lines
  obtain ⟨raws, split, alike⟩ := lines_agree toml
  obtain ⟨fields, read⟩ := carriage_returns alike
  have start : Tracks [] {} [] [] := ⟨.nil, .inr .nil, by simp, by simp⟩
  rw [split] at lines
  rw [← same, ← fields]
  exact start.run ((read []).trans dashboard) lines

end TomlConfiguration

/-- `tunnel_fields` when the lines have been read. -/
def sectionFields (input : Text) : Std.ExtTreeMap Text TunnelFields compare :=
  match ConfigurationReader.readLines {} 0 (getlines input) with
  | .ok reader => reader.tunnel_fields
  | .error _ => ∅

/-- The two readers describe the same tunnels. -/
structure ParsersAgree (toml : JsString) (configuration : TunnelConfiguration)
    (forms : List TomlTunnel) : Prop where
  aliases : ∀ alias_, alias_ ∈ configuration.tunnels.map (·.alias_) ↔
    alias_ ∈ forms.map fun form => utf8 form.alias_
  shows : ∀ tunnel ∈ configuration.tunnels, ∀ form ∈ forms, utf8 form.alias_ = tunnel.alias_ →
    form.Shows ((sectionFields (utf8 toml)).getD tunnel.alias_ ∅) tunnel

private theorem sectionFields_eq {input : Text} {outline : ConfigurationOutline} (legal : outline.Legal)
    (meant : ConfigurationOutline.read input = some outline) :
    sectionFields input = outline.reader.tunnel_fields := by
  have empty : ConfigurationOutline.Legal {} := ⟨.inl rfl, by simp, by simp, by simp⟩
  obtain ⟨entries, lines, rfl⟩ := Option.map_eq_some_iff.mp meant
  have read := (@ConfigurationOutline.readLines_iff {} empty 0 _ _).mpr ⟨entries, lines, legal, rfl⟩
  have start : (ConfigurationOutline.reader {} : ConfigurationReader) = {} := rfl
  rw [start] at read
  rw [sectionFields, read]

/-- Both read the same tunnels out of a text exactly if every value in it is one
that both take as it is. -/
theorem parsers_agree_iff {interfaces : List Interface} {toml : JsString}
    {configuration : TunnelConfiguration} {forms : List TomlTunnel}
    (service : parseConfiguration interfaces (utf8 toml) = .ok configuration)
    (dashboard : TomlConfiguration.parseTomlConfiguration toml = .ok forms) :
    ParsersAgree toml configuration forms ↔
      ∀ field ∈ TomlConfiguration.fieldsOfLines (TomlConfiguration.splitLines toml),
        TomlConfiguration.PlainValue field := by
  obtain ⟨outline, meant, legal, -, makes⟩ := ConfigurationOutline.parseConfiguration_iff.mp service
  obtain ⟨cards, tracks⟩ := TomlConfiguration.tracks_of_accepted meant dashboard
  have same : List.Forall₂ TomlConfiguration.SameSection outline.sections cards := by
    apply tracks.same.resolve_left
    intro ⟨part, inside, assignment, assigned, unknown⟩
    obtain ⟨tunnel, -, made⟩ := makes.tunnel legal inside
    exact unknown ((makeTunnel_eq_ok.mp made).1 _ (mem_fieldsOf.mpr (List.mem_map_of_mem assigned)))
  have fields : ∀ part ∈ outline.sections,
      (sectionFields (utf8 toml)).getD part.alias_ ∅ = fieldsOf part.assignments := by
    intro part inside
    rw [sectionFields_eq legal meant, Std.ExtTreeMap.getD_eq_getD_getElem?,
      legal.getElem?_reader.mpr ⟨part, inside, rfl, rfl⟩]
    rfl
  have partOf : ∀ card ∈ cards, ∃ part ∈ outline.sections, TomlConfiguration.SameSection part card :=
    fun card inside => forall₂_mem_right same inside
  have cardOf : ∀ form ∈ forms, ∃ card ∈ cards, card.Makes form :=
    fun form inside => forall₂_mem_right tracks.made (List.mem_reverse.mpr inside)
  have tunnelOf : ∀ part ∈ outline.sections, ∃ tunnel ∈ configuration.tunnels,
      tunnel.alias_ = part.alias_ := by
    intro part inside
    obtain ⟨tunnel, listed, made⟩ := makes.tunnel legal inside
    exact ⟨tunnel, listed, (makeTunnel_eq_ok.mp made).2.1⟩
  have named : ∀ {part card form}, part ∈ outline.sections →
      TomlConfiguration.SameSection part card → card.Makes form → utf8 form.alias_ = part.alias_ := by
    intro part card form inside same makes
    rw [same.alias_, (TomlConfiguration.shown_of_fold (same.once (legal.once part inside)) makes).2.1]
  have agree : ∀ {part card form}, part ∈ outline.sections → TomlConfiguration.SameSection part card →
      card.Makes form → ∀ tunnel ∈ configuration.tunnels, tunnel.alias_ = part.alias_ →
      (form.Shows ((sectionFields (utf8 toml)).getD tunnel.alias_ ∅) tunnel ↔
        ∀ field ∈ card.fields, TomlConfiguration.PlainValue field) := by
    intro part card form inside same made tunnel listed named
    rw [named, fields part inside]
    exact same.shows_iff (legal.once part inside) (makes.made_of_alias legal inside listed named) made
  constructor
  · intro agrees field inside
    rcases tracks.kept field inside with rfl | ⟨card, listed, holds⟩
    · decide
    · obtain ⟨part, inside, same⟩ := partOf card listed
      obtain ⟨form, shown, made⟩ := forall₂_mem_right (List.Forall₂.flip tracks.made) listed
      obtain ⟨tunnel, configured, aliased⟩ := tunnelOf part inside
      have shows := agrees.shows tunnel configured form (List.mem_reverse.mp shown)
        ((named inside same made).trans aliased.symm)
      exact (agree inside same made tunnel configured aliased).mp shows field holds
  · intro plain
    refine ⟨fun alias_ => ⟨fun listed => ?_, fun listed => ?_⟩, ?_⟩
    · obtain ⟨tunnel, inside, rfl⟩ := List.mem_map.mp listed
      obtain ⟨part, listed, made⟩ := makes.section legal inside
      obtain ⟨card, listed_, same⟩ := forall₂_mem_right (List.Forall₂.flip same) listed
      obtain ⟨form, shown, made_⟩ := forall₂_mem_right (List.Forall₂.flip tracks.made) listed_
      exact List.mem_map.mpr ⟨form, List.mem_reverse.mp shown,
        (named listed same made_).trans (makeTunnel_eq_ok.mp made).2.1.symm⟩
    · obtain ⟨form, inside, rfl⟩ := List.mem_map.mp listed
      obtain ⟨card, listed, made⟩ := cardOf form inside
      obtain ⟨part, inside, same⟩ := partOf card listed
      obtain ⟨tunnel, configured, aliased⟩ := tunnelOf part inside
      exact List.mem_map.mpr ⟨tunnel, configured, aliased.trans (named inside same made).symm⟩
    · intro tunnel configured form inside aliased
      obtain ⟨card, listed, made⟩ := cardOf form inside
      obtain ⟨part, inside, same⟩ := partOf card listed
      have other := aliased.symm.trans (named inside same made)
      exact (agree inside same made tunnel configured other).mpr fun field holds =>
        plain field (tracks.found card listed field holds)

/-- A client and a server without anything to tell the readers apart. -/
def plainTunnels : JsString :=
  ["version = 1", "", "[tunnels.a]", "mode = \"client\"", "udp_interface = \"127.0.0.1\"",
    "udp_group = \"239.1.2.3:5000\"", "tcp_server = \"127.0.0.1:14052\"", "# b", "[tunnels.b]",
    "mode = \"server\"", "udp_interface = \"127.0.0.1\"",
    "tcp_listen_port = 14052"].flatMap fun line => js line ++ js "\n"

theorem parsers_agree_plainTunnels : ∃ configuration forms,
    parseConfiguration [] (utf8 plainTunnels) = .ok configuration ∧
      TomlConfiguration.parseTomlConfiguration plainTunnels = .ok forms ∧
      configuration.tunnels.length = 2 ∧ ParsersAgree plainTunnels configuration forms := by
  have service : ((parseConfiguration [] (utf8 plainTunnels)).map fun configuration =>
      configuration.tunnels.length) = .ok 2 := by decide
  have dashboard : ((TomlConfiguration.parseTomlConfiguration plainTunnels).map List.length) = .ok 2 := by
    decide
  have plain : ∀ field ∈ TomlConfiguration.fieldsOfLines (TomlConfiguration.splitLines plainTunnels),
      TomlConfiguration.PlainValue field := by decide
  cases configured : parseConfiguration [] (utf8 plainTunnels) with
  | error what =>
      rw [configured] at service
      cases service
  | ok configuration =>
      rw [configured] at service
      cases shown : TomlConfiguration.parseTomlConfiguration plainTunnels with
      | error what =>
          rw [shown] at dashboard
          cases dashboard
      | ok forms =>
          exact ⟨configuration, forms, rfl, rfl, Except.ok.inj service,
            (parsers_agree_iff configured shown).mpr plain⟩

/-- A comment behind the listen port, which the service takes off. -/
def commentedPort : JsString :=
  ["version = 1", "[tunnels.a]", "mode = \"server\"", "udp_interface = \"127.0.0.1\"",
    "tcp_listen_port = 14052 # feed"].flatMap fun line => js line ++ js "\n"

theorem commentedPort_disagrees : ∃ configuration forms,
    parseConfiguration [] (utf8 commentedPort) = .ok configuration ∧
      TomlConfiguration.parseTomlConfiguration commentedPort = .ok forms ∧
      ¬ ParsersAgree commentedPort configuration forms := by
  have service : ((parseConfiguration [] (utf8 commentedPort)).map fun configuration =>
      configuration.tunnels.map (·.alias_)) = .ok [ascii "a"] := by decide
  have dashboard : TomlConfiguration.parseTomlConfiguration commentedPort =
      .ok [{ alias_ := js "a", mode := js "server", udp_interface := js "127.0.0.1",
             tcp_listen_port := some .nan }] := by decide
  cases configured : parseConfiguration [] (utf8 commentedPort) with
  | error what =>
      rw [configured] at service
      cases service
  | ok configuration =>
      rw [configured] at service
      refine ⟨configuration, _, rfl, dashboard, fun agrees => ?_⟩
      have aliases : configuration.tunnels.map (·.alias_) = [ascii "a"] := Except.ok.inj service
      have listed : ascii "a" ∈ configuration.tunnels.map (·.alias_) := by
        rw [aliases]
        exact List.mem_cons_self ..
      obtain ⟨tunnel, inside, named⟩ := List.mem_map.mp listed
      have shows := agrees.shows tunnel inside _ (List.mem_cons_self ..) (by rw [named]; decide)
      have port := shows.tcp_listen_port
      split_ifs at port
      cases port

end DatagramTunneler
