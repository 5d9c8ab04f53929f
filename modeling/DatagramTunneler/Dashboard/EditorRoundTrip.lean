import DatagramTunneler.Dashboard.FormRoundTrip
import DatagramTunneler.Dashboard.NumberText
import DatagramTunneler.Dashboard.ParserAgreement

/-! The guided editor reads what it writes. The text that it makes of its cards comes
back as the same cards, but for the fields of the other mode. -/

set_option autoImplicit false

namespace DatagramTunneler

open Foundation

/-- The card as it is shown; the port is the text of its number. -/
def TomlTunnel.shown (tunnel : TomlTunnel) : FormTunnel where
  alias_ := tunnel.alias_
  mode := tunnel.mode
  udp_interface := tunnel.udp_interface
  udp_group := tunnel.udp_group
  tcp_server := tunnel.tcp_server
  tcp_listen_port := (tunnel.tcp_listen_port.map JsNumber.toString).getD []
  udp_destination := tunnel.udp_destination

namespace FormTunnel

/-- Without the fields that do not belong to the mode. -/
def ofMode (tunnel : FormTunnel) : FormTunnel :=
  if tunnel.mode = js "client" then { tunnel with tcp_listen_port := [], udp_destination := [] }
  else { tunnel with udp_group := [], tcp_server := [] }

def values (tunnel : FormTunnel) : List JsString :=
  [tunnel.alias_, tunnel.mode, tunnel.udp_interface, tunnel.udp_group, tunnel.tcp_server,
    tunnel.tcp_listen_port, tunnel.udp_destination]

def SingleLine (tunnel : FormTunnel) : Prop :=
  ∀ value ∈ tunnel.values, value.any Script.isLineTerminator = false

instance (tunnel : FormTunnel) : Decidable tunnel.SingleLine := by
  unfold SingleLine
  infer_instance

/-- The shortest decimal of a number below 2^53. -/
def IsCanonical (digits : JsString) : Prop := ∃ value < 2 ^ 53, digits = Nat.toDigits 10 value

end FormTunnel

namespace TomlConfiguration

open Script ConfigurationForm

/-! ## Quoted values -/

private theorem unescape_escaped (value : JsString) : unescape (escaped value) = value := by
  induction value with
  | nil => rfl
  | cons character value ih =>
      rw [escaped_cons]
      by_cases slash : character = '\\'
      · subst slash
        exact congrArg ('\\' :: ·) ih
      · by_cases quote : character = '"'
        · subst quote
          exact congrArg ('"' :: ·) ih
        · rw [if_neg (not_or.mpr ⟨slash, quote⟩), List.singleton_append, unescape, ih]
          · exact fun _ same _ => slash same
          · exact fun _ same _ => slash same

private theorem isQuotable_escaped (value : JsString) : isQuotable (escaped value) = true := by
  induction value with
  | nil => rfl
  | cons character value ih =>
      rw [escaped_cons]
      by_cases slash : character = '\\'
      · subst slash
        exact ih
      · by_cases quote : character = '"'
        · subst quote
          exact ih
        · rw [if_neg (not_or.mpr ⟨slash, quote⟩), List.singleton_append, isQuotable, ih, Bool.and_true]
          · simpa using quote
          · exact fun _ _ same _ => slash same
          · exact fun same _ => slash same

private theorem tomlValue_eq (value : JsString) : tomlValue value = '"' :: escaped value ++ ['"'] := rfl

private theorem tomlString_tomlValue (value : JsString) : tomlString (tomlValue value) = .ok value := by
  have trimmed : Script.trim (tomlValue value) = tomlValue value :=
    trimBy_eq_self rfl (by decide : isWhiteSpace '"' = false)
      (by rw [tomlValue_eq]; exact List.getLast?_concat) (by decide : isWhiteSpace '"' = false)
  have content : ((tomlValue value).drop 1).dropLast = escaped value := List.dropLast_concat
  unfold tomlString
  rw [trimmed]
  dsimp only
  rw [content, if_pos ⟨tomlValue_eq value, isQuotable_escaped value⟩, unescape_escaped]

structure Assignable (value : JsString) : Prop where
  opened : ∃ first, value.head? = some first ∧ isWhiteSpace first = false
  closed : ∃ last, value.getLast? = some last ∧ isWhiteSpace last = false
  singleLine : value.any isLineTerminator = false

private theorem assignable_tomlValue {value : JsString} (singleLine : value.any isLineTerminator = false) :
    Assignable (tomlValue value) where
  opened := ⟨'"', rfl, by decide⟩
  closed := ⟨'"', by rw [tomlValue_eq]; exact List.getLast?_concat, by decide⟩
  singleLine := by
    rw [List.any_eq_false] at singleLine ⊢
    intro character inside
    rw [tomlValue_eq, List.cons_append, List.mem_cons, List.mem_append, List.mem_singleton] at inside
    rcases inside with rfl | inside | rfl
    · decide
    · rcases mem_of_mem_escaped inside with inside | rfl
      · exact singleLine character inside
      · decide
    · decide

private theorem any_isLineTerminator {line : JsString}
    (visible : ∀ character ∈ line, isWhiteSpace character = false) : line.any isLineTerminator = false := by
  rw [List.any_eq_false]
  intro character inside terminator
  have shown := visible character inside
  rw [isWhiteSpace, terminator] at shown
  cases shown

private theorem assignable_digits {digits : JsString} (nonempty : digits ≠ [])
    (decimal : digits.all isDigit = true) : Assignable digits := by
  have visible := fun digit inside =>
    JsNumber.isWhiteSpace_of_isDigit (List.all_eq_true.mp decimal digit inside)
  obtain ⟨first, rest, shape⟩ := List.exists_cons_of_ne_nil nonempty
  exact ⟨⟨first, by rw [shape]; rfl, visible first (by rw [shape]; exact List.mem_cons_self)⟩,
    ⟨_, List.getLast?_eq_some_getLast nonempty, visible _ (List.getLast_mem nonempty)⟩,
    any_isLineTerminator visible⟩

/-! ## Lines -/

private theorem splitLines_append {line rest : JsString} (singleLine : line.any isLineTerminator = false) :
    splitLines (line ++ '\n' :: rest) = line :: splitLines rest := by
  induction line with
  | nil => rfl
  | cons character line ih =>
      rw [List.any_cons, Bool.or_eq_false_iff] at singleLine
      have newline : character ≠ '\n' := fun same => absurd (same ▸ singleLine.1) (by decide)
      have return_ : character ≠ '\r' := fun same => absurd (same ▸ singleLine.1) (by decide)
      rw [List.cons_append, splitLines, ih singleLine.2]
      · exact fun _ same _ => return_ same
      · exact newline

private theorem splitLines_lines {lines : List JsString}
    (singleLine : ∀ line ∈ lines, line.any isLineTerminator = false) :
    splitLines (lines.flatMap (· ++ ['\n'])) = lines ++ [[]] := by
  induction lines with
  | nil => rfl
  | cons line lines ih =>
      rw [List.flatMap_cons, List.append_assoc, List.singleton_append,
        splitLines_append (singleLine line List.mem_cons_self),
        ih fun other inside => singleLine other (List.mem_cons_of_mem _ inside)]
      rfl

private theorem readLine_blank (tunnels : List TomlTunnel) : readLine tunnels [] = .ok tunnels := rfl

private theorem not_skipped {line : JsString} {first : Char} (opened : line.head? = some first)
    (mark : first ≠ '#') (version : line ≠ js "version = 1") :
    ¬ (line.isEmpty || line.head? = some '#' || line = js "version = 1") = true := by
  cases line with
  | nil => cases opened
  | cons character line =>
      cases opened
      simp [mark, version]

private theorem readLine_header (tunnels : List TomlTunnel) {alias_ : JsString}
    (matched : matchesAlias alias_ = true) :
    readLine tunnels (js "[tunnels." ++ alias_ ++ js "]") = .ok (tunnels ++ [{ alias_ := alias_ }]) := by
  have trimmed : Script.trim (js "[tunnels." ++ alias_ ++ js "]") = js "[tunnels." ++ alias_ ++ js "]" :=
    trimBy_eq_self rfl (by decide : isWhiteSpace '[' = false)
      (List.getLast?_append_of_ne_nil _ (by decide)) (by decide : isWhiteSpace ']' = false)
  have header : matchHeader (js "[tunnels." ++ alias_ ++ js "]") = some alias_ := by
    have inner : ((js "[tunnels." ++ alias_ ++ js "]").drop (js "[tunnels.").length).dropLast = alias_ := by
      rw [List.append_assoc, List.drop_left]
      exact List.dropLast_concat
    unfold matchHeader
    rw [inner]
    exact if_pos ⟨rfl, matched⟩
  have version : js "[tunnels." ++ alias_ ++ js "]" ≠ js "version = 1" := by
    intro same
    cases congrArg List.head? same
  unfold readLine
  rw [trimmed]
  dsimp only
  rw [if_neg (not_skipped rfl (by decide) version), header]

def fieldNames : List JsString := js "tcp_listen_port" :: textFields

private theorem fieldName {name : JsString} (listed : name ∈ fieldNames) :
    name ≠ [] ∧ (∀ character ∈ name, isNameCharacter character = true) ∧ name ≠ js "version" := by
  have each : ∀ name ∈ fieldNames, name ≠ [] ∧ name.all isNameCharacter = true ∧ name ≠ js "version" := by
    decide
  obtain ⟨nonempty, named, versionless⟩ := each name listed
  exact ⟨nonempty, List.all_eq_true.mp named, versionless⟩

private theorem readLine_assignment (earlier : List TomlTunnel) (tunnel : TomlTunnel) {name value : JsString}
    (listed : name ∈ fieldNames) (assignable : Assignable value) :
    readLine (earlier ++ [tunnel]) (name ++ js " = " ++ value) =
      (assign tunnel name value).map fun assigned => earlier ++ [assigned] := by
  obtain ⟨nonempty, named, versionless⟩ := fieldName listed
  obtain ⟨⟨first, head, firstVisible⟩, ⟨last, final, lastVisible⟩, singleLine⟩ := assignable
  obtain ⟨initial, others, shape⟩ := List.exists_cons_of_ne_nil nonempty
  obtain ⟨visible, -, mark, -, bracket⟩ :=
    visible_of_isNameCharacter (named initial (by rw [shape]; exact List.mem_cons_self))
  have opened : (name ++ js " = " ++ value).head? = some initial := by
    rw [shape]
    rfl
  have some_ : value ≠ [] := by
    intro none
    rw [none] at head
    cases head
  have trimmed : Script.trim (name ++ js " = " ++ value) = name ++ js " = " ++ value :=
    trimBy_eq_self opened visible
      (by rw [List.getLast?_append_of_ne_nil _ some_]; exact final) lastVisible
  have front : (name ++ js " = " ++ value).takeWhile isNameCharacter = name := by
    rw [List.append_assoc, List.takeWhile_append_of_pos named]
    exact List.append_nil name
  have version : name ++ js " = " ++ value ≠ js "version = 1" := by
    intro same
    rw [same] at front
    exact versionless (front.symm.trans (by decide))
  have header : matchHeader (name ++ js " = " ++ value) = none := by
    unfold matchHeader
    apply if_neg
    intro matched
    have heads := congrArg List.head? matched.1
    rw [opened] at heads
    exact bracket (Option.some.inj heads)
  have field : matchField (name ++ js " = " ++ value) = some (name, value) := by
    have behind : value.dropWhile isWhiteSpace = value := by
      obtain ⟨rest, rfl⟩ := List.head?_eq_some_iff.mp head
      exact List.dropWhile_cons_of_neg (by simp [firstVisible])
    have rest : ((name ++ js " = " ++ value).drop name.length).dropWhile isWhiteSpace =
        '=' :: ' ' :: value := by
      rw [List.append_assoc, List.drop_left]
      rfl
    have spaced : (' ' :: value).dropWhile isWhiteSpace = value := by
      rw [List.dropWhile_cons_of_pos (by decide), behind]
    unfold matchField
    rw [front]
    dsimp only
    rw [rest]
    simp only [spaced]
    exact if_neg (by simp [nonempty, some_, singleLine])
  unfold readLine
  rw [trimmed]
  dsimp only
  simp only [if_neg (not_skipped opened mark version), header, field, List.getLast?_concat,
    List.dropLast_concat]
  cases assign tunnel name value <;> rfl

/-! ## Cards -/

/-- `tunnel[name] = value` for a quoted text. -/
def setText (tunnel : TomlTunnel) (name value : JsString) : TomlTunnel :=
  if name = js "mode" then { tunnel with mode := value }
  else if name = js "udp_interface" then { tunnel with udp_interface := value }
  else if name = js "udp_group" then { tunnel with udp_group := value }
  else if name = js "tcp_server" then { tunnel with tcp_server := value }
  else { tunnel with udp_destination := value }

private theorem assign_text (tunnel : TomlTunnel) {name : JsString} (listed : name ∈ textFields)
    (value : JsString) : assign tunnel name (tomlValue value) = .ok (setText tunnel name value) := by
  have port : name ≠ js "tcp_listen_port" := by
    intro same
    exact absurd (same ▸ listed) (by decide)
  have last : name ≠ js "mode" → name ≠ js "udp_interface" → name ≠ js "udp_group" →
      name ≠ js "tcp_server" → name = js "udp_destination" := by
    intro mode interface group server
    simp only [textFields, List.mem_cons, List.not_mem_nil, or_false] at listed
    rcases listed with same | same | same | same | same
    · exact absurd same mode
    · exact absurd same interface
    · exact absurd same group
    · exact absurd same server
    · exact same
  unfold assign setText
  rw [if_neg port, tomlString_tomlValue]
  split_ifs with mode interface group server destination
  · rfl
  · rfl
  · rfl
  · rfl
  · rfl
  · exact absurd (last mode interface group server) destination

/-- These lines lead from one list of cards to the next. -/
structure ReadsTo (tunnels : List TomlTunnel) (lines : List JsString) (next : List TomlTunnel) : Prop where
  singleLine : ∀ line ∈ lines, line.any isLineTerminator = false
  read : lines.foldlM readLine tunnels = .ok next

section

variable {tunnels next last : List TomlTunnel} {line : JsString} {lines more : List JsString}

private theorem readsTo_nil (tunnels : List TomlTunnel) : ReadsTo tunnels [] tunnels :=
  ⟨fun _ inside => (List.not_mem_nil inside).elim, rfl⟩

private theorem readsTo_line (singleLine : line.any isLineTerminator = false)
    (read : readLine tunnels line = .ok next) : ReadsTo tunnels [line] next where
  singleLine := by
    intro other inside
    rw [List.mem_singleton.mp inside]
    exact singleLine
  read := foldlM_cons_ok read []

private theorem ReadsTo.append (front : ReadsTo tunnels lines next) (back : ReadsTo next more last) :
    ReadsTo tunnels (lines ++ more) last where
  singleLine := by
    intro line inside
    exact (List.mem_append.mp inside).elim (front.singleLine line) (back.singleLine line)
  read := (foldlM_append_ok front.read more).trans back.read

end

private theorem singleLine_append {front back : JsString} (first : front.any isLineTerminator = false)
    (last : back.any isLineTerminator = false) : (front ++ back).any isLineTerminator = false := by
  rw [List.any_append, first, last]
  rfl

private theorem readsTo_blank (tunnels : List TomlTunnel) : ReadsTo tunnels [[]] tunnels :=
  readsTo_line rfl (readLine_blank tunnels)

private theorem readsTo_header (tunnels : List TomlTunnel) {alias_ : JsString} (matched : matchesAlias alias_ = true)
    (singleLine : alias_.any isLineTerminator = false) :
    ReadsTo tunnels [js "[tunnels." ++ alias_ ++ js "]"] (tunnels ++ [{ alias_ := alias_ }]) :=
  readsTo_line (singleLine_append (singleLine_append (by decide) singleLine) (by decide))
    (readLine_header tunnels matched)

private theorem readsTo_assignment (earlier : List TomlTunnel) {tunnel assigned : TomlTunnel}
    {name value : JsString} (listed : name ∈ fieldNames) (assignable : Assignable value)
    (same : assign tunnel name value = .ok assigned) :
    ReadsTo (earlier ++ [tunnel]) [name ++ js " = " ++ value] (earlier ++ [assigned]) := by
  have named : name.any isLineTerminator = false := by
    apply any_isLineTerminator
    intro character inside
    exact (visible_of_isNameCharacter ((fieldName listed).2.1 character inside)).1
  refine readsTo_line (singleLine_append (singleLine_append named (by decide)) assignable.singleLine) ?_
  rw [readLine_assignment earlier tunnel listed assignable, same]
  rfl

def textLines (texts : List (JsString × JsString)) : List JsString :=
  texts.map fun text => text.1 ++ js " = " ++ tomlValue text.2

private theorem readsTo_textLines (earlier : List TomlTunnel) (tunnel : TomlTunnel)
    {texts : List (JsString × JsString)} (listed : texts.map Prod.fst ⊆ textFields)
    (singleLine : ∀ value ∈ texts.map Prod.snd, value.any isLineTerminator = false) :
    ReadsTo (earlier ++ [tunnel]) (textLines texts)
      (earlier ++ [texts.foldl (fun tunnel text => setText tunnel text.1 text.2) tunnel]) := by
  induction texts generalizing tunnel with
  | nil => exact readsTo_nil _
  | cons text texts ih =>
      rw [List.map_cons, List.cons_subset] at listed
      rw [List.map_cons, List.forall_mem_cons] at singleLine
      have here := readsTo_assignment earlier (List.mem_cons_of_mem _ listed.1)
        (assignable_tomlValue singleLine.1) (assign_text tunnel listed.1 text.2)
      exact here.append (ih (setText tunnel text.1 text.2) listed.2 singleLine.2)

private theorem readsTo_port (earlier : List TomlTunnel) (tunnel : TomlTunnel) {digits : JsString}
    (nonempty : digits ≠ []) (decimal : digits.all isDigit = true) :
    ReadsTo (earlier ++ [tunnel]) [js "tcp_listen_port" ++ js " = " ++ digits]
      (earlier ++ [{ tunnel with tcp_listen_port := some (JsNumber.ofString digits) }]) := by
  obtain ⟨⟨first, head, visible⟩, ⟨last, final, lastVisible⟩, -⟩ := assignable_digits nonempty decimal
  have trimmed : Script.trim digits = digits := trimBy_eq_self head visible final lastVisible
  refine readsTo_assignment earlier List.mem_cons_self (assignable_digits nonempty decimal) ?_
  rw [assign, if_pos rfl, trimmed]

/-- The card that the lines of a tunnel are read as. -/
def cardOf (tunnel : FormTunnel) : TomlTunnel :=
  if tunnel.mode = js "client" then
    { alias_ := tunnel.alias_, mode := tunnel.mode, udp_interface := tunnel.udp_interface
      udp_group := tunnel.udp_group, tcp_server := tunnel.tcp_server }
  else
    { alias_ := tunnel.alias_, mode := tunnel.mode, udp_interface := tunnel.udp_interface
      tcp_listen_port := some (JsNumber.ofString tunnel.tcp_listen_port)
      udp_destination := tunnel.udp_destination }

private theorem tunnelLines_client {tunnel : FormTunnel} (client : tunnel.mode = js "client") :
    tunnelLines tunnel = [[], js "[tunnels." ++ tunnel.alias_ ++ js "]"] ++
      textLines [(js "mode", tunnel.mode), (js "udp_interface", tunnel.udp_interface),
        (js "udp_group", tunnel.udp_group), (js "tcp_server", tunnel.tcp_server)] := by
  unfold tunnelLines
  rw [if_pos client]
  rfl

private theorem tunnelLines_server {tunnel : FormTunnel} (server : tunnel.mode ≠ js "client") :
    tunnelLines tunnel = [[], js "[tunnels." ++ tunnel.alias_ ++ js "]"] ++
      textLines [(js "mode", tunnel.mode), (js "udp_interface", tunnel.udp_interface)] ++
      [js "tcp_listen_port" ++ js " = " ++ tunnel.tcp_listen_port] ++
      textLines (if tunnel.udp_destination.isEmpty then []
        else [(js "udp_destination", tunnel.udp_destination)]) := by
  unfold tunnelLines
  rw [if_neg server]
  split <;> rfl

private theorem readsTo_card (tunnels : List TomlTunnel) {tunnel : FormTunnel}
    (matched : matchesAlias tunnel.alias_ = true) (singleLine : tunnel.SingleLine)
    (port : tunnel.mode ≠ js "client" →
      tunnel.tcp_listen_port ≠ [] ∧ tunnel.tcp_listen_port.all isDigit = true) :
    ReadsTo tunnels (tunnelLines tunnel) (tunnels ++ [cardOf tunnel]) := by
  simp only [FormTunnel.SingleLine, FormTunnel.values, List.forall_mem_cons] at singleLine
  obtain ⟨named, mode, interface, group, server, -, destination, -⟩ := singleLine
  have opened := (readsTo_blank tunnels).append (readsTo_header tunnels matched named)
  by_cases client : tunnel.mode = js "client"
  · rw [tunnelLines_client client, cardOf, if_pos client]
    refine opened.append (readsTo_textLines tunnels _ ?_ ?_)
    · change [js "mode", js "udp_interface", js "udp_group", js "tcp_server"] ⊆ textFields
      decide
    · simp only [List.map_cons, List.map_nil, List.forall_mem_cons]
      exact ⟨mode, interface, group, server, by simp⟩
  · obtain ⟨nonempty, decimal⟩ := port client
    rw [tunnelLines_server client, cardOf, if_neg client]
    refine ((opened.append (readsTo_textLines tunnels _ ?_ ?_)).append
      (readsTo_port tunnels _ nonempty decimal)).append ?_
    · change [js "mode", js "udp_interface"] ⊆ textFields
      decide
    · simp only [List.map_cons, List.map_nil, List.forall_mem_cons]
      exact ⟨mode, interface, by simp⟩
    · split
      · next absent =>
          rw [List.isEmpty_iff.mp absent]
          exact readsTo_nil _
      · refine readsTo_textLines tunnels _ ?_ ?_
        · change [js "udp_destination"] ⊆ textFields
          decide
        · simp only [List.map_cons, List.map_nil, List.forall_mem_cons]
          exact ⟨destination, by simp⟩

/-! ## Ports -/

theorem isDigit_of_mem_toDigits {value : Nat} {digit : Char} (inside : digit ∈ Nat.toDigits 10 value) :
    isDigit digit = true := by
  have decimal := Nat.isDigit_of_mem_toDigits (by decide) (by decide) inside
  simpa [Char.isDigit, isDigit, Char.le_def, UInt32.le_iff_toNat_le] using decimal

private theorem all_toDigits (value : Nat) : (Nat.toDigits 10 value).all isDigit = true :=
  List.all_eq_true.mpr fun _ inside => isDigit_of_mem_toDigits inside

private theorem utf8_toDigits (value : Nat) : utf8 (Nat.toDigits 10 value) = to_string value := by
  rw [to_string_eq, utf8_ascii fun digit inside => (isdigit_of_isDigit (isDigit_of_mem_toDigits inside)).1]
  rfl

private theorem toString_ofString {digits : JsString} (canonical : FormTunnel.IsCanonical digits) :
    (JsNumber.ofString digits).toString = digits := by
  obtain ⟨value, bits, rfl⟩ := canonical
  have same : digitsValue (utf8 (Nat.toDigits 10 value)) = value := by
    rw [utf8_toDigits, digitsValue_to_string]
  rw [JsNumber.ofString_digits Nat.toDigits_ne_nil (all_toDigits value) (by rw [same]; exact bits), same,
    JsNumber.toString_natCast bits]

private theorem shown_cardOf {tunnel : FormTunnel}
    (canonical : tunnel.mode ≠ js "client" → FormTunnel.IsCanonical tunnel.tcp_listen_port) :
    (cardOf tunnel).shown = tunnel.ofMode := by
  unfold cardOf FormTunnel.ofMode
  split
  · rfl
  · next server =>
      simp only [TomlTunnel.shown, Option.map_some, Option.getD_some, toString_ofString (canonical server)]

/-! ## The whole text -/

private theorem readsTo_cards (tunnels : List TomlTunnel) {cards : List FormTunnel}
    (each : ∀ card ∈ cards, matchesAlias card.alias_ = true ∧ card.SingleLine ∧
      (card.mode ≠ js "client" → card.tcp_listen_port ≠ [] ∧ card.tcp_listen_port.all isDigit = true)) :
    ReadsTo tunnels (cards.flatMap tunnelLines) (tunnels ++ cards.map cardOf) := by
  induction cards generalizing tunnels with
  | nil =>
      rw [List.map_nil, List.append_nil]
      exact readsTo_nil tunnels
  | cons card cards ih =>
      obtain ⟨matched, singleLine, port⟩ := each card List.mem_cons_self
      have here := readsTo_card tunnels matched singleLine port
      have rest := ih (tunnels ++ [cardOf card]) fun other inside => each other (List.mem_cons_of_mem _ inside)
      rw [List.append_assoc] at rest
      exact here.append rest

private theorem readsTo_version : ReadsTo [] [js "version = 1"] [] := readsTo_line (by decide) rfl

/-- Cards that the editor accepts come back from their text in the same order, each
without the fields of the other mode. -/
theorem parse_serializeFormTunnels (tunnels : List FormTunnel)
    (accepted : validateFormTunnels [] tunnels = .ok ())
    (singleLine : ∀ tunnel ∈ tunnels, tunnel.SingleLine)
    (canonical : ∀ tunnel ∈ tunnels, tunnel.mode = js "server" →
      FormTunnel.IsCanonical tunnel.tcp_listen_port) :
    ∃ text cards, serializeFormTunnels tunnels = .ok text ∧ parseTomlConfiguration text = .ok cards ∧
      cards.map TomlTunnel.shown = tunnels.map FormTunnel.ofMode := by
  obtain ⟨each, -⟩ := validateFormTunnels_eq_ok accepted
  have port : ∀ tunnel ∈ tunnels, tunnel.mode ≠ js "client" →
      FormTunnel.IsCanonical tunnel.tcp_listen_port := by
    intro tunnel inside server
    exact canonical tunnel inside ((each tunnel inside).2.1.resolve_left server)
  have read := readsTo_version.append (@readsTo_cards [] tunnels (by
    intro tunnel inside
    refine ⟨(each tunnel inside).1, singleLine tunnel inside, ?_⟩
    intro server
    obtain ⟨value, -, digits⟩ := port tunnel inside server
    rw [digits]
    exact ⟨Nat.toDigits_ne_nil, all_toDigits value⟩))
  refine ⟨_, tunnels.map cardOf, by rw [serializeFormTunnels, accepted]; rfl, ?_, ?_⟩
  · have lines := splitLines_lines read.singleLine
    rw [List.singleton_append] at lines
    rw [intercalate_concat, parseTomlConfiguration, lines]
    exact (read.append (readsTo_blank _)).read
  · rw [List.map_map]
    apply List.map_congr_left
    intro tunnel inside
    exact shown_cardOf (port tunnel inside)

/-- A client whose interface holds what the format is made of, and a server. -/
def oddCards : List FormTunnel :=
  [{ alias_ := js "desk-1", mode := js "client", udp_interface := js "la\"n\\1 # mode = [x]"
     udp_group := js "239.1.1.1:5000", tcp_server := js "10.0.0.2:14052", tcp_listen_port := js "007"
     udp_destination := [] },
   { alias_ := js "hub", mode := js "server", udp_interface := js "eth0", udp_group := js "kept aside"
     tcp_server := [], tcp_listen_port := js "14052", udp_destination := js "replicate_client" }]

theorem parse_serializeFormTunnels_oddCards :
    ∃ text cards, serializeFormTunnels oddCards = .ok text ∧ parseTomlConfiguration text = .ok cards ∧
      cards.map TomlTunnel.shown = oddCards.map FormTunnel.ofMode := by
  refine parse_serializeFormTunnels oddCards (by decide) (by decide) ?_
  intro tunnel inside server
  simp only [oddCards, List.mem_cons, List.not_mem_nil, or_false] at inside
  rcases inside with rfl | rfl
  · exact absurd server (by decide)
  · exact ⟨14052, by decide, by decide⟩

end TomlConfiguration

end DatagramTunneler
