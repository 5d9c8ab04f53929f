import DatagramTunneler.Configuration.Lines
import DatagramTunneler.Dashboard.TomlConfiguration

/-! One line of a configuration, read by the dashboard and by the service. White
space that only the dashboard knows is never ASCII, so the service does not accept
it where the dashboard skips it. -/

set_option autoImplicit false

namespace DatagramTunneler

open Foundation

namespace TomlConfiguration

open Script

/-! ## White space -/

private theorem isspace_of_isWhiteSpace {character : Char} (blank : isWhiteSpace character = true)
    (small : character.toNat < 128) : isspace (codeByte character) = true := by
  simp only [isWhiteSpace, isLineTerminator, List.contains_eq_mem, List.mem_cons, List.not_mem_nil,
    or_false, Bool.or_eq_true, decide_eq_true_eq, Bool.and_eq_true] at blank
  have code := toNat_codeByte small
  simp only [isspace, Bool.or_eq_true, beq_iff_eq, Bool.and_eq_true, decide_eq_true_eq,
    UInt8.le_iff_toNat_le, ← UInt8.toNat_inj, code]
  have bytes : (0x20 : UInt8).toNat = 32 ∧ (0x09 : UInt8).toNat = 9 ∧ (0x0d : UInt8).toNat = 13 := by decide
  omega

private theorem isWhiteSpace_of_isspace {character : Char} (small : character.toNat < 128)
    (space : isspace (codeByte character) = true) : isWhiteSpace character = true := by
  have code := toNat_codeByte small
  simp only [isspace, Bool.or_eq_true, beq_iff_eq, Bool.and_eq_true, decide_eq_true_eq,
    UInt8.le_iff_toNat_le, ← UInt8.toNat_inj, code] at space
  have bytes : (0x20 : UInt8).toNat = 32 ∧ (0x09 : UInt8).toNat = 9 ∧ (0x0d : UInt8).toNat = 13 := by decide
  simp only [isWhiteSpace, isLineTerminator, List.contains_eq_mem, List.mem_cons, List.not_mem_nil,
    or_false, Bool.or_eq_true, decide_eq_true_eq, Bool.and_eq_true]
  omega

private theorem not_isspace_of_high {byte : UInt8} (high : 128 ≤ byte.toNat) : isspace byte = false := by
  have bytes : (0x20 : UInt8).toNat = 32 ∧ (0x09 : UInt8).toNat = 9 ∧ (0x0d : UInt8).toNat = 13 := by decide
  simp only [isspace, Bool.or_eq_false_iff, beq_eq_false_iff_ne, ne_eq, ← UInt8.toNat_inj,
    Bool.and_eq_false_iff, decide_eq_false_iff_not, UInt8.le_iff_toNat_le]
  omega

/-- The service sees white space of the dashboard as its own, or as bytes that are not ASCII. -/
theorem isspace_or_high {blanks : JsString} (blank : ∀ character ∈ blanks, isWhiteSpace character = true) :
    ∀ byte ∈ utf8 blanks, isspace byte = true ∨ 128 ≤ byte.toNat := by
  intro byte inside
  obtain ⟨character, listed, inside⟩ := List.mem_flatMap.mp inside
  by_cases small : character.toNat < 128
  · rw [utf8EncodeChar_ascii small] at inside
    rw [List.mem_singleton.mp inside]
    exact .inl (isspace_of_isWhiteSpace (blank character listed) small)
  · exact .inr (utf8EncodeChar_high (Nat.le_of_not_lt small) byte inside)

private theorem visible_bytes {character : Char} (visible : isWhiteSpace character = false) :
    ∀ byte ∈ String.utf8EncodeChar character, isspace byte = false := by
  intro byte inside
  by_cases small : character.toNat < 128
  · rw [utf8EncodeChar_ascii small] at inside
    rw [List.mem_singleton.mp inside]
    by_contra space
    rw [isWhiteSpace_of_isspace small (by simpa using space)] at visible
    cases visible
  · exact not_isspace_of_high (utf8EncodeChar_high (Nat.le_of_not_lt small) byte inside)

/-- A character of ASCII that is no white space. -/
theorem not_mem_blanks {blanks : JsString} (blank : ∀ character ∈ blanks, isWhiteSpace character = true)
    {character : Char} (small : character.toNat < 128) (visible : isWhiteSpace character = false) :
    codeByte character ∉ utf8 blanks := by
  rw [codeByte_mem_utf8 small]
  intro inside
  rw [blank character inside] at visible
  cases visible

theorem head?_utf8 {text : JsString} {first : Char} (head : text.head? = some first)
    (visible : isWhiteSpace first = false) :
    ∃ byte, (utf8 text).head? = some byte ∧ isspace byte = false := by
  cases text with
  | nil => cases head
  | cons character rest =>
      cases head
      obtain ⟨byte, bytes, shape⟩ := List.exists_cons_of_ne_nil (String.utf8EncodeChar_ne_nil (c := first))
      refine ⟨byte, ?_, visible_bytes visible byte (by simp [shape])⟩
      rw [utf8_cons, shape]
      rfl

theorem getLast?_utf8 {text : JsString} {last : Char} (final : text.getLast? = some last)
    (visible : isWhiteSpace last = false) :
    ∃ byte, (utf8 text).getLast? = some byte ∧ isspace byte = false := by
  have nonempty := String.utf8EncodeChar_ne_nil (c := last)
  refine ⟨(String.utf8EncodeChar last).getLast nonempty, ?_,
    visible_bytes visible _ (List.getLast_mem nonempty)⟩
  rw [← List.dropLast_append_getLast? last final, utf8_append, utf8_cons, utf8_nil, List.append_nil,
    List.getLast?_append_of_ne_nil _ nonempty, List.getLast?_eq_some_getLast nonempty]

private theorem trimmed_layout {rawLine : JsString} :
    ∃ front back, rawLine = front ++ Script.trim rawLine ++ back ∧
      (∀ character ∈ front, isWhiteSpace character = true) ∧
      ∀ character ∈ back, isWhiteSpace character = true := trimBy_layout rawLine

/-! ## Lines without an assignment -/

/-- What the dashboard skips as blank or as a comment, the service does too. -/
theorem blank_of_skipped {rawLine : JsString} {entry : ConfigurationLine}
    (skipped : Script.trim rawLine = [] ∨ (Script.trim rawLine).head? = some '#')
    (meant : ConfigurationLine.read (utf8 rawLine) = some entry) : entry = .blank := by
  obtain ⟨front, back, layout, frontBlank, backBlank⟩ := @trimmed_layout rawLine
  -- Only white space is left of the line.
  have remains : ∃ blanks, removeComment (utf8 rawLine) = utf8 blanks ∧
      ∀ character ∈ blanks, isWhiteSpace character = true := by
    rcases skipped with empty | comment
    · rw [empty, List.append_nil] at layout
      refine ⟨front ++ back, ?_, fun character inside =>
        (List.mem_append.mp inside).elim (frontBlank character) (backBlank character)⟩
      rw [layout, utf8_append]
      apply removeComment_clean
      · rw [List.mem_append, not_or]
        exact ⟨not_mem_blanks frontBlank (by decide) (by decide),
          not_mem_blanks backBlank (by decide) (by decide)⟩
      · rw [List.mem_append, not_or]
        exact ⟨not_mem_blanks frontBlank (by decide) (by decide),
          not_mem_blanks backBlank (by decide) (by decide)⟩
    · refine ⟨front, ?_, frontBlank⟩
      cases shape : Script.trim rawLine with
      | nil => rw [shape] at comment; cases comment
      | cons sign rest =>
          rw [shape] at comment layout
          cases comment
          rw [layout, List.append_assoc, utf8_append, List.cons_append, utf8_cons,
            utf8EncodeChar_ascii (by decide), removeComment,
            removeCommentFrom_append (not_mem_blanks frontBlank (by decide) (by decide))
              (not_mem_blanks frontBlank (by decide) (by decide))]
          have cut : removeCommentFrom false ([codeByte '#'] ++ utf8 (rest ++ back)) = [] := rfl
          rw [cut, List.append_nil]
  obtain ⟨blanks, left, blank⟩ := remains
  have bare : ¬ ((trim (removeComment (utf8 rawLine))).head? = some (byteOf '[') ∧
      (trim (removeComment (utf8 rawLine))).getLast? = some (byteOf ']')) := by
    intro bracketed
    have head := bracketed.1
    rw [left] at head
    have inside : codeByte '[' ∈ utf8 blanks := mem_of_mem_trimBy (List.mem_of_mem_head? head)
    exact not_mem_blanks blank (by decide) (by decide) inside
  have unassigned : byteOf '=' ∉ removeComment (utf8 rawLine) := by
    rw [left]
    exact not_mem_blanks blank (by decide) (by decide)
  rw [ConfigurationLine.read_unassigned bare unassigned] at meant
  split_ifs at meant
  cases meant
  rfl

theorem matchHeader_eq_some {line alias_ : JsString} (matched : matchHeader line = some alias_) :
    line = js "[tunnels." ++ alias_ ++ js "]" ∧ ConfigurationForm.matchesAlias alias_ = true := by
  unfold matchHeader at matched
  dsimp only at matched
  split_ifs at matched with holds
  cases matched
  exact holds

theorem header_of_read {rawLine alias_ : JsString} {entry : ConfigurationLine}
    (matched : matchHeader (Script.trim rawLine) = some alias_)
    (meant : ConfigurationLine.read (utf8 rawLine) = some entry) : entry = .header (utf8 alias_) := by
  obtain ⟨front, back, layout, frontBlank, backBlank⟩ := @trimmed_layout rawLine
  obtain ⟨text, accepted⟩ := matchHeader_eq_some matched
  have bytes : utf8 rawLine =
      utf8 front ++ (ascii "[tunnels." ++ utf8 alias_ ++ ascii "]") ++ utf8 back := by
    have brackets : utf8 (js "[tunnels.") = ascii "[tunnels." ∧ utf8 (js "]") = ascii "]" := by decide
    rw [layout, text, utf8_append, utf8_append, utf8_append, utf8_append, brackets.1, brackets.2]
  have named : ∀ {character : Char}, character.toNat < 128 → isAliasCharacter character = false →
      codeByte character ∉ utf8 alias_ := by
    intro character small foreign
    rw [codeByte_mem_utf8 small]
    intro inside
    simp only [ConfigurationForm.matchesAlias, Bool.and_eq_true, List.all_eq_true] at accepted
    rw [accepted.2 character inside] at foreign
    cases foreign
  have absent : ∀ {character : Char}, character.toNat < 128 → isWhiteSpace character = false →
      isAliasCharacter character = false → codeByte character ∉ ascii "[tunnels." →
      codeByte character ∉ ascii "]" → codeByte character ∉ utf8 rawLine := by
    intro character small visible foreign opening closing
    rw [bytes]
    simp only [List.mem_append, not_or]
    exact ⟨⟨not_mem_blanks frontBlank small visible, ⟨opening, named small foreign⟩, closing⟩,
      not_mem_blanks backBlank small visible⟩
  have kept : removeComment (utf8 rawLine) = utf8 rawLine :=
    removeComment_clean (absent (by decide) (by decide) (by decide) (by decide) (by decide))
      (absent (by decide) (by decide) (by decide) (by decide) (by decide))
  have last : (ascii "[tunnels." ++ utf8 alias_ ++ ascii "]").getLast? = some (byteOf ']') := by
    rw [List.getLast?_append]
    rfl
  have content : trim (removeComment (utf8 rawLine)) = (utf8 front).dropWhile isspace ++
      (ascii "[tunnels." ++ utf8 alias_ ++ ascii "]") ++
        ((utf8 back).reverse.dropWhile isspace).reverse := by
    rw [kept, bytes]
    exact trimBy_core rfl (by decide) last (by decide)
  by_cases clean : (utf8 front).dropWhile isspace = [] ∧
      ((utf8 back).reverse.dropWhile isspace).reverse = []
  · rw [clean.1, clean.2, List.nil_append, List.append_nil] at content
    rw [ConfigurationLine.read_header content] at meant
    split_ifs at meant
    exact (Option.some.inj meant).symm
  · -- White space that is not ASCII stays outside the brackets.
    have unbracketed : ¬ ((trim (removeComment (utf8 rawLine))).head? = some (byteOf '[') ∧
        (trim (removeComment (utf8 rawLine))).getLast? = some (byteOf ']')) := by
      intro ⟨head, final⟩
      apply clean
      rw [content] at head final
      constructor
      · cases left : (utf8 front).dropWhile isspace with
        | nil => rfl
        | cons byte rest =>
            rw [left] at head
            cases head
            have inside : byteOf '[' ∈ utf8 front := (List.dropWhile_suffix _).subset (by rw [left]; simp)
            exact absurd inside (not_mem_blanks frontBlank (by decide) (by decide))
      · by_contra remains
        rw [List.getLast?_append_of_ne_nil _ remains] at final
        have inside : byteOf ']' ∈ utf8 back := List.mem_reverse.mp ((List.dropWhile_suffix _).subset
          (List.mem_reverse.mp (List.mem_of_getLast? final)))
        exact not_mem_blanks backBlank (by decide) (by decide) inside
    have unassigned : byteOf '=' ∉ removeComment (utf8 rawLine) := by
      rw [kept]
      exact absent (by decide) (by decide) (by decide) (by decide) (by decide)
    rw [ConfigurationLine.read_unassigned unbracketed unassigned, content] at meant
    have bracket : ascii "[tunnels." ≠ [] := by decide
    simp [bracket] at meant

/-! ## Lines with an assignment -/

/-- The service splits a line at the equals sign that the dashboard finds. -/
theorem assigned_of_read {rawLine front back : JsString} {entry : ConfigurationLine}
    (layout : rawLine = front ++ '=' :: back)
    (clean : '"' ∉ front ∧ '#' ∉ front ∧ '=' ∉ front ∧ '[' ∉ front)
    (meant : ConfigurationLine.read (utf8 rawLine) = some entry) :
    ∃ value, entry = .assignment (trim (utf8 front)) value ∧
      parseValue (trim (removeComment (utf8 back))) (trim (utf8 front)) = .ok value := by
  have absent : ∀ {character : Char}, character.toNat < 128 → character ∉ front →
      codeByte character ∉ utf8 front := fun small missing => (not_congr (codeByte_mem_utf8 small)).mpr missing
  have content : removeComment (utf8 rawLine) =
      utf8 front ++ byteOf '=' :: removeComment (utf8 back) := by
    have sign : removeCommentFrom false ([codeByte '='] ++ utf8 back) =
        byteOf '=' :: removeComment (utf8 back) := rfl
    rw [layout, utf8_append, utf8_cons, utf8EncodeChar_ascii (by decide), removeComment,
      removeCommentFrom_append (absent (by decide) clean.1) (absent (by decide) clean.2.1), sign]
  have bare : (trim (utf8 front)).head? ≠ some (byteOf '[') := fun head =>
    absent (by decide) clean.2.2.2 (mem_of_mem_trimBy (List.mem_of_mem_head? head))
  rw [ConfigurationLine.read_assignment content (absent (by decide) clean.2.2.1) bare] at meant
  split at meant
  · next value parsed =>
      cases meant
      exact ⟨value, rfl, parsed⟩
  · cases meant

/-- The names of the file format are ASCII, and none has a `v` and an `n`. -/
theorem high_of_allowed {key : Text} (allowed : key ∈ allowed_fields) :
    (∀ byte ∈ key, byte.toNat < 128) ∧ ¬ (byteOf 'v' ∈ key ∧ byteOf 'n' ∈ key) := by
  have each : allowed_fields.all (fun key => key.all (fun byte => decide (byte.toNat < 128)) &&
      !(key.contains (byteOf 'v') && key.contains (byteOf 'n'))) = true := by decide
  have here := List.all_eq_true.mp each key allowed
  simp only [Bool.and_eq_true, List.all_eq_true, decide_eq_true_eq, Bool.not_eq_true',
    Bool.and_eq_false_iff, List.contains_eq_mem, decide_eq_false_iff_not] at here
  exact ⟨here.1, fun both => here.2.elim (fun missing => missing both.1) fun missing => missing both.2⟩

/-- The dashboard skips the version line wherever it stands; the service assigns a
key that no tunnel may have. -/
theorem unallowed_of_version {rawLine : JsString} {entry : ConfigurationLine}
    (version : Script.trim rawLine = js "version = 1")
    (meant : ConfigurationLine.read (utf8 rawLine) = some entry) :
    ∃ key value, entry = .assignment key value ∧ key ∉ allowed_fields := by
  obtain ⟨front, back, layout, frontBlank, backBlank⟩ := @trimmed_layout rawLine
  have split : rawLine = (front ++ js "version ") ++ '=' :: (js " 1" ++ back) := by
    rw [layout, version]
    have text : js "version = 1" = js "version " ++ '=' :: js " 1" := by decide
    rw [text]
    simp
  have foreign : ∀ {character : Char}, isWhiteSpace character = false → character ∉ js "version " →
      character ∉ front ++ js "version " := by
    intro character visible missing inside
    rcases List.mem_append.mp inside with inside | inside
    · rw [frontBlank character inside] at visible
      cases visible
    · exact missing inside
  obtain ⟨value, same, -⟩ := assigned_of_read split ⟨foreign (by decide) (by decide),
    foreign (by decide) (by decide), foreign (by decide) (by decide), foreign (by decide) (by decide)⟩ meant
  refine ⟨_, value, same, fun allowed => (high_of_allowed allowed).2 ⟨?_, ?_⟩⟩
  all_goals
    apply mem_trimBy _ (by decide)
    rw [utf8_append]
    apply List.mem_append_right
    decide

/-! ## Escapes -/

/-- A backslash in front of a backslash or a quote. -/
def escapes : JsString → Bool
  | '\\' :: '\\' :: _ => true
  | '\\' :: '"' :: _ => true
  | _ :: rest => escapes rest
  | [] => false

private theorem length_unescape_le (content : JsString) : (unescape content).length ≤ content.length := by
  fun_induction unescape content with
  | case1 rest ih | case2 rest ih =>
      simp only [List.length_cons]
      omega
  | case3 character rest _ _ ih =>
      simp only [List.length_cons]
      omega
  | case4 => exact Nat.le_refl _

private theorem unescape_eq_self_iff {content : JsString} : unescape content = content ↔ escapes content = false := by
  fun_induction unescape content with
  | case1 rest | case2 rest =>
      have shorter := length_unescape_le rest
      simp only [escapes]
      refine iff_of_false (fun same => ?_) (by simp)
      have lengths := congrArg List.length same
      simp only [List.length_cons] at lengths
      omega
  | case3 character rest slashes quote ih =>
      have step : escapes (character :: rest) = escapes rest := by
        rw [escapes]
        · exact fun rest_ first second => slashes rest_ first second
        · exact fun rest_ first second => quote rest_ first second
      rw [step, List.cons.injEq, ih]
      simp
  | case4 => simp [escapes]

private theorem quote_mem_unescape {content : JsString} (inside : '"' ∈ content) : '"' ∈ unescape content := by
  fun_induction unescape content with
  | case1 rest ih => exact List.mem_cons_of_mem _ (ih (by simpa using inside))
  | case2 rest ih => simp
  | case3 character rest _ _ ih =>
      rcases List.mem_cons.mp inside with same | inside
      · exact List.mem_cons.mpr (.inl same)
      · exact List.mem_cons_of_mem _ (ih inside)
  | case4 => cases inside

private theorem escapes_cons {character : Char} {rest : JsString} (plain : character ≠ '\\') :
    escapes (character :: rest) = escapes rest := by
  rw [escapes]
  · exact fun _ same _ => plain same
  · exact fun _ same _ => plain same

/-- A quote between quotes is escaped. -/
theorem escapes_of_quote {content : JsString} (quotable : isQuotable content = true)
    (inside : '"' ∈ content) : escapes content = true := by
  fun_induction isQuotable content with
  | case1 => cases inside
  | case2 character rest ih =>
      by_cases slash : character = '\\'
      · rw [slash, escapes]
      · by_cases quote : character = '"'
        · rw [quote, escapes]
        · have step : escapes ('\\' :: character :: rest) = escapes (character :: rest) := by
            rw [escapes]
            · exact fun _ _ same => slash (List.cons.inj same).1
            · exact fun _ _ same => quote (List.cons.inj same).1
          rw [step, escapes_cons slash]
          have later : '"' ∈ rest := by simpa [Ne.symm quote] using inside
          exact ih (by simpa using (Bool.and_eq_true_iff.mp quotable).2) later
  | case3 => cases quotable
  | case4 character rest slashes slash ih =>
      simp only [Bool.and_eq_true, bne_iff_ne] at quotable
      have plain : character ≠ '\\' := by
        intro same
        subst same
        cases rest with
        | nil => exact slash rfl rfl
        | cons next rest => exact slashes next rest rfl rfl
      rw [escapes_cons plain]
      exact ih quotable.2 ((List.mem_cons.mp inside).resolve_left (Ne.symm quotable.1))

/-! ## Values -/

/-- What the dashboard takes to stand between the quotes. -/
def contentOf (rawValue : JsString) : JsString := ((Script.trim rawValue).drop 1).dropLast

private theorem tomlString_eq_ok {rawValue text : JsString} (read : tomlString rawValue = .ok text) :
    Script.trim rawValue = '"' :: contentOf rawValue ++ ['"'] ∧ isQuotable (contentOf rawValue) = true ∧
      unescape (contentOf rawValue) = text := by
  unfold tomlString at read
  dsimp only at read
  split_ifs at read with holds
  · exact ⟨holds.1, holds.2, Except.ok.inj read⟩

/-- A quoted value without a quote inside is read by the service as it is. -/
theorem parsed_content {front back : JsString} {content value key : Text}
    (frontBlank : ∀ character ∈ front, isWhiteSpace character = true)
    (backBlank : ∀ character ∈ back, isWhiteSpace character = true) (unquoted : byteOf '"' ∉ content)
    (parsed : parseValue (trim (removeComment
      (utf8 front ++ byteOf '"' :: content ++ byteOf '"' :: utf8 back))) key = .ok value) :
    value = content := by
  have quoteFront := not_mem_blanks frontBlank (by decide : '"'.toNat < 128) (by decide)
  have kept := removeComment_quoted quoteFront
    (not_mem_blanks frontBlank (by decide : '#'.toNat < 128) (by decide)) unquoted
    (not_mem_blanks backBlank (by decide : '"'.toNat < 128) (by decide))
    (not_mem_blanks backBlank (by decide : '#'.toNat < 128) (by decide))
  have shape : trim (utf8 front ++ byteOf '"' :: content ++ byteOf '"' :: utf8 back) =
      (utf8 front).dropWhile isspace ++ byteOf '"' :: (content ++ byteOf '"' ::
        ((utf8 back).reverse.dropWhile isspace).reverse) := by
    have core := @trimBy_core UInt8 isspace (utf8 front) (utf8 back)
      (byteOf '"' :: content ++ [byteOf '"']) (byteOf '"') (byteOf '"') rfl (by decide)
      (List.getLast?_concat ..) (by decide)
    rw [trim_eq]
    simpa using core
  have inside : byteOf '"' ∈ trim (utf8 front ++ byteOf '"' :: content ++ byteOf '"' :: utf8 back) := by
    rw [shape]
    simp
  rw [kept] at parsed
  rcases parseValue_cases parsed with ⟨delimited, clean⟩ | ⟨-, -, decimal⟩
  · rw [shape] at delimited
    have absent : byteOf '"' ∉ (utf8 front).dropWhile isspace := fun inside =>
      quoteFront ((List.dropWhile_suffix _).subset inside)
    have bare : (utf8 front).dropWhile isspace = [] :=
      front_eq_of_first (delimited.trans (List.nil_append _).symm) absent List.not_mem_nil
    rw [bare, List.nil_append, List.cons_append] at delimited
    exact (front_eq_of_first (List.cons.inj delimited).2 unquoted clean).symm
  · exact absurd (decimal _ inside) (by decide)

/-- The two readers of a quoted value agree exactly if it holds no escape. -/
theorem string_of_read {front rawValue back text : JsString} {value key : Text}
    (frontBlank : ∀ character ∈ front, isWhiteSpace character = true)
    (backBlank : ∀ character ∈ back, isWhiteSpace character = true)
    (read : tomlString rawValue = .ok text)
    (parsed : parseValue (trim (removeComment (utf8 (front ++ rawValue ++ back)))) key = .ok value) :
    value = utf8 text ↔ escapes (contentOf rawValue) = false := by
  obtain ⟨delimited, quotable, rfl⟩ := tomlString_eq_ok read
  obtain ⟨inner, outer, layout, innerBlank, outerBlank⟩ := @trimmed_layout rawValue
  by_cases quote : '"' ∈ contentOf rawValue
  · apply iff_of_false
    · intro same
      subst same
      exact parseValue_unquoted parsed
        ((codeByte_mem_utf8 (by decide : '"'.toNat < 128)).mpr (quote_mem_unescape quote))
    · rw [escapes_of_quote quotable quote]
      simp
  · have bytes : utf8 (front ++ rawValue ++ back) = utf8 (front ++ inner) ++
        byteOf '"' :: utf8 (contentOf rawValue) ++ byteOf '"' :: utf8 (outer ++ back) := by
      have whole : front ++ rawValue ++ back = (front ++ inner) ++ '"' :: contentOf rawValue ++
          '"' :: (outer ++ back) := by
        calc
          front ++ rawValue ++ back = front ++ (inner ++ Script.trim rawValue ++ outer) ++ back := by
            rw [← layout]
          _ = _ := by rw [delimited]; simp
      have mark : String.utf8EncodeChar '"' = [byteOf '"'] := utf8EncodeChar_ascii (by decide)
      rw [whole]
      simp only [List.append_assoc, List.cons_append, utf8_append, utf8_cons, mark, List.nil_append]
    rw [bytes] at parsed
    have blank : ∀ {first last : JsString}, (∀ character ∈ first, isWhiteSpace character = true) →
        (∀ character ∈ last, isWhiteSpace character = true) →
        ∀ character ∈ first ++ last, isWhiteSpace character = true :=
      fun one two character inside => (List.mem_append.mp inside).elim (one character) (two character)
    have clean : byteOf '"' ∉ utf8 (contentOf rawValue) :=
      (not_congr (codeByte_mem_utf8 (by decide))).mpr quote
    rw [parsed_content (blank frontBlank innerBlank) (blank outerBlank backBlank) clean parsed,
      ← unescape_eq_self_iff]
    exact ⟨fun same => (utf8_injective same).symm, fun same => by rw [same]⟩

private theorem not_isdigit_blank {blanks : JsString}
    (blank : ∀ character ∈ blanks, isWhiteSpace character = true) :
    ∀ byte ∈ utf8 blanks, isdigit byte = false := by
  intro byte inside
  by_contra digit
  have decimal : isdigit byte = true := by simpa using digit
  rcases isspace_or_high blank byte inside with space | high
  · rw [(isdigit_apart decimal).1] at space
    cases space
  · have nine : (byteOf '9').toNat = 57 := by decide
    simp only [isdigit, Bool.and_eq_true, decide_eq_true_eq, UInt8.le_iff_toNat_le, nine] at decimal
    omega

/-- The two readers of a port agree on plain digits; on anything else that the
service accepts, the dashboard has no number. -/
theorem port_of_read {front rawValue back : JsString} {value key : Text}
    (frontBlank : ∀ character ∈ front, isWhiteSpace character = true)
    (backBlank : ∀ character ∈ back, isWhiteSpace character = true)
    (nonempty : Script.trim rawValue ≠ [])
    (parsed : parseValue (trim (removeComment (utf8 (front ++ rawValue ++ back)))) key = .ok value) :
    if (Script.trim rawValue).all isDigit then value = utf8 (Script.trim rawValue)
    else JsNumber.ofString (Script.trim rawValue) = .nan := by
  by_cases marked : '"' ∈ Script.trim rawValue ∨ '#' ∈ Script.trim rawValue
  · have letters : isDigit '"' = false ∧ isDigit '#' = false := by decide
    have other : ¬ (Script.trim rawValue).all isDigit = true := by
      intro digits
      have each := List.all_eq_true.mp digits
      rcases marked with inside | inside
      · exact absurd (each _ inside) (by decide)
      · exact absurd (each _ inside) (by decide)
    rw [if_neg other]
    rcases marked with inside | inside
    · exact JsNumber.ofString_eq_nan (.inl rfl) (mem_trimBy inside (by decide))
    · exact JsNumber.ofString_eq_nan (.inr rfl) (mem_trimBy inside (by decide))
  · rw [not_or] at marked
    obtain ⟨inner, outer, layout, innerBlank, outerBlank⟩ := @trimmed_layout rawValue
    have blank : ∀ {first last : JsString}, (∀ character ∈ first, isWhiteSpace character = true) →
        (∀ character ∈ last, isWhiteSpace character = true) →
        ∀ character ∈ first ++ last, isWhiteSpace character = true :=
      fun one two character inside => (List.mem_append.mp inside).elim (one character) (two character)
    have bytes : utf8 (front ++ rawValue ++ back) =
        utf8 (front ++ inner) ++ utf8 (Script.trim rawValue) ++ utf8 (outer ++ back) := by
      have whole : front ++ rawValue ++ back = (front ++ inner) ++ Script.trim rawValue ++ (outer ++ back) := by
        calc
          front ++ rawValue ++ back = front ++ (inner ++ Script.trim rawValue ++ outer) ++ back := by
            rw [← layout]
          _ = _ := by simp
      rw [whole, utf8_append, utf8_append]
    have absent : ∀ {character : Char}, character.toNat < 128 → isWhiteSpace character = false →
        character ∉ Script.trim rawValue → codeByte character ∉ utf8 (front ++ rawValue ++ back) := by
      intro character small visible missing
      rw [bytes, List.mem_append, List.mem_append, not_or, not_or]
      exact ⟨⟨not_mem_blanks (blank frontBlank innerBlank) small visible,
        (not_congr (codeByte_mem_utf8 small)).mpr missing⟩,
        not_mem_blanks (blank outerBlank backBlank) small visible⟩
    rw [removeComment_clean (absent (by decide) (by decide) marked.1)
      (absent (by decide) (by decide) marked.2)] at parsed
    obtain ⟨first, rest, shape⟩ := List.exists_cons_of_ne_nil nonempty
    have head : (Script.trim rawValue).head? = some first := by rw [shape]; rfl
    have final := List.getLast?_eq_some_getLast nonempty
    obtain ⟨firstByte, headByte, firstVisible⟩ := head?_utf8 head (visible_of_head?_trimBy head)
    obtain ⟨lastByte, finalByte, lastVisible⟩ := getLast?_utf8 final (visible_of_getLast?_trimBy final)
    have core := @trimBy_core UInt8 isspace (utf8 (front ++ inner)) (utf8 (outer ++ back)) _ _ _
      headByte firstVisible finalByte lastVisible
    rcases parseValue_cases parsed with ⟨delimited, -⟩ | ⟨same, -, decimal⟩
    · have quote : byteOf '"' ∈ trim (utf8 (front ++ rawValue ++ back)) := by
        rw [delimited]
        simp
      exact absurd (mem_of_mem_trimBy quote) (absent (by decide) (by decide) marked.1)
    · rw [bytes, trim_eq, core] at decimal
      have digits : (Script.trim rawValue).all isDigit = true := by
        apply List.all_eq_true.mpr
        intro character inside
        apply isDigit_of_isdigit
        intro byte listed
        have bytes : byte ∈ utf8 (Script.trim rawValue) := List.mem_flatMap.mpr ⟨character, inside, listed⟩
        exact decimal byte (List.mem_append_left _ (List.mem_append_right _ bytes))
      have frontGone : (utf8 (front ++ inner)).dropWhile isspace = [] := by
        apply List.eq_nil_iff_forall_not_mem.mpr
        intro byte inside
        have digit := decimal byte (List.mem_append_left _ (List.mem_append_left _ inside))
        rw [not_isdigit_blank (blank frontBlank innerBlank) byte ((List.dropWhile_suffix _).subset inside)]
          at digit
        cases digit
      have backGone : ((utf8 (outer ++ back)).reverse.dropWhile isspace).reverse = [] := by
        apply List.eq_nil_iff_forall_not_mem.mpr
        intro byte inside
        have digit := decimal byte (List.mem_append_right _ inside)
        rw [not_isdigit_blank (blank outerBlank backBlank) byte (List.mem_reverse.mp
          ((List.dropWhile_suffix _).subset (List.mem_reverse.mp inside)))] at digit
        cases digit
      rw [if_pos digits, ← same, bytes, trim_eq, core, frontGone, backGone]
      simp

/-! ## Fields -/

theorem visible_of_isNameCharacter {character : Char} (accepted : isNameCharacter character = true) :
    isWhiteSpace character = false ∧
      character ≠ '"' ∧ character ≠ '#' ∧ character ≠ '=' ∧ character ≠ '[' := by
  simp only [isNameCharacter, Bool.or_eq_true, Bool.and_eq_true, decide_eq_true_eq, beq_iff_eq] at accepted
  rcases accepted with ⟨low, high⟩ | rfl
  · have low := le_of_char_le low
    have high := le_of_char_le high
    have bounds : 'a'.toNat = 97 ∧ 'z'.toNat = 122 := by decide
    refine ⟨?_, ?_, ?_, ?_, ?_⟩
    · simp only [isWhiteSpace, isLineTerminator, List.contains_eq_mem, List.mem_cons, List.not_mem_nil,
        or_false, Bool.or_eq_false_iff, Bool.and_eq_false_iff, decide_eq_false_iff_not]
      omega
    all_goals
      intro same
      rw [same] at low
      exact absurd low (by decide)
  · decide

theorem matchField_eq_some {line name rawValue : JsString} (matched : matchField line = some (name, rawValue)) :
    ∃ inner outer, line = name ++ inner ++ '=' :: (outer ++ rawValue) ∧
      name ≠ [] ∧ Script.trim rawValue ≠ [] ∧
      (∀ character ∈ name, isNameCharacter character = true) ∧
      (∀ character ∈ inner, isWhiteSpace character = true) ∧
      ∀ character ∈ outer, isWhiteSpace character = true := by
  unfold matchField at matched
  dsimp only at matched
  split at matched
  · next rest shape =>
      split_ifs at matched with refused
      cases matched
      simp only [Bool.or_eq_true, List.isEmpty_iff, not_or] at refused
      rw [JsNumber.drop_takeWhile] at shape
      have kept : Script.trim (rest.dropWhile isWhiteSpace) ≠ [] := by
        obtain ⟨first, more, text⟩ := List.exists_cons_of_ne_nil refused.1.2
        have visible := List.head?_dropWhile_not isWhiteSpace rest
        rw [text] at visible ⊢
        exact List.ne_nil_of_mem (mem_trimBy (List.mem_cons_self ..) (by simpa using visible))
      refine ⟨(line.dropWhile isNameCharacter).takeWhile isWhiteSpace, rest.takeWhile isWhiteSpace, ?_,
        refused.1.1, kept, fun _ => List.mem_takeWhile_imp, fun _ => List.mem_takeWhile_imp,
        fun _ => List.mem_takeWhile_imp⟩
      calc
        line = line.takeWhile isNameCharacter ++ line.dropWhile isNameCharacter :=
          (List.takeWhile_append_dropWhile ..).symm
        _ = line.takeWhile isNameCharacter ++ ((line.dropWhile isNameCharacter).takeWhile isWhiteSpace ++
            (line.dropWhile isNameCharacter).dropWhile isWhiteSpace) := by
          simp only [List.takeWhile_append_dropWhile]
        _ = _ := by rw [shape, List.takeWhile_append_dropWhile, List.append_assoc]
  · cases matched

/-- A key of the file format is the name that the dashboard reads; white space of
the dashboard's own would stay part of the key. -/
theorem trim_named {front name inner : JsString}
    (frontBlank : ∀ character ∈ front, isWhiteSpace character = true)
    (innerBlank : ∀ character ∈ inner, isWhiteSpace character = true)
    (nonempty : name ≠ []) (named : ∀ character ∈ name, isNameCharacter character = true)
    (allowed : trim (utf8 (front ++ name ++ inner)) ∈ allowed_fields) :
    trim (utf8 (front ++ name ++ inner)) = utf8 name := by
  have small := (high_of_allowed allowed).1
  have low : ∀ byte ∈ utf8 (front ++ name ++ inner), isspace byte = true ∨ byte.toNat < 128 := by
    intro byte inside
    cases visible : isspace byte with
    | true => exact .inl rfl
    | false => exact .inr (small byte (mem_trimBy inside visible))
  rw [utf8_append, utf8_append] at low ⊢
  have blank : ∀ {blanks : JsString}, (∀ character ∈ blanks, isWhiteSpace character = true) →
      (∀ byte ∈ utf8 blanks, isspace byte = true ∨ byte.toNat < 128) →
      ∀ byte ∈ utf8 blanks, isspace byte = true := by
    intro blanks blank low byte inside
    rcases isspace_or_high blank byte inside with space | high
    · exact space
    · exact (low byte inside).resolve_right (Nat.not_lt_of_le high)
  obtain ⟨first, rest, shape⟩ := List.exists_cons_of_ne_nil nonempty
  have head : name.head? = some first := by rw [shape]; rfl
  have final := List.getLast?_eq_some_getLast nonempty
  obtain ⟨firstByte, headByte, firstVisible⟩ :=
    head?_utf8 head (visible_of_isNameCharacter (named first (List.mem_of_mem_head? head))).1
  obtain ⟨lastByte, finalByte, lastVisible⟩ :=
    getLast?_utf8 final (visible_of_isNameCharacter (named _ (List.getLast_mem nonempty))).1
  exact trimBy_padded
    (blank frontBlank fun byte inside => low byte (List.mem_append_left _ (List.mem_append_left _ inside)))
    (blank innerBlank fun byte inside => low byte (List.mem_append_right _ inside))
    headByte firstVisible finalByte lastVisible

/-- One field as the service assigns it and as the dashboard finds it. -/
structure SameField (assignment : Text × Text) (field : JsString × JsString) : Prop where
  key : assignment.1 = utf8 field.1
  string : ∀ text, tomlString field.2 = .ok text →
    (assignment.2 = utf8 text ↔ escapes (contentOf field.2) = false)
  port : if (Script.trim field.2).all isDigit then assignment.2 = utf8 (Script.trim field.2)
    else JsNumber.ofString (Script.trim field.2) = .nan

theorem field_of_read {rawLine : JsString} {field : JsString × JsString} {entry : ConfigurationLine}
    (matched : matchField (Script.trim rawLine) = some field)
    (meant : ConfigurationLine.read (utf8 rawLine) = some entry) :
    ∃ assignment : Text × Text, entry = .assignment assignment.1 assignment.2 ∧
      (assignment.1 ∈ allowed_fields → SameField assignment field) := by
  obtain ⟨name, rawValue⟩ := field
  obtain ⟨front, back, layout, frontBlank, backBlank⟩ := @trimmed_layout rawLine
  obtain ⟨inner, outer, text, nonempty, kept, named, innerBlank, outerBlank⟩ := matchField_eq_some matched
  have split : rawLine = (front ++ name ++ inner) ++ '=' :: (outer ++ rawValue ++ back) := by
    rw [layout, text]
    simp
  have clean : ∀ {character : Char}, isWhiteSpace character = false →
      (∀ other, isNameCharacter other = true → other ≠ character) →
      character ∉ front ++ name ++ inner := by
    intro character visible foreign inside
    rw [List.mem_append, List.mem_append] at inside
    rcases inside with (inside | inside) | inside
    · rw [frontBlank character inside] at visible
      cases visible
    · exact foreign character (named character inside) rfl
    · rw [innerBlank character inside] at visible
      cases visible
  obtain ⟨value, same, parsed⟩ := assigned_of_read split
    ⟨clean (by decide) fun _ accepted => (visible_of_isNameCharacter accepted).2.1,
      clean (by decide) fun _ accepted => (visible_of_isNameCharacter accepted).2.2.1,
      clean (by decide) fun _ accepted => (visible_of_isNameCharacter accepted).2.2.2.1,
      clean (by decide) fun _ accepted => (visible_of_isNameCharacter accepted).2.2.2.2⟩ meant
  refine ⟨(trim (utf8 (front ++ name ++ inner)), value), same, fun allowed => ?_⟩
  exact {
    key := trim_named frontBlank innerBlank nonempty named allowed
    string := fun text read => string_of_read outerBlank backBlank read parsed
    port := port_of_read outerBlank backBlank kept parsed }

end TomlConfiguration

end DatagramTunneler
