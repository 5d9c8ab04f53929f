import DatagramTunneler.Configuration.Outline
import DatagramTunneler.Foundation.Trim

/-! How a line is read, piece by piece: what `trim` and `removeComment` leave of a
text put together of parts, and what that makes of headers and assignments. -/

set_option autoImplicit false

namespace DatagramTunneler

open Foundation

theorem trim_eq (value : Text) : trim value = trimBy isspace value := rfl

/-! ## `removeComment` -/

theorem removeCommentFrom_append {quoted : Bool} {front rest : Text} (unquoted : byteOf '"' ∉ front)
    (uncommented : byteOf '#' ∉ front) :
    removeCommentFrom quoted (front ++ rest) = front ++ removeCommentFrom quoted rest := by
  induction front with
  | nil => rfl
  | cons byte front ih =>
      rw [List.mem_cons, not_or] at unquoted uncommented
      rw [List.cons_append, removeCommentFrom, if_neg (Ne.symm unquoted.1),
        if_neg fun sign => uncommented.1 sign.1.symm, ih unquoted.2 uncommented.2]
      rfl

/-- Inside quotes nothing begins a comment. -/
theorem removeCommentFrom_quoted {value rest : Text} (unquoted : byteOf '"' ∉ value) :
    removeCommentFrom true (value ++ rest) = value ++ removeCommentFrom true rest := by
  induction value with
  | nil => rfl
  | cons byte value ih =>
      rw [List.mem_cons, not_or] at unquoted
      rw [List.cons_append, removeCommentFrom, if_neg (Ne.symm unquoted.1), if_neg (by simp),
        ih unquoted.2]
      rfl

theorem removeComment_clean {line : Text} (unquoted : byteOf '"' ∉ line)
    (uncommented : byteOf '#' ∉ line) : removeComment line = line := by
  have whole := @removeCommentFrom_append false line [] unquoted uncommented
  simpa [removeComment, removeCommentFrom] using whole

/-- A value in quotes with nothing but clean text around it. -/
theorem removeComment_quoted {front value back : Text} (frontUnquoted : byteOf '"' ∉ front)
    (frontClean : byteOf '#' ∉ front) (unquoted : byteOf '"' ∉ value)
    (backUnquoted : byteOf '"' ∉ back) (backClean : byteOf '#' ∉ back) :
    removeComment (front ++ byteOf '"' :: value ++ byteOf '"' :: back) =
      front ++ byteOf '"' :: value ++ byteOf '"' :: back := by
  have closed : removeCommentFrom false back = back := removeComment_clean backUnquoted backClean
  rw [removeComment, List.append_assoc, removeCommentFrom_append frontUnquoted frontClean,
    List.cons_append, removeCommentFrom, if_pos rfl, Bool.not_false,
    removeCommentFrom_quoted unquoted, removeCommentFrom, if_pos rfl, Bool.not_true, closed]

/-! ## Lines -/

namespace ConfigurationLine

/-- An assignment is split at its first equals sign, and both sides are trimmed. -/
theorem read_split {line front back : Text} (content : removeComment line = front ++ byteOf '=' :: back)
    (first : byteOf '=' ∉ front)
    (noHeader : ¬ ((trim (removeComment line)).head? = some (byteOf '[') ∧
      (trim (removeComment line)).getLast? = some (byteOf ']'))) :
    read line = match parseValue (trim back) (trim front) with
      | .ok value => some (.assignment (trim front) value)
      | .error _ => none := by
  have around : trim (removeComment line) =
      front.dropWhile isspace ++ byteOf '=' :: (back.reverse.dropWhile isspace).reverse := by
    rw [content, trim_eq, trimBy_around (by decide)]
  have absent : byteOf '=' ∉ front.dropWhile isspace := fun inside =>
    first ((List.dropWhile_suffix _).subset inside)
  have found : find (trim (removeComment line)) (byteOf '=') = some (front.dropWhile isspace).length :=
    find_eq_some.mpr ⟨_, _, around, absent, rfl⟩
  have nonempty : (trim (removeComment line)).isEmpty = false := by simp [around]
  have key : trim ((trim (removeComment line)).take (front.dropWhile isspace).length) = trim front := by
    rw [around, List.take_left, trim_eq, trimBy_dropWhile]
    rfl
  have value : trim ((trim (removeComment line)).drop ((front.dropWhile isspace).length + 1)) =
      trim back := by
    have shape : (front.dropWhile isspace ++ byteOf '=' :: (back.reverse.dropWhile isspace).reverse).drop
        ((front.dropWhile isspace).length + 1) = (back.reverse.dropWhile isspace).reverse := by
      simp
    rw [around, shape, trim_eq, trimBy_rdropWhile]
    rfl
  rw [read, if_neg (by simp [nonempty]), if_neg noHeader, found]
  cases parsed : parseValue (trim back) (trim front) <;> simp only [key, value, parsed]

/-- A key that does not begin like a header makes an assignment. -/
theorem read_assignment {line front back : Text} (content : removeComment line = front ++ byteOf '=' :: back)
    (first : byteOf '=' ∉ front) (bare : (trim front).head? ≠ some (byteOf '[')) :
    read line = match parseValue (trim back) (trim front) with
      | .ok value => some (.assignment (trim front) value)
      | .error _ => none := by
  apply read_split content first
  intro header
  have head := header.1
  rw [content, trim_eq, trimBy_around (by decide), List.head?_append] at head
  rw [trim_eq, head?_trimBy] at bare
  cases shape : (front.dropWhile isspace).head? with
  | none =>
      rw [shape] at head
      exact absurd (Option.some.inj head) (by decide)
  | some byte =>
      rw [shape] at head bare
      exact bare head

theorem read_header {line alias_ : Text}
    (content : trim (removeComment line) = ascii "[tunnels." ++ alias_ ++ ascii "]") :
    read line = if isAlias alias_ then some (.header alias_) else none := by
  have head : (trim (removeComment line)).head? = some (byteOf '[') := by rw [content]; rfl
  have last : (trim (removeComment line)).getLast? = some (byteOf ']') := by
    rw [content, List.getLast?_append]
    rfl
  have nonempty : (trim (removeComment line)).isEmpty = false := by
    cases shape : trim (removeComment line) with
    | nil => rw [shape] at head; cases head
    | cons => rfl
  have inner : ((trim (removeComment line)).drop 1).dropLast = ConfigurationReader.sectionPrefix ++ alias_ := by
    have close : ascii "]" = [byteOf ']'] := by decide
    have opened : ascii "[tunnels." = byteOf '[' :: ConfigurationReader.sectionPrefix := by decide
    rw [content, close, opened, List.cons_append, List.cons_append, List.drop_one, List.tail_cons,
      List.dropLast_concat]
  rw [read, if_neg (by simp [nonempty]), if_pos ⟨head, last⟩, inner]
  cases accepted : isAlias alias_ <;> simp [accepted]

/-- A line that neither opens a section nor assigns has to be blank. -/
theorem read_unassigned {line : Text} (bare : ¬ ((trim (removeComment line)).head? = some (byteOf '[') ∧
      (trim (removeComment line)).getLast? = some (byteOf ']')))
    (unassigned : byteOf '=' ∉ removeComment line) :
    read line = if (trim (removeComment line)).isEmpty then some .blank else none := by
  have absent : find (trim (removeComment line)) (byteOf '=') = none :=
    find_eq_none.mpr fun inside => unassigned (mem_of_mem_trimBy inside)
  unfold read
  dsimp only
  rw [if_neg bare, absent]

/-- What stands on a line that has a meaning. -/
inductive Content (line : Text) : ConfigurationLine → Prop
  | blank : trim (removeComment line) = [] → Content line .blank
  | header {alias_ : Text} : isAlias alias_ = true →
      trim (removeComment line) = ascii "[tunnels." ++ alias_ ++ ascii "]" → Content line (.header alias_)
  | assignment {front back value : Text} : removeComment line = front ++ byteOf '=' :: back →
      byteOf '=' ∉ front → parseValue (trim back) (trim front) = .ok value →
      Content line (.assignment (trim front) value)

private theorem brackets_around {content : Text} (head : content.head? = some (byteOf '['))
    (last : content.getLast? = some (byteOf ']')) :
    content = byteOf '[' :: (content.drop 1).dropLast ++ [byteOf ']'] := by
  cases content with
  | nil => cases head
  | cons first rest =>
      cases head
      cases rest with
      | nil => exact absurd (Option.some.inj last) (by decide)
      | cons second rest =>
          rw [List.getLast?_cons_cons] at last
          have shape := List.dropLast_append_getLast? _ last
          rw [List.drop_one, List.tail_cons, List.cons_append, shape]

theorem content_of_read {line : Text} {entry : ConfigurationLine} (meant : read line = some entry) :
    Content line entry := by
  by_cases header : (trim (removeComment line)).head? = some (byteOf '[') ∧
      (trim (removeComment line)).getLast? = some (byteOf ']')
  · have around := brackets_around header.1 header.2
    have nonempty : (trim (removeComment line)).isEmpty = false := by rw [around]; rfl
    rw [read, if_neg (by simp [nonempty]), if_pos header] at meant
    generalize ((trim (removeComment line)).drop 1).dropLast = section_name at meant around
    dsimp only at meant
    split_ifs at meant with malformed
    cases meant
    simp only [not_or, not_not, Bool.not_eq_true', Bool.not_eq_false] at malformed
    have opened : ascii "[tunnels." = byteOf '[' :: ConfigurationReader.sectionPrefix := by decide
    have named : section_name = ConfigurationReader.sectionPrefix ++
        section_name.drop ConfigurationReader.sectionPrefix.length := by
      calc section_name
        _ = section_name.take ConfigurationReader.sectionPrefix.length ++
            section_name.drop ConfigurationReader.sectionPrefix.length := (List.take_append_drop ..).symm
        _ = _ := by rw [malformed.1]
    refine .header malformed.2 ?_
    rw [opened, List.cons_append, ← named, around]
    rfl
  · by_cases assigns : byteOf '=' ∈ removeComment line
    · obtain ⟨index, found⟩ := Option.ne_none_iff_exists'.mp (mt find_eq_none.mp (not_not.mpr assigns))
      obtain ⟨front, back, content, first, -⟩ := find_eq_some.mp found
      rw [read_split content first header] at meant
      cases parsed : parseValue (trim back) (trim front) with
      | error what =>
          rw [parsed] at meant
          cases meant
      | ok value =>
          rw [parsed] at meant
          cases meant
          exact .assignment content first parsed
    · rw [read_unassigned header assigns] at meant
      split_ifs at meant with empty
      cases meant
      exact .blank (List.isEmpty_iff.mp empty)

end ConfigurationLine

/-! ## Values -/

private theorem parseValue_quoted {value key : Text} (unquoted : byteOf '"' ∉ value) :
    parseValue (byteOf '"' :: value ++ [byteOf '"']) key = .ok value := by
  have delimited : 2 ≤ (byteOf '"' :: value ++ [byteOf '"']).length ∧
      (byteOf '"' :: value ++ [byteOf '"']).head? = some (byteOf '"') ∧
      (byteOf '"' :: value ++ [byteOf '"']).getLast? = some (byteOf '"') :=
    ⟨by simp, rfl, List.getLast?_concat ..⟩
  have inner : ((byteOf '"' :: value ++ [byteOf '"']).drop 1).dropLast = value := by simp
  have clean : find value (byteOf '"') = none := find_eq_none.mpr unquoted
  rw [parseValue, if_pos delimited, inner]
  simp [clean]

private theorem parseValue_digits {value key : Text} (nonempty : value ≠ [])
    (decimal : ∀ byte ∈ value, isdigit byte = true) : parseValue value key = .ok value := by
  have bare : ¬ (2 ≤ value.length ∧ value.head? = some (byteOf '"') ∧
      value.getLast? = some (byteOf '"')) := by
    intro held
    obtain ⟨-, head, -⟩ := held
    have quote := decimal _ (List.mem_of_mem_head? head)
    revert quote
    decide
  have digits : (!value.isEmpty && value.all isdigit) = true := by
    simpa [nonempty] using decimal
  rw [parseValue, if_neg bare, if_pos digits]

/-- What a value in the file can be: the inside of a pair of quotes, or digits. -/
theorem parseValue_cases {value key parsed : Text} (accepted : parseValue value key = .ok parsed) :
    (value = byteOf '"' :: parsed ++ [byteOf '"'] ∧ byteOf '"' ∉ parsed) ∨
      (value = parsed ∧ value ≠ [] ∧ ∀ byte ∈ value, isdigit byte = true) := by
  unfold parseValue at accepted
  split_ifs at accepted with delimited
  · left
    dsimp only at accepted
    split_ifs at accepted with quote
    cases accepted
    obtain ⟨long, head, last⟩ := delimited
    cases value with
    | nil => cases head
    | cons first rest =>
        cases head
        have some : rest ≠ [] := by
          intro same
          subst same
          simp at long
        rw [List.getLast?_cons_of_ne_nil some] at last
        have shape := List.dropLast_append_getLast? _ last
        refine ⟨by simpa using shape.symm, find_eq_none.mp ?_⟩
        simpa using quote
  · right
    cases accepted
    next digits =>
      simp only [Bool.and_eq_true, Bool.not_eq_true', List.isEmpty_eq_false_iff, List.all_eq_true] at digits
      exact ⟨rfl, digits.1, digits.2⟩

theorem parseValue_unquoted {value key parsed : Text} (accepted : parseValue value key = .ok parsed) :
    byteOf '"' ∉ parsed := by
  rcases parseValue_cases accepted with ⟨-, unquoted⟩ | ⟨rfl, -, decimal⟩
  · exact unquoted
  · intro inside
    have quote := decimal _ inside
    revert quote
    decide

/-- No text of the format holds a quote in a value. -/
theorem ConfigurationLine.unquoted_of_read {line key value : Text}
    (assigns : read line = some (.assignment key value)) : byteOf '"' ∉ value := by
  unfold read at assigns
  dsimp only at assigns
  split_ifs at assigns
  · cases assigns
  · cases assigns
  · split at assigns
    · cases assigns
    · split at assigns
      · next parsed =>
          cases assigns
          exact parseValue_unquoted parsed
      · cases assigns

theorem ConfigurationOutline.unquoted_of_read {text : Text} {outline : ConfigurationOutline}
    (meant : read text = some outline) : ∀ part ∈ outline.sections, ∀ assignment ∈ part.assignments,
      byteOf '"' ∉ assignment.2 := by
  obtain ⟨entries, lines, rfl⟩ := Option.map_eq_some_iff.mp meant
  have each : ∀ key value, ConfigurationLine.assignment key value ∈ entries → byteOf '"' ∉ value := by
    intro key value inside
    obtain ⟨line, -, assigns⟩ := mem_of_mapM_eq_some lines inside
    exact ConfigurationLine.unquoted_of_read assigns
  clear meant lines
  have start : ∀ part ∈ ({} : ConfigurationOutline).sections, ∀ assignment ∈ part.assignments,
      byteOf '"' ∉ assignment.2 := by simp
  generalize ({} : ConfigurationOutline) = outline at start
  induction entries generalizing outline with
  | nil => exact start
  | cons entry entries ih =>
      apply ih fun key value inside => each key value (List.mem_cons_of_mem _ inside)
      cases entry with
      | blank => exact start
      | header =>
          intro part inside
          rcases List.mem_cons.mp inside with rfl | inside
          · simp
          · exact start part inside
      | assignment key value =>
          have here := each key value (List.mem_cons_self ..)
          unfold ConfigurationOutline.add
          dsimp only
          split
          · exact start
          · next active earlier opened =>
              rw [opened] at start
              intro part inside assignment listed
              rcases List.mem_cons.mp inside with rfl | inside
              · rcases List.mem_append.mp listed with listed | listed
                · exact start active (List.mem_cons_self ..) assignment listed
                · rw [List.mem_singleton.mp listed]
                  exact here
              · exact start part (List.mem_cons_of_mem _ inside) assignment listed

/-! ## Written assignments -/

/-- The names of the file format. -/
def IsName (key : Text) : Prop :=
  key ≠ [] ∧ key.all (ascii "abcdefghijklmnopqrstuvwxyz_").contains = true

instance (key : Text) : Decidable (IsName key) := inferInstanceAs (Decidable (_ ∧ _))

theorem IsName.clean {key : Text} (name : IsName key) : ∀ byte ∈ key, isspace byte = false ∧
    byte ≠ byteOf '"' ∧ byte ≠ byteOf '#' ∧ byte ≠ byteOf '=' ∧ byte ≠ byteOf '[' := by
  have letters : (ascii "abcdefghijklmnopqrstuvwxyz_").all (fun byte => decide (isspace byte = false ∧
      byte ≠ byteOf '"' ∧ byte ≠ byteOf '#' ∧ byte ≠ byteOf '=' ∧ byte ≠ byteOf '[')) = true := by decide
  intro byte inside
  have letter := List.contains_iff_mem.mp (List.all_eq_true.mp name.2 byte inside)
  exact of_decide_eq_true (List.all_eq_true.mp letters byte letter)

private theorem IsName.trim_around {key front back : Text} (name : IsName key)
    (frontBlank : ∀ byte ∈ front, isspace byte = true)
    (backBlank : ∀ byte ∈ back, isspace byte = true) : trim (front ++ key ++ back) = key := by
  obtain ⟨first, rest, shape⟩ := List.exists_cons_of_ne_nil name.1
  have last := List.getLast?_eq_some_getLast name.1
  exact trimBy_padded frontBlank backBlank (by rw [shape]; rfl)
    (name.clean first (by simp [shape])).1 last (name.clean _ (List.getLast_mem name.1)).1

namespace ConfigurationLine

private theorem read_named {key back : Text} (name : IsName key)
    (kept : removeComment (key ++ ascii " = " ++ back) = key ++ ascii " = " ++ back) :
    read (key ++ ascii " = " ++ back) = match parseValue (trim back) key with
      | .ok value => some (.assignment key value)
      | .error _ => none := by
  have key_ : trim (key ++ [0x20]) = key := @IsName.trim_around key [] [0x20] name
    (by simp) (List.forall_mem_singleton.mpr rfl)
  have back_ : trim (0x20 :: back) = trim back := by
    rw [trim_eq, ← trimBy_dropWhile, List.dropWhile_cons_of_pos (by decide), trimBy_dropWhile]
    rfl
  have layout : key ++ ascii " = " ++ back = (key ++ [0x20]) ++ byteOf '=' :: 0x20 :: back := by
    have middle : ascii " = " = [0x20, byteOf '=', 0x20] := by decide
    simp [middle]
  have first : byteOf '=' ∉ key ++ [0x20] := by
    intro inside
    rcases List.mem_append.mp inside with inside | inside
    · exact (name.clean _ inside).2.2.2.1 rfl
    · revert inside
      decide
  have bare : (trim (key ++ [0x20])).head? ≠ some (byteOf '[') := by
    rw [key_]
    exact fun head => (name.clean _ (List.mem_of_mem_head? head)).2.2.2.2 rfl
  have split := read_assignment (kept.trans layout) first bare
  rwa [key_, back_] at split

theorem not_mem_of_isAlias {alias_ : Text} (accepted : isAlias alias_ = true) {byte : UInt8}
    (foreign : (isalnum byte || byte == byteOf '-' || byte == byteOf '_') = false) : byte ∉ alias_ := by
  intro inside
  simp only [isAlias, Bool.and_eq_true, List.all_eq_true] at accepted
  have here := accepted.2 byte inside
  rw [foreign] at here
  cases here

theorem read_bracketed {alias_ : Text} (accepted : isAlias alias_ = true) :
    read (ascii "[tunnels." ++ alias_ ++ ascii "]") = some (.header alias_) := by
  have around : byteOf '"' ∉ ascii "[tunnels." ∧ byteOf '#' ∉ ascii "[tunnels." ∧
      byteOf '"' ∉ ascii "]" ∧ byteOf '#' ∉ ascii "]" := by decide
  have kept : removeComment (ascii "[tunnels." ++ alias_ ++ ascii "]") =
      ascii "[tunnels." ++ alias_ ++ ascii "]" := by
    apply removeComment_clean
    · simp only [List.mem_append, not_or]
      exact ⟨⟨around.1, not_mem_of_isAlias accepted (by decide)⟩, around.2.2.1⟩
    · simp only [List.mem_append, not_or]
      exact ⟨⟨around.2.1, not_mem_of_isAlias accepted (by decide)⟩, around.2.2.2⟩
  have last : (ascii "[tunnels." ++ alias_ ++ ascii "]").getLast? = some (byteOf ']') := by
    rw [List.getLast?_append]
    rfl
  have content : trim (removeComment (ascii "[tunnels." ++ alias_ ++ ascii "]")) =
      ascii "[tunnels." ++ alias_ ++ ascii "]" := by
    rw [kept]
    exact trimBy_eq_self rfl (by decide) last (by decide)
  rw [read_header content, if_pos accepted]

theorem read_quoted {key value : Text} (name : IsName key) (unquoted : byteOf '"' ∉ value) :
    read (key ++ ascii " = " ++ (byteOf '"' :: value ++ [byteOf '"'])) =
      some (.assignment key value) := by
  have kept : removeComment (key ++ ascii " = " ++ (byteOf '"' :: value ++ [byteOf '"'])) =
      key ++ ascii " = " ++ (byteOf '"' :: value ++ [byteOf '"']) := by
    have middle : byteOf '"' ∉ ascii " = " ∧ byteOf '#' ∉ ascii " = " := by decide
    have whole := @removeComment_quoted (key ++ ascii " = ") value []
      (by simp only [List.mem_append, not_or]
          exact ⟨fun inside => (name.clean _ inside).2.1 rfl, middle.1⟩)
      (by simp only [List.mem_append, not_or]
          exact ⟨fun inside => (name.clean _ inside).2.2.1 rfl, middle.2⟩)
      unquoted (by simp) (by simp)
    simpa using whole
  have same : trim (byteOf '"' :: value ++ [byteOf '"']) = byteOf '"' :: value ++ [byteOf '"'] :=
    trimBy_eq_self rfl (by decide) (List.getLast?_concat ..) (by decide)
  rw [read_named name kept, same, parseValue_quoted unquoted]

theorem read_digits {key digits : Text} (name : IsName key) (nonempty : digits ≠ [])
    (decimal : ∀ byte ∈ digits, isdigit byte = true) :
    read (key ++ ascii " = " ++ digits) = some (.assignment key digits) := by
  have digitsClean : ∀ byte ∈ digits, isspace byte = false ∧ byte ≠ byteOf '"' ∧ byte ≠ byteOf '#' :=
    fun byte inside => of_decide_eq_true (@of_isdigit (fun byte => decide (isspace byte = false ∧
      byte ≠ byteOf '"' ∧ byte ≠ byteOf '#')) (by decide) byte (decimal byte inside))
  have middle : byteOf '"' ∉ ascii " = " ∧ byteOf '#' ∉ ascii " = " := by decide
  have kept : removeComment (key ++ ascii " = " ++ digits) = key ++ ascii " = " ++ digits := by
    apply removeComment_clean
    · simp only [List.mem_append, not_or]
      exact ⟨⟨fun inside => (name.clean _ inside).2.1 rfl, middle.1⟩,
        fun inside => (digitsClean _ inside).2.1 rfl⟩
    · simp only [List.mem_append, not_or]
      exact ⟨⟨fun inside => (name.clean _ inside).2.2.1 rfl, middle.2⟩,
        fun inside => (digitsClean _ inside).2.2 rfl⟩
  obtain ⟨first, rest, shape⟩ := List.exists_cons_of_ne_nil nonempty
  have same : trim digits = digits :=
    trimBy_eq_self (by rw [shape]; rfl) (digitsClean first (by simp [shape])).1
      (List.getLast?_eq_some_getLast nonempty) (digitsClean _ (List.getLast_mem nonempty)).1
  rw [read_named name kept, same, parseValue_digits nonempty decimal]

end ConfigurationLine

end DatagramTunneler
