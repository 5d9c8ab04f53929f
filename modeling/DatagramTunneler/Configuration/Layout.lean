import DatagramTunneler.Configuration.Lines
import DatagramTunneler.Configuration.WellFormed
import Mathlib.Algebra.Group.Nat.Even
import Mathlib.Data.Nat.Bits
import Mathlib.Logic.Relation

/-! The layout of a text: white space, comments, line ends and the order of sections
and assignments. A text written in another layout is accepted where the first one
is, and means the same configuration. -/

set_option autoImplicit false

namespace DatagramTunneler

open Foundation

/-- White space that ends no line. -/
def IsBlank (value : Text) : Prop := ∀ byte ∈ value, isspace byte = true ∧ byte ≠ byteOf '\n'

/-- A line in another layout. The equals sign is the first one on the line, and a
comment begins where no quotes are open. -/
inductive LineLayout : Text → Text → Prop
  | around {line front back : Text} : IsBlank front → IsBlank back →
      LineLayout line (front ++ line ++ back)
  | sign {key before after before_ after_ value : Text} : byteOf '=' ∉ key →
      IsBlank before → IsBlank after → IsBlank before_ → IsBlank after_ →
      LineLayout (key ++ (before ++ byteOf '=' :: (after ++ value)))
        (key ++ (before_ ++ byteOf '=' :: (after_ ++ value)))
  | margin {content space space_ comment : Text} : Even (content.count (byteOf '"')) →
      IsBlank space → IsBlank space_ →
      LineLayout (content ++ (space ++ byteOf '#' :: comment)) (content ++ (space_ ++ byteOf '#' :: comment))
  | comment {line comment : Text} : byteOf '\n' ∉ comment → LineLayout line (line ++ byteOf '#' :: comment)
  | carriageReturn {line : Text} : LineLayout line (line ++ [byteOf '\r'])
  | lineFeed {line : Text} : LineLayout (line ++ [byteOf '\r']) line

def OpensSection (line : Text) : Prop := (line.dropWhile isspace).head? = some (byteOf '[')

/-- The lines of a text in another layout. -/
inductive Relayout : List Text → List Text → Prop
  | line {front back : List Text} {line line_ : Text} : LineLayout line line_ →
      Relayout (front ++ line :: back) (front ++ line_ :: back)
  | blank {front back : List Text} {line : Text} : IsBlank line →
      Relayout (front ++ back) (front ++ line :: back)
  | comment {front back : List Text} {indent comment : Text} : IsBlank indent → byteOf '\n' ∉ comment →
      Relayout (front ++ back) (front ++ (indent ++ byteOf '#' :: comment) :: back)
  | assignments {front body body_ back : List Text} : (∀ line ∈ body, ¬ OpensSection line) →
      body.Perm body_ → Relayout (front ++ (body ++ back)) (front ++ (body_ ++ back))
  | sections {front : List Text} {parts parts_ : List (List Text)} :
      (∀ part ∈ parts, ∃ header body, part = header :: body ∧ OpensSection header) →
      parts.Perm parts_ → Relayout (front ++ parts.flatten) (front ++ parts_.flatten)

/-- One text is the other after any number of changes to its layout. -/
def Relaid (text text_ : Text) : Prop :=
  Relation.ReflTransGen Relayout (getlines text) (getlines text_)

/-! ## Comments and white space -/

section Lines

variable {quoted : Bool} {line line_ front back content comment : Text} {entry : ConfigurationLine}

/-- Either a comment has begun, or what follows is read with the quotes left open or closed. -/
theorem removeCommentFrom_front (quoted : Bool) (front : Text) :
    (∀ rest, removeCommentFrom quoted (front ++ rest) = removeCommentFrom quoted front) ∨
      ∀ rest, removeCommentFrom quoted (front ++ rest) =
        front ++ removeCommentFrom (quoted ^^ (front.count (byteOf '"')).bodd) rest := by
  induction front generalizing quoted with
  | nil => right; simp
  | cons byte front ih =>
      by_cases quote : byte = byteOf '"'
      · rcases ih (!quoted) with begun | open_
        · left
          intro rest
          rw [List.cons_append, removeCommentFrom, if_pos quote, begun, removeCommentFrom, if_pos quote]
        · right
          intro rest
          rw [List.cons_append, removeCommentFrom, if_pos quote, open_, quote, List.count_cons_self,
            Nat.bodd_succ]
          cases quoted <;> simp
      · by_cases begins : byte = byteOf '#' ∧ !quoted
        · left
          intro rest
          rw [List.cons_append, removeCommentFrom, if_neg quote, if_pos begins, removeCommentFrom,
            if_neg quote, if_pos begins]
        · rcases ih quoted with begun | open_
          · left
            intro rest
            rw [List.cons_append, removeCommentFrom, if_neg quote, if_neg begins, begun,
              removeCommentFrom, if_neg quote, if_neg begins]
          · right
            intro rest
            rw [List.cons_append, removeCommentFrom, if_neg quote, if_neg begins, open_,
              List.count_cons_of_ne quote]
            rfl

private theorem not_mem_blank (blank : IsBlank front) {byte : UInt8} (visible : isspace byte = false) :
    byte ∉ front := by
  intro inside
  have space := (blank byte inside).1
  rw [visible] at space
  cases space

/-- White space is passed over, whatever follows. -/
theorem removeCommentFrom_blank (blank : IsBlank front) :
    removeCommentFrom quoted (front ++ back) = front ++ removeCommentFrom quoted back :=
  removeCommentFrom_append (not_mem_blank blank (by decide)) (not_mem_blank blank (by decide))

private theorem trim_blank_append (blank : IsBlank front) : trim (front ++ content) = trim content := by
  have all : ∀ byte ∈ front, isspace byte = true := fun byte inside => (blank byte inside).1
  rw [trim_eq, trim_eq, ← trimBy_dropWhile, List.dropWhile_append, List.dropWhile_eq_nil_iff.mpr all,
    if_pos List.isEmpty_nil, trimBy_dropWhile]

private theorem trim_append_blank (blank : IsBlank back) : trim (content ++ back) = trim content := by
  have reversed : IsBlank back.reverse := fun byte inside => blank byte (List.mem_reverse.mp inside)
  have mirrored := @trim_blank_append back.reverse content.reverse reversed
  rw [← List.reverse_append, trim_eq, trim_eq, trimBy_reverse, trimBy_reverse] at mirrored
  exact List.reverse_injective mirrored

private theorem count_trim {byte : UInt8} (visible : isspace byte = false) :
    (trim content).count byte = content.count byte := by
  obtain ⟨front, back, layout, frontBlank, backBlank⟩ := @trimBy_layout UInt8 isspace content
  have absent : ∀ {blanks : Text}, (∀ byte ∈ blanks, isspace byte = true) → blanks.count byte = 0 := by
    intro blanks blank
    apply List.count_eq_zero.mpr
    intro inside
    rw [blank byte inside] at visible
    cases visible
  calc (trim content).count byte
    _ = front.count byte + (trim content).count byte + back.count byte := by
      rw [absent frontBlank, absent backBlank, Nat.zero_add, Nat.add_zero]
    _ = content.count byte := by
      rw [← List.count_append, ← List.count_append, trim_eq, ← layout]

/-! ## One line -/

/-- Keys that are names, as those of every accepted text. -/
def ConfigurationLine.Named : ConfigurationLine → Prop
  | .assignment key _ => IsName key
  | _ => True

private theorem count_parsed {value key parsed : Text} (accepted : parseValue value key = .ok parsed) :
    (value.count (byteOf '"')).bodd = false := by
  rcases parseValue_cases accepted with ⟨rfl, unquoted⟩ | ⟨-, -, decimal⟩
  · rw [List.count_append, List.count_cons_self, List.count_eq_zero.mpr unquoted]
    rfl
  · rw [List.count_eq_zero.mpr]
    · rfl
    · intro inside
      have digit := decimal _ inside
      revert digit
      decide

/-- A line with a meaning closes the quotes that it opens. -/
theorem ConfigurationLine.closed_of_read (meant : read line = some entry) (named : entry.Named) :
    ((removeComment line).count (byteOf '"')).bodd = false := by
  have visible : isspace (byteOf '"') = false := by decide
  cases content_of_read meant with
  | blank empty =>
      rw [← count_trim visible, empty]
      rfl
  | header accepted shape =>
      have unquoted := @not_mem_of_isAlias _ accepted (byteOf '"') (by decide)
      rw [← count_trim visible, shape, List.count_append, List.count_append,
        List.count_eq_zero.mpr unquoted]
      decide
  | @assignment front back value shape first parsed =>
      have key : (trim front).count (byteOf '"') = 0 :=
        List.count_eq_zero.mpr fun inside => (IsName.clean named _ inside).2.1 rfl
      have closed := count_parsed parsed
      rw [count_trim visible] at key closed
      rw [shape, List.count_append, key, List.count_cons_of_ne (by decide), Nat.zero_add]
      exact closed

/-- Only what is left of a line without its comment and its margins is read. -/
theorem ConfigurationLine.read_congr (same : trim (removeComment line_) = trim (removeComment line)) :
    read line_ = read line := by
  rw [read, read, same]

private theorem removeComment_around (frontBlank : IsBlank front) (backBlank : IsBlank back) :
    trim (removeComment (front ++ line ++ back)) = trim (removeComment line) := by
  have rest : ∀ {quoted : Bool}, removeCommentFrom quoted back = back := by
    intro quoted
    have whole := @removeCommentFrom_blank quoted back [] backBlank
    simpa [removeCommentFrom] using whole
  have alone := List.append_nil line
  rw [removeComment, List.append_assoc, removeCommentFrom_blank frontBlank, trim_blank_append frontBlank]
  rcases removeCommentFrom_front false line with begun | open_
  · rw [begun]
    rfl
  · have closed := open_ []
    rw [alone, removeCommentFrom, alone] at closed
    rw [open_, rest, trim_append_blank backBlank, removeComment, closed]

private theorem removeComment_carriageReturn :
    trim (removeComment (line ++ [byteOf '\r'])) = trim (removeComment line) := by
  have blank : IsBlank [byteOf '\r'] := List.forall_mem_singleton.mpr (by decide)
  exact @removeComment_around line [] [byteOf '\r'] (List.forall_mem_nil _) blank

private theorem removeComment_margin {space space_ : Text} (closed : Even (content.count (byteOf '"')))
    (blank : IsBlank space) (blank_ : IsBlank space_) :
    trim (removeComment (content ++ (space_ ++ byteOf '#' :: comment))) =
      trim (removeComment (content ++ (space ++ byteOf '#' :: comment))) := by
  have parity : (content.count (byteOf '"')).bodd = false := by
    have even := Nat.even_iff.mp closed
    rw [Nat.mod_two_of_bodd] at even
    cases odd : (content.count (byteOf '"')).bodd with
    | false => rfl
    | true =>
        rw [odd] at even
        cases even
  have ended : ∀ {space : Text}, IsBlank space →
      removeCommentFrom false (space ++ byteOf '#' :: comment) = space := by
    intro space blank
    rw [removeCommentFrom_blank blank, removeCommentFrom, if_neg (by decide), if_pos (by decide),
      List.append_nil]
  rw [removeComment, removeComment]
  rcases removeCommentFrom_front false content with begun | open_
  · rw [begun, begun]
  · rw [open_, open_, parity, Bool.xor_false, ended blank, ended blank_, trim_append_blank blank,
      trim_append_blank blank_]

private theorem ConfigurationLine.removeComment_comment (meant : read line = some entry) (named : entry.Named) :
    removeComment (line ++ byteOf '#' :: comment) = removeComment line := by
  have closed := closed_of_read meant named
  unfold removeComment at closed ⊢
  rcases removeCommentFrom_front false line with begun | open_
  · exact begun _
  · have whole := open_ []
    rw [List.append_nil, removeCommentFrom, List.append_nil] at whole
    rw [whole] at closed ⊢
    rw [open_, closed, Bool.xor_false, removeCommentFrom, if_neg (by decide), if_pos (by decide),
      List.append_nil]

private theorem ConfigurationLine.read_sign {key value : Text} (first : byteOf '=' ∉ key)
    (meant : read line = some entry) (named : entry.Named)
    (content : removeComment line = key ++ byteOf '=' :: value)
    (content_ : removeComment line_ = front ++ byteOf '=' :: back) (first_ : byteOf '=' ∉ front)
    (sameKey : trim front = trim key) (sameValue : trim back = trim value) :
    read line_ = some entry := by
  have sign : byteOf '=' ∈ trim (removeComment line) := by
    rw [content]
    exact mem_trimBy (List.mem_append_right _ (List.mem_cons_self ..)) (by decide)
  cases content_of_read meant with
  | blank empty =>
      rw [empty] at sign
      cases sign
  | header accepted shape =>
      have absent := @not_mem_of_isAlias _ accepted (byteOf '=') (by decide)
      have brackets : byteOf '=' ∉ ascii "[tunnels." ∧ byteOf '=' ∉ ascii "]" := by decide
      rw [shape] at sign
      simp only [List.mem_append, absent, brackets, or_self] at sign
  | @assignment start rest parsed split firstSign accepted =>
      have layout := content.symm.trans split
      have keys : key = start := front_eq_of_first layout first firstSign
      cases keys
      have values : value = rest := (List.cons.inj (List.append_cancel_left layout)).2
      cases values
      have bare : (trim key).head? ≠ some (byteOf '[') := fun head =>
        (IsName.clean named _ (List.mem_of_mem_head? head)).2.2.2.2 rfl
      rw [← sameKey] at bare
      rw [read_assignment content_ first_ bare, sameKey, sameValue, accepted]

private theorem ConfigurationLine.read_layout (layout : LineLayout line line_) (meant : read line = some entry)
    (named : entry.Named) : read line_ = some entry := by
  cases layout with
  | around frontBlank backBlank =>
      rw [read_congr (removeComment_around frontBlank backBlank), meant]
  | @sign key before after before_ after_ value first before after before_ after_ =>
      rcases removeCommentFrom_front false key with begun | open_
      · rw [read_congr, meant]
        rw [removeComment, removeComment, begun, begun]
      · -- Both lines go on behind the equals sign in the same state.
        have content : ∀ {before after : Text}, IsBlank before → IsBlank after →
            removeComment (key ++ (before ++ byteOf '=' :: (after ++ value))) =
              (key ++ before) ++ byteOf '=' ::
                (after ++ removeCommentFrom (false ^^ (key.count (byteOf '"')).bodd) value) := by
          intro before after beforeBlank afterBlank
          have plain : byteOf '=' ≠ byteOf '"' ∧ byteOf '=' ≠ byteOf '#' := by decide
          rw [removeComment, open_, removeCommentFrom_blank beforeBlank, removeCommentFrom,
            if_neg plain.1, if_neg fun sign => plain.2 sign.1, removeCommentFrom_blank afterBlank,
            List.append_assoc]
        have firsts : ∀ {before : Text}, IsBlank before → byteOf '=' ∉ key ++ before := by
          intro before blank inside
          rcases List.mem_append.mp inside with inside | inside
          · exact first inside
          · exact not_mem_blank blank (by decide) inside
        apply read_sign (firsts before) meant named (content before after) (content before_ after_)
          (firsts before_)
        · rw [trim_append_blank before_, trim_append_blank before]
        · rw [trim_blank_append after_, trim_blank_append after]
  | margin closed blank blank_ => rw [read_congr (removeComment_margin closed blank blank_), meant]
  | comment =>
      rw [read_congr (congrArg trim (removeComment_comment meant named)), meant]
  | carriageReturn => rw [read_congr removeComment_carriageReturn, meant]
  | lineFeed => rw [← read_congr removeComment_carriageReturn, meant]

/-! ## Lines that mean nothing, and lines that open a section -/

theorem ConfigurationLine.read_blank (blank : IsBlank line) : read line = some .blank := by
  have kept : removeComment line = line := removeComment_clean (not_mem_blank blank (by decide))
    (not_mem_blank blank (by decide))
  have empty : trim (removeComment line) = [] := by
    rw [kept]
    exact trimBy_eq_nil fun byte inside => (blank byte inside).1
  rw [read, empty]
  rfl

private theorem ConfigurationLine.read_comment (indent : IsBlank front) :
    read (front ++ byteOf '#' :: comment) = some .blank := by
  have empty : trim (removeComment (front ++ byteOf '#' :: comment)) = [] := by
    rw [removeComment, removeCommentFrom_blank indent, removeCommentFrom, if_neg (by decide),
      if_pos (by decide), List.append_nil]
    exact trimBy_eq_nil fun byte inside => (indent byte inside).1
  rw [read, empty]
  rfl

theorem head?_content (line : Text) : (trim (removeComment line)).head? =
    (line.dropWhile isspace).head?.filter (· ≠ byteOf '#') := by
  rw [trim_eq, head?_trimBy, removeComment]
  induction line with
  | nil => rfl
  | cons byte line ih =>
      rw [removeCommentFrom]
      cases space : isspace byte with
      | true =>
          have plain : byte ≠ byteOf '"' ∧ byte ≠ byteOf '#' := by
            constructor
            · intro same
              subst same
              revert space
              decide
            · intro same
              subst same
              revert space
              decide
          rw [if_neg plain.1, if_neg fun sign => plain.2 sign.1, List.dropWhile_cons_of_pos space,
            List.dropWhile_cons_of_pos space, ih]
      | false =>
          have stays : ¬ isspace byte = true := by simp [space]
          rw [List.dropWhile_cons_of_neg stays]
          split_ifs with quote sign
          · rw [List.dropWhile_cons_of_neg stays, quote]
            rfl
          · rw [sign.1]
            rfl
          · rw [List.dropWhile_cons_of_neg stays]
            have plain : byte ≠ byteOf '#' := fun same => sign ⟨same, rfl⟩
            simp [Option.filter, plain]

private theorem opensSection_iff : OpensSection line ↔ (trim (removeComment line)).head? = some (byteOf '[') := by
  rw [head?_content, OpensSection, Option.filter_eq_some_iff]
  constructor
  · intro opens
    exact ⟨opens, by decide⟩
  · intro opens
    exact opens.1

/-- In an accepted text, what begins with a bracket is a header. -/
theorem ConfigurationLine.header_of_opensSection (opens : OpensSection line)
    (meant : read line = some entry) (named : entry.Named) : ∃ alias_, entry = .header alias_ := by
  rw [opensSection_iff] at opens
  cases content_of_read meant with
  | blank empty =>
      rw [empty] at opens
      cases opens
  | @header alias_ => exact ⟨alias_, rfl⟩
  | @assignment front back value split =>
      rw [split, trim_eq, trimBy_around (by decide)] at opens
      have head := @head?_trimBy _ isspace front
      cases shape : front.dropWhile isspace with
      | nil =>
          rw [shape] at opens
          exact absurd (Option.some.inj opens) (by decide)
      | cons byte rest =>
          rw [shape] at opens head
          cases opens
          exact absurd rfl (IsName.clean named _ (List.mem_of_mem_head? head)).2.2.2.2

private theorem ConfigurationLine.opensSection_of_header {alias_ : Text} (meant : read line = some (.header alias_)) :
    OpensSection line := by
  cases content_of_read meant with
  | header accepted shape =>
      rw [opensSection_iff, shape]
      rfl

end Lines

/-! ## Outlines with another order -/

structure ConfigurationSection.Rearranged (part part_ : ConfigurationSection) : Prop where
  alias_ : part_.alias_ = part.alias_
  assignments : part.assignments.Perm part_.assignments

namespace ConfigurationOutline

/-- The same sections in the same order, with their assignments in any order. -/
structure Rearranged (outline outline_ : ConfigurationOutline) : Prop where
  preamble : outline.preamble.Perm outline_.preamble
  sections : List.Forall₂ ConfigurationSection.Rearranged outline.sections outline_.sections

variable {outline outline_ : ConfigurationOutline}

theorem Rearranged.add (same : outline.Rearranged outline_) (entry : ConfigurationLine) :
    (outline.add entry).Rearranged (outline_.add entry) := by
  obtain ⟨preamble, sections⟩ := outline
  obtain ⟨preamble_, sections_⟩ := outline_
  cases entry with
  | blank => exact same
  | header alias_ => exact ⟨same.preamble, .cons ⟨rfl, .refl _⟩ same.sections⟩
  | assignment key value =>
      cases same.sections with
      | nil => exact ⟨same.preamble.append_right _, .nil⟩
      | cons active earlier =>
          exact ⟨same.preamble, .cons ⟨active.alias_, active.assignments.append_right _⟩ earlier⟩

theorem Rearranged.foldl (same : outline.Rearranged outline_) (entries : List ConfigurationLine) :
    (entries.foldl ConfigurationOutline.add outline).Rearranged
      (entries.foldl ConfigurationOutline.add outline_) := by
  induction entries generalizing outline outline_ with
  | nil => exact same
  | cons entry entries ih => exact ih (same.add entry)

theorem Rearranged.legal (same : outline.Rearranged outline_) (legal : outline.Legal) :
    outline_.Legal := by
  have aliases : outline_.sections.map (·.alias_) = outline.sections.map (·.alias_) := by
    have sections := same.sections
    generalize outline.sections = parts at sections
    generalize outline_.sections = parts_ at sections
    induction sections with
    | nil => rfl
    | cons here _ ih => rw [List.map_cons, List.map_cons, ih, here.alias_]
  have before : ∀ part_ ∈ outline_.sections, ∃ part ∈ outline.sections, part.Rearranged part_ :=
    fun part_ inside => forall₂_mem_right same.sections inside
  exact {
    preamble := by
      cases legal.preamble with
      | inl none =>
          have preamble := same.preamble
          rw [none] at preamble
          exact .inl preamble.nil_eq.symm
      | inr single =>
          have preamble := same.preamble
          rw [single] at preamble
          exact .inr (List.perm_singleton.mp preamble.symm)
    named := by
      intro part_ inside
      obtain ⟨part, listed, rearranged⟩ := before part_ inside
      rw [rearranged.alias_]
      exact legal.named part listed
    distinct := aliases ▸ legal.distinct
    once := by
      intro part_ inside
      obtain ⟨part, listed, rearranged⟩ := before part_ inside
      exact (rearranged.assignments.map Prod.fst).nodup_iff.mp (legal.once part listed) }

theorem Rearranged.fields (same : outline.Rearranged outline_) (legal : outline.Legal) :
    outline_.reader.tunnel_fields = outline.reader.tunnel_fields := by
  have once := legal.once
  have sections := same.sections
  unfold reader
  dsimp only
  generalize outline.sections = parts at once sections
  generalize outline_.sections = parts_ at sections
  induction sections with
  | nil => rfl
  | cons here _ ih =>
      rw [List.foldr_cons, List.foldr_cons, ih fun part inside => once part (List.mem_cons_of_mem _ inside),
        here.alias_, fieldsOf_perm (once _ (List.mem_cons_self ..)) here.assignments]

private theorem Legal.of_perm (legal : outline.Legal) (preamble : outline_.preamble = outline.preamble)
    (sections : outline.sections.Perm outline_.sections) : outline_.Legal where
  preamble := by
    rw [preamble]
    exact legal.preamble
  named := fun part inside => legal.named part (sections.mem_iff.mpr inside)
  distinct := (sections.map _).nodup_iff.mp legal.distinct
  once := fun part inside => legal.once part (sections.mem_iff.mpr inside)

private theorem Legal.fields_of_perm (legal : outline.Legal) (legal_ : outline_.Legal)
    (sections : outline.sections.Perm outline_.sections) :
    outline_.reader.tunnel_fields = outline.reader.tunnel_fields := by
  apply Std.ExtTreeMap.ext_getElem?
  intro alias_
  apply Option.ext
  intro fields
  rw [legal.getElem?_reader, legal_.getElem?_reader]
  simp only [sections.mem_iff]

theorem Rearranged.refl (outline : ConfigurationOutline) : outline.Rearranged outline :=
  ⟨.refl _, List.forall₂_same.mpr fun _ _ => ⟨rfl, .refl _⟩⟩

end ConfigurationOutline

/-! ## Lines in another order -/

def ConfigurationLine.assigned : ConfigurationLine → List (Text × Text)
  | .assignment key value => [(key, value)]
  | _ => []

namespace ConfigurationOutline

/-- Assignments at the end of the open section, or in front of all sections. -/
def assign (outline : ConfigurationOutline) (assignments : List (Text × Text)) : ConfigurationOutline :=
  match outline.sections with
  | [] => { outline with preamble := outline.preamble ++ assignments }
  | active :: earlier => { outline with
      sections := { active with assignments := active.assignments ++ assignments } :: earlier }

variable {outline : ConfigurationOutline} {entries entries_ : List ConfigurationLine}

private theorem foldl_assign (bare : ∀ entry ∈ entries, ∀ alias_, entry ≠ .header alias_) :
    entries.foldl add outline = outline.assign (entries.flatMap ConfigurationLine.assigned) := by
  induction entries generalizing outline with
  | nil =>
      obtain ⟨preamble, sections⟩ := outline
      cases sections with
      | nil => simp [assign]
      | cons active earlier => simp [assign]
  | cons entry entries ih =>
      rw [List.foldl_cons, ih fun other inside => bare other (List.mem_cons_of_mem _ inside)]
      obtain ⟨preamble, sections⟩ := outline
      cases entry with
      | blank => rfl
      | header alias_ => exact absurd rfl (bare _ (List.mem_cons_self ..) alias_)
      | assignment key value =>
          cases sections with
          | nil => simp [assign, add, ConfigurationLine.assigned]
          | cons active earlier => simp [assign, add, ConfigurationLine.assigned]

private theorem rearranged_of_perm (bare : ∀ entry ∈ entries, ∀ alias_, entry ≠ .header alias_)
    (same : entries.Perm entries_) :
    (entries.foldl add outline).Rearranged (entries_.foldl add outline) := by
  have assignments := same.flatMap_right ConfigurationLine.assigned
  rw [foldl_assign bare, foldl_assign fun entry inside => bare entry (same.mem_iff.mpr inside)]
  obtain ⟨preamble, sections⟩ := outline
  cases sections with
  | nil => exact ⟨assignments.append_left _, .nil⟩
  | cons active earlier =>
      exact ⟨.refl _, .cons ⟨rfl, assignments.append_left _⟩ (Rearranged.refl ⟨preamble, earlier⟩).sections⟩

/-- What is read into an open section leaves everything in front of it. -/
theorem foldl_add_append {preamble : List (Text × Text)} {opened earlier : List ConfigurationSection}
    (some : opened ≠ []) : entries.foldl add ⟨preamble, opened ++ earlier⟩ =
      ⟨preamble, (entries.foldl add ⟨[], opened⟩).sections ++ earlier⟩ := by
  induction entries generalizing opened with
  | nil => rfl
  | cons entry entries ih =>
      cases opened with
      | nil => exact absurd rfl some
      | cons active opened =>
          rw [List.foldl_cons, List.foldl_cons]
          cases entry with
          | blank => exact ih (List.cons_ne_nil _ _)
          | header alias_ => exact @ih (⟨alias_, []⟩ :: active :: opened) (List.cons_ne_nil _ _)
          | assignment key value =>
              exact @ih (⟨active.alias_, active.assignments ++ [(key, value)]⟩ :: opened)
                (List.cons_ne_nil _ _)

/-- The sections of lines that begin with a header. -/
def sectionsOf (entries : List ConfigurationLine) : List ConfigurationSection :=
  (entries.foldl add {}).sections

private theorem foldl_sections {parts : List (List ConfigurationLine)}
    (headed : ∀ part ∈ parts, ∃ alias_ body, part = .header alias_ :: body) :
    parts.flatten.foldl add outline =
      ⟨outline.preamble, parts.reverse.flatMap sectionsOf ++ outline.sections⟩ := by
  induction parts generalizing outline with
  | nil => rfl
  | cons part parts ih =>
      obtain ⟨alias_, body, rfl⟩ := headed part (List.mem_cons_self ..)
      have opened : (ConfigurationLine.header alias_ :: body).foldl add outline =
          ⟨outline.preamble, sectionsOf (.header alias_ :: body) ++ outline.sections⟩ :=
        @foldl_add_append body outline.preamble [⟨alias_, []⟩] outline.sections (List.cons_ne_nil _ _)
      rw [List.flatten_cons, List.foldl_append, opened,
        ih fun other inside => headed other (List.mem_cons_of_mem _ inside)]
      simp

end ConfigurationOutline

/-! ## Accepted lines -/

def outlineOf (lines : List Text) : ConfigurationOutline :=
  (lines.filterMap ConfigurationLine.read).foldl ConfigurationOutline.add {}

structure Accepts (interfaces : List Interface) (lines : List Text)
    (configuration : TunnelConfiguration) : Prop where
  meaningful : ∀ line ∈ lines, (ConfigurationLine.read line).isSome = true
  legal : (outlineOf lines).Legal
  version : (outlineOf lines).preamble = [(ascii "version", ascii "1")]
  makes : (outlineOf lines).Makes interfaces configuration

section Texts

variable {interfaces : List Interface} {lines lines_ : List Text} {configuration : TunnelConfiguration}

private theorem parseConfiguration_iff_accepts {input : Text} :
    parseConfiguration interfaces input = .ok configuration ↔
      Accepts interfaces (getlines input) configuration := by
  rw [ConfigurationOutline.parseConfiguration_iff]
  unfold ConfigurationOutline.read
  constructor
  · intro accepted
    obtain ⟨outline, meant, legal, version, makes⟩ := accepted
    obtain ⟨entries, listed, rfl⟩ := Option.map_eq_some_iff.mp meant
    obtain ⟨meaningful, rfl⟩ := mapM_eq_some_iff.mp listed
    exact ⟨meaningful, legal, version, makes⟩
  · intro accepts
    have listed := mapM_eq_some_iff.mpr ⟨accepts.meaningful, rfl⟩
    exact ⟨_, by rw [listed]; rfl, accepts.legal, accepts.version, accepts.makes⟩

/-- Another outline of the same fields is accepted too. -/
theorem Accepts.replace (accepts : Accepts interfaces lines configuration)
    (meaningful : ∀ line ∈ lines_, (ConfigurationLine.read line).isSome = true)
    (legal : (outlineOf lines_).Legal)
    (preamble : (outlineOf lines).preamble.Perm (outlineOf lines_).preamble)
    (fields : (outlineOf lines_).reader.tunnel_fields = (outlineOf lines).reader.tunnel_fields) :
    Accepts interfaces lines_ configuration where
  meaningful := meaningful
  legal := legal
  version := by
    rw [accepts.version] at preamble
    exact List.perm_singleton.mp preamble.symm
  makes := by
    have makes := accepts.makes
    unfold ConfigurationOutline.Makes at makes ⊢
    rw [fields]
    exact makes

/-! ## The keys of an accepted text -/

def ConfigurationOutline.assignments (outline : ConfigurationOutline) : List (Text × Text) :=
  outline.preamble ++ outline.sections.flatMap (·.assignments)

private theorem ConfigurationOutline.assignments_add (outline : ConfigurationOutline) (entry : ConfigurationLine) :
    (outline.add entry).assignments.Perm (outline.assignments ++ entry.assigned) := by
  obtain ⟨preamble, sections⟩ := outline
  cases entry with
  | blank => simp [assignments, add, ConfigurationLine.assigned]
  | header alias_ => simp [assignments, add, ConfigurationLine.assigned]
  | assignment key value =>
      cases sections with
      | nil => simp [assignments, add, ConfigurationLine.assigned]
      | cons active earlier =>
          have moved : ([(key, value)] ++ earlier.flatMap (·.assignments)).Perm
              (earlier.flatMap (·.assignments) ++ [(key, value)]) := List.perm_append_comm
          simpa [assignments, add, ConfigurationLine.assigned] using
            (moved.append_left active.assignments).append_left preamble

private theorem ConfigurationOutline.assignments_foldl (outline : ConfigurationOutline)
    (entries : List ConfigurationLine) : (entries.foldl add outline).assignments.Perm
      (outline.assignments ++ entries.flatMap ConfigurationLine.assigned) := by
  induction entries generalizing outline with
  | nil => simp
  | cons entry entries ih =>
      have here := (outline.assignments_add entry).append_right
        (entries.flatMap ConfigurationLine.assigned)
      rw [List.flatMap_cons, ← List.append_assoc]
      exact (ih (outline.add entry)).trans here

theorem Accepts.named (accepts : Accepts interfaces lines configuration) {line : Text}
    (listed : line ∈ lines) {entry : ConfigurationLine}
    (meant : ConfigurationLine.read line = some entry) : entry.Named := by
  cases entry with
  | blank => exact trivial
  | header alias_ => exact trivial
  | assignment key value =>
      have assigns : (key, value) ∈ (lines.filterMap ConfigurationLine.read).flatMap
          ConfigurationLine.assigned :=
        List.mem_flatMap.mpr ⟨_, List.mem_filterMap.mpr ⟨line, listed, meant⟩, List.mem_singleton.mpr rfl⟩
      have held : (key, value) ∈ (outlineOf lines).assignments :=
        (ConfigurationOutline.assignments_foldl _ _).mem_iff.mpr (List.mem_append_right _ assigns)
      cases List.mem_append.mp held with
      | inl preamble =>
          rw [accepts.version] at preamble
          have version : IsName (ascii "version") := by decide
          cases List.mem_singleton.mp preamble
          exact version
      | inr part =>
          obtain ⟨part, sections, assigned⟩ := List.mem_flatMap.mp part
          obtain ⟨tunnel, -, made⟩ := accepts.makes.tunnel accepts.legal sections
          have allowed := (makeTunnel_eq_ok.mp made).1 key
            (mem_fieldsOf.mpr (List.mem_map_of_mem (f := Prod.fst) assigned))
          have names : allowed_fields.all (fun name => decide (IsName name)) = true := by decide
          have name : IsName key := of_decide_eq_true (List.all_eq_true.mp names key allowed)
          exact name

/-! ## Another layout -/

/-- A line that means nothing can stand anywhere. -/
theorem Accepts.insert {front back : List Text} {line : Text}
    (accepts : Accepts interfaces (front ++ back) configuration)
    (nothing : ConfigurationLine.read line = some .blank) :
    Accepts interfaces (front ++ line :: back) configuration := by
  have same : outlineOf (front ++ line :: back) = outlineOf (front ++ back) := by
    rw [outlineOf, outlineOf, List.filterMap_append, List.filterMap_append,
      List.filterMap_cons_some nothing, List.foldl_append, List.foldl_append]
    rfl
  refine accepts.replace ?_ (same ▸ accepts.legal) (by rw [same]) (by rw [same])
  intro other inside
  rcases List.mem_append.mp inside with inside | inside
  · exact accepts.meaningful other (List.mem_append_left _ inside)
  · rcases List.mem_cons.mp inside with rfl | inside
    · rw [nothing]
      rfl
    · exact accepts.meaningful other (List.mem_append_right _ inside)

private theorem Accepts.relayLine {front back : List Text} {line line_ : Text}
    (accepts : Accepts interfaces (front ++ line :: back) configuration) (layout : LineLayout line line_) :
    Accepts interfaces (front ++ line_ :: back) configuration := by
  have listed : line ∈ front ++ line :: back := List.mem_append_right _ (List.mem_cons_self ..)
  obtain ⟨entry, meant⟩ := Option.isSome_iff_exists.mp (accepts.meaningful line listed)
  have meant_ := ConfigurationLine.read_layout layout meant (accepts.named listed meant)
  have same : outlineOf (front ++ line_ :: back) = outlineOf (front ++ line :: back) := by
    rw [outlineOf, outlineOf, List.filterMap_append, List.filterMap_append,
      List.filterMap_cons_some meant, List.filterMap_cons_some meant_]
  refine accepts.replace ?_ (same ▸ accepts.legal) (by rw [same]) (by rw [same])
  intro other inside
  rcases List.mem_append.mp inside with inside | inside
  · exact accepts.meaningful other (List.mem_append_left _ inside)
  · rcases List.mem_cons.mp inside with rfl | inside
    · rw [meant_]
      rfl
    · exact accepts.meaningful other (List.mem_append_right _ (List.mem_cons_of_mem _ inside))

private theorem Accepts.permuteAssignments {front body body_ back : List Text}
    (accepts : Accepts interfaces (front ++ (body ++ back)) configuration)
    (bare : ∀ line ∈ body, ¬ OpensSection line) (same : body.Perm body_) :
    Accepts interfaces (front ++ (body_ ++ back)) configuration := by
  have unheaded : ∀ entry ∈ body.filterMap ConfigurationLine.read, ∀ alias_, entry ≠ .header alias_ := by
    intro entry inside alias_ header
    obtain ⟨line, listed, meant⟩ := List.mem_filterMap.mp inside
    rw [header] at meant
    exact bare line listed (ConfigurationLine.opensSection_of_header meant)
  have rearranged : (outlineOf (front ++ (body ++ back))).Rearranged
      (outlineOf (front ++ (body_ ++ back))) := by
    unfold outlineOf
    simp only [List.filterMap_append, List.foldl_append]
    exact (ConfigurationOutline.rearranged_of_perm unheaded (same.filterMap _)).foldl _
  refine accepts.replace ?_ (rearranged.legal accepts.legal) rearranged.preamble
    (rearranged.fields accepts.legal)
  intro line inside
  exact accepts.meaningful line (((same.append_right back).append_left front).mem_iff.mpr inside)

private theorem Accepts.permuteSections {front : List Text} {parts parts_ : List (List Text)}
    (accepts : Accepts interfaces (front ++ parts.flatten) configuration)
    (headed : ∀ part ∈ parts, ∃ header body, part = header :: body ∧ OpensSection header)
    (same : parts.Perm parts_) : Accepts interfaces (front ++ parts_.flatten) configuration := by
  let entries : List (List Text) → List (List ConfigurationLine) :=
    List.map (List.filterMap ConfigurationLine.read)
  have headers : ∀ part ∈ entries parts, ∃ alias_ body, part = .header alias_ :: body := by
    intro part inside
    obtain ⟨lines, listed, rfl⟩ := List.mem_map.mp inside
    obtain ⟨header, body, rfl, opens⟩ := headed lines listed
    have placed : header ∈ front ++ parts.flatten :=
      List.mem_append_right _ (List.mem_flatten_of_mem listed (List.mem_cons_self ..))
    obtain ⟨entry, meant⟩ := Option.isSome_iff_exists.mp (accepts.meaningful header placed)
    obtain ⟨alias_, rfl⟩ := ConfigurationLine.header_of_opensSection opens meant
      (accepts.named placed meant)
    exact ⟨alias_, body.filterMap ConfigurationLine.read, List.filterMap_cons_some meant⟩
  have permuted : (entries parts).Perm (entries parts_) := same.map _
  have outlined : ∀ {parts : List (List Text)},
      (∀ part ∈ entries parts, ∃ alias_ body, part = .header alias_ :: body) →
      outlineOf (front ++ parts.flatten) = ⟨(outlineOf front).preamble,
        (entries parts).reverse.flatMap ConfigurationOutline.sectionsOf ++ (outlineOf front).sections⟩ := by
    intro parts headers
    rw [outlineOf, List.filterMap_append, List.foldl_append, List.filterMap_flatten,
      ConfigurationOutline.foldl_sections headers]
    rfl
  have before := outlined headers
  have after := outlined fun part inside => headers part (permuted.mem_iff.mpr inside)
  have preamble : (outlineOf (front ++ parts_.flatten)).preamble =
      (outlineOf (front ++ parts.flatten)).preamble := by rw [before, after]
  have sections : (outlineOf (front ++ parts.flatten)).sections.Perm
      (outlineOf (front ++ parts_.flatten)).sections := by
    rw [before, after]
    have reversed : (entries parts).reverse.Perm (entries parts_).reverse :=
      (List.reverse_perm _).trans (permuted.trans (List.reverse_perm _).symm)
    exact (reversed.flatMap_right _).append_right _
  have legal := accepts.legal.of_perm preamble sections
  refine accepts.replace ?_ legal (by rw [preamble]) (accepts.legal.fields_of_perm legal sections)
  intro line inside
  exact accepts.meaningful line ((same.flatten.append_left front).mem_iff.mpr inside)

private theorem Accepts.relayout (accepts : Accepts interfaces lines configuration)
    (relayout : Relayout lines lines_) : Accepts interfaces lines_ configuration := by
  cases relayout with
  | line layout => exact accepts.relayLine layout
  | blank blank => exact accepts.insert (ConfigurationLine.read_blank blank)
  | comment indent => exact accepts.insert (ConfigurationLine.read_comment indent)
  | assignments bare same => exact accepts.permuteAssignments bare same
  | sections headed same => exact accepts.permuteSections headed same

private theorem Accepts.relaid (accepts : Accepts interfaces lines configuration)
    (relaid : Relation.ReflTransGen Relayout lines lines_) : Accepts interfaces lines_ configuration := by
  induction relaid with
  | refl => exact accepts
  | tail _ relayout ih => exact ih.relayout relayout

/-- What a text means does not depend on its layout. -/
theorem parseConfiguration_relaid (interfaces : List Interface) (text text_ : Text)
    (configuration : TunnelConfiguration)
    (accepted : parseConfiguration interfaces text = .ok configuration) (relaid : Relaid text text_) :
    parseConfiguration interfaces text_ = .ok configuration :=
  parseConfiguration_iff_accepts.mpr ((parseConfiguration_iff_accepts.mp accepted).relaid relaid)

/-- The lines of the server and of the client in `twoTunnels`. -/
def serverSection : List Text :=
  ["[tunnels.b]", "mode = \"server\"", "udp_interface = \"127.0.0.1\"",
    "tcp_listen_port = 14052", ""].map ascii

def clientSection : List Text :=
  ["[tunnels.a]", "mode = \"client\"", "udp_interface = \"127.0.0.1\"",
    "udp_group = \"239.1.2.3:5000\"", "tcp_server = \"127.0.0.1:14052\""].map ascii

/-- The client first, a line end of another system and a comment with a quote. -/
def twoTunnelsRelaid : Text :=
  ((ascii "version = 1 # format" ++ [byteOf '\r']) :: (clientSection ++ serverSection) ++
    [ascii " # \""]).flatMap (· ++ ascii "\n")

theorem parseConfiguration_relaid_twoTunnels : ∃ configuration,
    parseConfiguration [] twoTunnels = .ok configuration ∧
      parseConfiguration [] twoTunnelsRelaid = .ok configuration := by
  have accepted : ((parseConfiguration [] twoTunnels).map fun configuration =>
      configuration.tunnels.length) = .ok 2 := by decide
  have before : getlines twoTunnels =
      [ascii "version = 1 # format"] ++ [serverSection, clientSection].flatten := by decide
  have after : getlines twoTunnelsRelaid =
      (ascii "version = 1 # format" ++ [byteOf '\r']) :: (clientSection ++ serverSection) ++
        [ascii " # \""] := by decide
  have headed : ∀ part ∈ [serverSection, clientSection],
      ∃ header body, part = header :: body ∧ OpensSection header := by
    intro part inside
    rcases List.mem_cons.mp inside with rfl | inside
    · exact ⟨_, _, rfl, rfl⟩
    · rw [List.mem_singleton.mp inside]
      exact ⟨_, _, rfl, rfl⟩
  have relaid : Relaid twoTunnels twoTunnelsRelaid := by
    unfold Relaid
    rw [before, after]
    have swapped := @Relayout.sections [ascii "version = 1 # format"] _ _ headed (.swap _ _ [])
    have ended := @Relayout.line [] (clientSection ++ serverSection) _ _
      (@LineLayout.carriageReturn (ascii "version = 1 # format"))
    have noted := @Relayout.comment ((ascii "version = 1 # format" ++ [byteOf '\r']) ::
      (clientSection ++ serverSection)) [] (ascii " ") (ascii " \"")
      (List.forall_mem_singleton.mpr (by decide)) (by decide)
    rw [List.append_nil] at noted
    exact ((Relation.ReflTransGen.single swapped).tail ended).tail noted
  cases parsed : parseConfiguration [] twoTunnels with
  | error what =>
      rw [parsed] at accepted
      cases accepted
  | ok configuration =>
      exact ⟨configuration, rfl,
        parseConfiguration_relaid [] twoTunnels twoTunnelsRelaid configuration parsed relaid⟩

end Texts

end DatagramTunneler
