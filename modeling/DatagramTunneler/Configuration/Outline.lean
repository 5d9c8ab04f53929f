import DatagramTunneler.Configuration
import DatagramTunneler.Foundation.Fallible
import Mathlib.Data.List.Induction

/-! What a text of the file format says, apart from how the loop keeps it. A line
is blank, opens a section or assigns a key; the lines make an outline of what is
assigned before the first section and in each section. `parseConfiguration`
accepts exactly the texts with a legal outline whose sections make tunnels. -/

set_option autoImplicit false

namespace DatagramTunneler

open Foundation

inductive ConfigurationLine where
  | blank
  | header (alias_ : Text)
  | assignment (key value : Text)
  deriving DecidableEq, Repr

/-- The meaning of one line, `none` where it has none. -/
def ConfigurationLine.read (line : Text) : Option ConfigurationLine :=
  let content := trim (removeComment line)
  if content.isEmpty then some .blank
  else if content.head? = some (byteOf '[') ∧ content.getLast? = some (byteOf ']') then
    let section_name := (content.drop 1).dropLast
    let alias_ := section_name.drop ConfigurationReader.sectionPrefix.length
    if section_name.take ConfigurationReader.sectionPrefix.length ≠ ConfigurationReader.sectionPrefix ∨
        !isAlias alias_ then none
    else some (.header alias_)
  else match find content (byteOf '=') with
    | none => none
    | some separator =>
        let key := trim (content.take separator)
        match parseValue (trim (content.drop (separator + 1))) key with
        | .ok value => some (.assignment key value)
        | .error _ => none

structure ConfigurationSection where
  alias_ : Text
  assignments : List (Text × Text)
  deriving DecidableEq, Repr

/-- The map a section's assignments make. -/
def fieldsOf (assignments : List (Text × Text)) : TunnelFields :=
  assignments.foldl (fun fields (key, value) => fields.insert key value) ∅

/-- The sections stand in reverse, the open one first. -/
structure ConfigurationOutline where
  preamble : List (Text × Text) := []
  sections : List ConfigurationSection := []
  deriving DecidableEq, Repr

namespace ConfigurationOutline

def add (outline : ConfigurationOutline) : ConfigurationLine → ConfigurationOutline
  | .blank => outline
  | .header alias_ => { outline with sections := ⟨alias_, []⟩ :: outline.sections }
  | .assignment key value =>
      match outline.sections with
      | [] => { outline with preamble := outline.preamble ++ [(key, value)] }
      | active :: earlier => { outline with
          sections := { active with assignments := active.assignments ++ [(key, value)] } :: earlier }

/-- The outline of a text, where every line has a meaning. -/
def read (text : Text) : Option ConfigurationOutline :=
  ((getlines text).mapM ConfigurationLine.read).map fun lines => lines.foldl add {}

/-- What no line may break. -/
structure Legal (outline : ConfigurationOutline) : Prop where
  preamble : outline.preamble = [] ∨ outline.preamble = [(ascii "version", ascii "1")]
  named : ∀ part ∈ outline.sections, isAlias part.alias_ = true
  distinct : (outline.sections.map (·.alias_)).Nodup
  once : ∀ part ∈ outline.sections, (part.assignments.map Prod.fst).Nodup

/-- The local variables of the loop when it has read the outline. -/
def reader (outline : ConfigurationOutline) : ConfigurationReader where
  version := outline.preamble.length
  tunnel_fields := outline.sections.foldr
    (fun part fields => fields.insert part.alias_ (fieldsOf part.assignments)) ∅
  active_alias := (outline.sections.head?.map (·.alias_)).getD []

end ConfigurationOutline

/-! ## Assignments as a map -/

private theorem fieldsOf_snoc (assignments : List (Text × Text)) (key value : Text) :
    fieldsOf (assignments ++ [(key, value)]) = (fieldsOf assignments).insert key value := by
  simp [fieldsOf, List.foldl_append]

theorem mem_fieldsOf {assignments : List (Text × Text)} {key : Text} :
    key ∈ fieldsOf assignments ↔ key ∈ assignments.map Prod.fst := by
  induction assignments using List.reverseRecOn with
  | nil => simp [fieldsOf]
  | append_singleton assignments assignment ih =>
      rw [fieldsOf_snoc, Std.ExtTreeMap.mem_insert, ih, Std.LawfulEqCmp.compare_eq_iff_eq]
      simp [eq_comm, or_comm]

/-- With every key assigned once, the map holds what is assigned. -/
theorem getElem?_fieldsOf {assignments : List (Text × Text)}
    (once : (assignments.map Prod.fst).Nodup) {key value : Text} :
    (fieldsOf assignments)[key]? = some value ↔ (key, value) ∈ assignments := by
  induction assignments using List.reverseRecOn with
  | nil => simp [fieldsOf]
  | append_singleton assignments assignment ih =>
      obtain ⟨name, assigned⟩ := assignment
      rw [List.map_append, List.map_singleton, List.nodup_append] at once
      rw [fieldsOf_snoc, Std.ExtTreeMap.getElem?_insert]
      by_cases same : name = key
      · subst same
        have absent : ∀ value, (name, value) ∉ assignments := fun value inside =>
          once.2.2 name (List.mem_map_of_mem inside) name (by simp) rfl
        rw [if_pos Std.ReflCmp.compare_self]
        simp [absent, eq_comm]
      · rw [if_neg (mt Std.LawfulEqCmp.eq_of_compare same), ih once.1]
        simp [Ne.symm same]

namespace ConfigurationOutline

variable {outline : ConfigurationOutline}

theorem mem_reader {alias_ : Text} :
    alias_ ∈ outline.reader.tunnel_fields ↔ alias_ ∈ outline.sections.map (·.alias_) := by
  unfold reader
  induction outline.sections with
  | nil => simp
  | cons part sections ih =>
      rw [List.foldr_cons, Std.ExtTreeMap.mem_insert, ih, Std.LawfulEqCmp.compare_eq_iff_eq]
      simp [eq_comm]

theorem Legal.getElem?_reader (legal : outline.Legal) {alias_ : Text} {fields : TunnelFields} :
    outline.reader.tunnel_fields[alias_]? = some fields ↔
      ∃ part ∈ outline.sections, part.alias_ = alias_ ∧ fieldsOf part.assignments = fields := by
  have distinct := legal.distinct
  unfold reader
  dsimp only
  generalize outline.sections = sections at distinct
  induction sections with
  | nil => simp
  | cons part sections ih =>
      rw [List.map_cons, List.nodup_cons] at distinct
      rw [List.foldr_cons, Std.ExtTreeMap.getElem?_insert]
      by_cases same : part.alias_ = alias_
      · have others : ∀ other ∈ sections, other.alias_ ≠ alias_ := fun other inside equal =>
          distinct.1 (List.mem_map.mpr ⟨other, inside, equal.trans same.symm⟩)
        rw [if_pos (Std.LawfulEqCmp.compare_eq_iff_eq.mpr same), Option.some.injEq]
        constructor
        · intro assigned
          exact ⟨part, List.mem_cons_self .., same, assigned⟩
        · intro held
          obtain ⟨other, inside, named, assigned⟩ := held
          rcases List.mem_cons.mp inside with rfl | inside
          · exact assigned
          · exact absurd named (others other inside)
      · rw [if_neg (mt Std.LawfulEqCmp.eq_of_compare same)]
        refine (ih distinct.2).trans ?_
        simp [same]

theorem Legal.nonempty (legal : outline.Legal) {part : ConfigurationSection}
    (inside : part ∈ outline.sections) : part.alias_ ≠ [] := by
  intro empty
  have named := legal.named part inside
  rw [empty] at named
  cases named

private theorem Legal.of_add {entry : ConfigurationLine} (legal : (outline.add entry).Legal) :
    outline.Legal := by
  cases entry with
  | blank => exact legal
  | header alias_ =>
      have distinct := legal.distinct
      rw [add, List.map_cons, List.nodup_cons] at distinct
      exact {
        preamble := legal.preamble
        named := fun part inside => legal.named part (List.mem_cons_of_mem _ inside)
        distinct := distinct.2
        once := fun part inside => legal.once part (List.mem_cons_of_mem _ inside) }
  | assignment key value =>
      obtain ⟨preamble, sections⟩ := outline
      cases sections with
      | nil =>
          have single := legal.preamble
          exact {
            preamble := by
              cases preamble with
              | nil => exact .inl rfl
              | cons first rest => simp [add] at single
            named := by simp
            distinct := by simp
            once := by simp }
      | cons active earlier =>
          have first : ⟨active.alias_, active.assignments ++ [(key, value)]⟩ ∈
              (add ⟨preamble, active :: earlier⟩ (.assignment key value)).sections :=
            List.mem_cons_self
          exact {
            preamble := legal.preamble
            named := by
              intro part inside
              rcases List.mem_cons.mp inside with rfl | inside
              · have named := legal.named _ first
                exact named
              · exact legal.named part (List.mem_cons_of_mem _ inside)
            distinct := legal.distinct
            once := by
              intro part inside
              rcases List.mem_cons.mp inside with rfl | inside
              · have once := legal.once _ first
                rw [List.map_append] at once
                exact (List.nodup_append.mp once).1
              · exact legal.once part (List.mem_cons_of_mem _ inside) }

private theorem Legal.of_foldl {entries : List ConfigurationLine}
    (legal : (entries.foldl add outline).Legal) : outline.Legal := by
  induction entries generalizing outline with
  | nil => exact legal
  | cons entry entries ih => exact (ih legal).of_add

/-! ## The loop keeps the outline -/

private theorem readSection_iff (legal : outline.Legal) {line_number : Nat} {section_name : Text}
    {next : ConfigurationReader} :
    outline.reader.readSection line_number section_name = .ok next ↔
      (section_name.take ConfigurationReader.sectionPrefix.length = ConfigurationReader.sectionPrefix ∧
        isAlias (section_name.drop ConfigurationReader.sectionPrefix.length) = true) ∧
      (outline.add (.header (section_name.drop ConfigurationReader.sectionPrefix.length))).Legal ∧
      next = (outline.add
        (.header (section_name.drop ConfigurationReader.sectionPrefix.length))).reader := by
  generalize named : section_name.drop ConfigurationReader.sectionPrefix.length = alias_
  have fresh : isAlias alias_ = true →
      ((outline.add (.header alias_)).Legal ↔ alias_ ∉ outline.sections.map (·.alias_)) := by
    intro valid
    constructor
    · intro later
      have distinct := later.distinct
      rw [add, List.map_cons, List.nodup_cons] at distinct
      exact distinct.1
    · intro absent
      exact {
        preamble := legal.preamble
        named := by
          intro part inside
          rcases List.mem_cons.mp inside with rfl | inside
          · exact valid
          · exact legal.named part inside
        distinct := List.nodup_cons.mpr ⟨absent, legal.distinct⟩
        once := by
          intro part inside
          rcases List.mem_cons.mp inside with rfl | inside
          · exact List.nodup_nil
          · exact legal.once part inside }
  unfold ConfigurationReader.readSection
  rw [named]
  dsimp only
  split_ifs with malformed taken
  · simp only [false_iff]
    intro held
    obtain ⟨⟨front, valid⟩, -⟩ := held
    simp [front, valid] at malformed
  · simp only [false_iff]
    intro held
    obtain ⟨⟨-, valid⟩, later, -⟩ := held
    rw [Std.ExtTreeMap.contains_iff_mem, mem_reader] at taken
    exact (fresh valid).mp later taken
  · simp only [not_or, not_not, Bool.not_eq_true'] at malformed
    have valid : isAlias alias_ = true := by simpa using malformed.2
    rw [Std.ExtTreeMap.contains_iff_mem, mem_reader] at taken
    have opened : outline.add (.header alias_) = { outline with
        sections := ⟨alias_, []⟩ :: outline.sections } := rfl
    constructor
    · intro read
      cases read
      exact ⟨⟨malformed.1, valid⟩, (fresh valid).mpr taken, rfl⟩
    · intro held
      obtain ⟨-, -, rfl⟩ := held
      rfl

private theorem insert_insert_self (fields : Std.ExtTreeMap Text TunnelFields compare) (alias_ : Text)
    (first last : TunnelFields) :
    (fields.insert alias_ first).insert alias_ last = fields.insert alias_ last := by
  apply Std.ExtTreeMap.ext_getElem?
  intro other
  rw [Std.ExtTreeMap.getElem?_insert, Std.ExtTreeMap.getElem?_insert,
    Std.ExtTreeMap.getElem?_insert]
  split <;> rfl

/-- A section takes an assignment of any key it has not assigned. -/
theorem Legal.assign_active {preamble : List (Text × Text)} {active : ConfigurationSection}
    {earlier : List ConfigurationSection} (legal : Legal ⟨preamble, active :: earlier⟩)
    {key value : Text} :
    (add ⟨preamble, active :: earlier⟩ (.assignment key value)).Legal ↔
      key ∉ active.assignments.map Prod.fst := by
  have once := legal.once active (List.mem_cons_self ..)
  constructor
  · intro later taken
    have first := later.once ⟨active.alias_, active.assignments ++ [(key, value)]⟩ List.mem_cons_self
    rw [List.map_append, List.nodup_append] at first
    exact first.2.2 key taken key (by simp) rfl
  · intro absent
    exact {
      preamble := legal.preamble
      named := by
        intro part inside
        rcases List.mem_cons.mp inside with rfl | inside
        · exact legal.named active (List.mem_cons_self ..)
        · exact legal.named part (List.mem_cons_of_mem _ inside)
      distinct := legal.distinct
      once := by
        intro part inside
        rcases List.mem_cons.mp inside with rfl | inside
        · rw [List.map_append, List.nodup_append]
          refine ⟨once, by simp, ?_⟩
          intro first taken last added same
          rw [same] at taken
          exact absent (by simpa [List.mem_singleton.mp added] using taken)
        · exact legal.once part (List.mem_cons_of_mem _ inside) }

private theorem readAssignment_iff (legal : outline.Legal) {line_number : Nat} {key value : Text}
    {next : ConfigurationReader} :
    outline.reader.readAssignment line_number key value = .ok next ↔
      (outline.add (.assignment key value)).Legal ∧
        next = (outline.add (.assignment key value)).reader := by
  obtain ⟨preamble, sections⟩ := outline
  unfold ConfigurationReader.readAssignment
  cases sections with
  | nil =>
      have active : (reader ⟨preamble, []⟩).active_alias.isEmpty = true := rfl
      have permitted : (add ⟨preamble, []⟩ (.assignment key value)).Legal ↔
          preamble = [] ∧ key = ascii "version" ∧ value = ascii "1" := by
        constructor
        · intro later
          rcases later.preamble with none | single
          · simp [add] at none
          · cases preamble with
            | nil => simpa [add] using single
            | cons first rest => simp [add] at single
        · intro held
          obtain ⟨rfl, rfl, rfl⟩ := held
          exact { legal with preamble := .inr rfl }
      rw [if_pos active, permitted]
      cases preamble with
      | nil =>
          split_ifs with refused
          · simp only [false_iff]
            intro held
            obtain ⟨⟨-, rfl, rfl⟩, -⟩ := held
            simp [reader] at refused
          · simp only [not_or, not_not] at refused
            constructor
            · intro read
              cases read
              exact ⟨⟨rfl, refused.1, refused.2.2⟩, rfl⟩
            · intro held
              obtain ⟨-, rfl⟩ := held
              rfl
      | cons first rest =>
          have again : (reader ⟨first :: rest, []⟩).version ≠ 0 := Nat.succ_ne_zero _
          rw [if_pos (.inr (.inl again))]
          simp
  | cons active earlier =>
      have some : active.alias_ ≠ [] := legal.nonempty (List.mem_cons_self ..)
      have open_ : ¬ (reader ⟨preamble, active :: earlier⟩).active_alias.isEmpty = true := by
        simpa [reader] using some
      have fields : (reader ⟨preamble, active :: earlier⟩).tunnel_fields.getD
          (reader ⟨preamble, active :: earlier⟩).active_alias ∅ = fieldsOf active.assignments := by
        simp [reader]
      have extended : (add ⟨preamble, active :: earlier⟩ (.assignment key value)).reader =
          { reader ⟨preamble, active :: earlier⟩ with
            tunnel_fields := (reader ⟨preamble, active :: earlier⟩).tunnel_fields.insert
              (reader ⟨preamble, active :: earlier⟩).active_alias
              ((fieldsOf active.assignments).insert key value) } := by
        simp [reader, add, fieldsOf_snoc, insert_insert_self]
      rw [if_neg open_, legal.assign_active, extended]
      dsimp only
      rw [fields]
      split_ifs with taken
      · rw [Std.ExtTreeMap.contains_iff_mem, mem_fieldsOf] at taken
        simp [taken]
      · rw [Std.ExtTreeMap.contains_iff_mem, mem_fieldsOf] at taken
        simp only [taken, not_false_eq_true, true_and, Except.ok.injEq]
        exact eq_comm

/-- One pass of the loop adds the line to the outline, where that is legal. -/
theorem readLine_iff (legal : outline.Legal) {line_number : Nat} {line : Text}
    {next : ConfigurationReader} :
    outline.reader.readLine line_number line = .ok next ↔
      ∃ entry, ConfigurationLine.read line = some entry ∧ (outline.add entry).Legal ∧
        next = (outline.add entry).reader := by
  unfold ConfigurationReader.readLine ConfigurationLine.read
  generalize trim (removeComment line) = content
  dsimp only
  split_ifs with empty header malformed
  · simp only [Except.ok.injEq, Option.some.injEq, exists_eq_left', add, legal, true_and]
    exact eq_comm
  · rw [readSection_iff legal]
    generalize (content.drop 1).dropLast = section_name at malformed ⊢
    constructor
    · intro held
      obtain ⟨⟨front, valid⟩, -⟩ := held
      rcases malformed with bad | bad
      · exact absurd front bad
      · rw [valid] at bad
        cases bad
    · intro held
      obtain ⟨entry, meant, -⟩ := held
      cases meant
  · rw [readSection_iff legal]
    generalize (content.drop 1).dropLast = section_name at malformed ⊢
    simp only [not_or, not_not, Bool.not_eq_true', Bool.not_eq_false] at malformed
    simp [malformed]
  · cases find content (byteOf '=') with
    | none => simp
    | some separator =>
        dsimp only
        cases parseValue (trim (content.drop (separator + 1))) (trim (content.take separator)) with
        | error what => simp [bind, Except.bind]
        | ok value =>
            simp only [bind, Except.bind, Option.some.injEq, exists_eq_left']
            exact readAssignment_iff legal

/-- The loop over any number of lines. -/
theorem readLines_iff (legal : outline.Legal) {read : Nat} {lines : List Text}
    {final : ConfigurationReader} :
    outline.reader.readLines read lines = .ok final ↔
      ∃ entries, lines.mapM ConfigurationLine.read = some entries ∧
        (entries.foldl add outline).Legal ∧ final = (entries.foldl add outline).reader := by
  induction lines generalizing outline read with
  | nil =>
      simp only [ConfigurationReader.readLines, List.mapM_nil, Except.ok.injEq]
      constructor
      · intro same
        subst same
        exact ⟨[], rfl, legal, rfl⟩
      · intro held
        obtain ⟨entries, listed, -, rfl⟩ := held
        cases listed
        rfl
  | cons line lines ih =>
      rw [ConfigurationReader.readLines, except_bind_eq_ok]
      constructor
      · intro held
        obtain ⟨next, passed, rest⟩ := held
        obtain ⟨entry, meant, later, rfl⟩ := (readLine_iff legal).mp passed
        obtain ⟨entries, listed, final⟩ := (ih later).mp rest
        exact ⟨entry :: entries, by simp [meant, listed], final⟩
      · intro held
        obtain ⟨entries, listed, final, rfl⟩ := held
        obtain ⟨entry, rest, meant, later, rfl⟩ := mapM_cons_eq_some.mp listed
        have here : (outline.add entry).Legal := Legal.of_foldl final
        exact ⟨(outline.add entry).reader, (readLine_iff legal).mpr ⟨entry, meant, here, rfl⟩,
          (ih here).mpr ⟨rest, later, final, rfl⟩⟩

/-! ## Whole texts -/

/-- The tunnels are those of the sections, in the order of the map. -/
def Makes (interfaces : List Interface) (outline : ConfigurationOutline)
    (configuration : TunnelConfiguration) : Prop :=
  List.Forall₂ (fun entry tunnel => makeTunnel interfaces entry.1 entry.2 = .ok tunnel)
    outline.reader.tunnel_fields.toList configuration.tunnels

theorem parseConfiguration_iff {interfaces : List Interface} {input : Text}
    {configuration : TunnelConfiguration} :
    parseConfiguration interfaces input = .ok configuration ↔
      ∃ outline, read input = some outline ∧ outline.Legal ∧
        outline.preamble = [(ascii "version", ascii "1")] ∧
        outline.Makes interfaces configuration := by
  have empty : Legal {} := ⟨.inl rfl, by simp, by simp, by simp⟩
  have start : (reader {} : ConfigurationReader) = {} := rfl
  have finished : ∀ outline : ConfigurationOutline, outline.Legal →
      (outline.reader.finish interfaces = .ok configuration ↔
        outline.preamble = [(ascii "version", ascii "1")] ∧
          outline.Makes interfaces configuration) := by
    intro outline legal
    unfold ConfigurationReader.finish
    rcases legal.preamble with none | single
    · simp [reader, none]
    · have version : outline.reader.version = 1 := by simp [reader, single]
      obtain ⟨tunnels⟩ := configuration
      rw [if_neg (not_not.mpr version), except_bind_eq_ok]
      simp only [single, true_and, Makes, ← mapM_eq_ok]
      constructor
      · intro held
        obtain ⟨made, all, same⟩ := held
        cases same
        exact all
      · intro all
        exact ⟨tunnels, all, rfl⟩
  unfold parseConfiguration read
  rw [except_bind_eq_ok, ← start]
  constructor
  · intro held
    obtain ⟨final, ran, made⟩ := held
    obtain ⟨entries, listed, legal, rfl⟩ := (readLines_iff empty).mp ran
    exact ⟨_, by rw [listed]; rfl, legal, (finished _ legal).mp made⟩
  · intro held
    obtain ⟨outline, meant, legal, made⟩ := held
    obtain ⟨entries, listed, rfl⟩ := Option.map_eq_some_iff.mp meant
    exact ⟨_, (readLines_iff empty).mpr ⟨entries, listed, legal, rfl⟩, (finished _ legal).mpr made⟩

end ConfigurationOutline

end DatagramTunneler
