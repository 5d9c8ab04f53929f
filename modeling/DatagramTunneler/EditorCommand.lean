import DatagramTunneler.CommandArguments

/-! Splitting the command line of an editor. A word that is quoted comes back as it
was, but a word with nothing in it leaves no trace. -/

set_option autoImplicit false

namespace DatagramTunneler

/-- An argument in double quotes, with quotes and backslashes escaped. -/
def quoteArgument (argument : Text) : Text :=
  byteOf '"' :: argument.flatMap (fun byte =>
    if byte = byteOf '"' ∨ byte = byteOf '\\' then [byteOf '\\', byte] else [byte]) ++ [byteOf '"']

/-- Quoted arguments with white space between them. -/
def editorLine (first : Text) (rest : List (Text × Text)) : Text :=
  quoteArgument first ++ rest.flatMap fun part => part.1 ++ quoteArgument part.2

namespace EditorCommandReader

private theorem foldl_read_escaped (argument : Text) (reader : EditorCommandReader)
    (quoted : reader.quote = byteOf '"') (plain : reader.escaped = false) :
    (argument.flatMap (fun byte =>
      if byte = byteOf '"' ∨ byte = byteOf '\\' then [byteOf '\\', byte] else [byte])).foldl read reader =
        { reader with argument := reader.argument ++ argument } := by
  induction argument generalizing reader with
  | nil => simp
  | cons byte argument ih =>
      have step : (if byte = byteOf '"' ∨ byte = byteOf '\\' then [byteOf '\\', byte] else [byte]).foldl
          read reader = { reader with argument := reader.argument ++ [byte] } := by
        have open_ : byteOf '"' ≠ 0 := by decide
        split_ifs with special
        · simp [read, plain]
        · rw [not_or] at special
          simp [read, plain, special.2, quoted, open_, special.1]
      rw [List.flatMap_cons, List.foldl_append, step]
      exact (ih { reader with argument := reader.argument ++ [byte] } quoted plain).trans (by simp)

/-- A quoted argument is added to the word. -/
theorem foldl_read_quoted (argument : Text) {reader : EditorCommandReader}
    (unquoted : reader.quote = 0) (plain : reader.escaped = false) :
    (quoteArgument argument).foldl read reader =
      { reader with argument := reader.argument ++ argument } := by
  have slash : byteOf '"' ≠ byteOf '\\' := by decide
  have opened : read reader (byteOf '"') = { reader with quote := byteOf '"' } := by
    simp [read, plain, unquoted, slash]
  rw [quoteArgument, List.cons_append, List.foldl_cons, opened, List.foldl_append,
    foldl_read_escaped argument { reader with quote := byteOf '"' } rfl plain]
  have closed : byteOf '"' ≠ 0 := by decide
  simp [read, plain, slash, closed, unquoted]

/-- White space ends a word that has something in it. -/
theorem foldl_read_gap {gap : Text} (nonempty : gap ≠ []) (blank : ∀ byte ∈ gap, isspace byte = true)
    {reader : EditorCommandReader} (unquoted : reader.quote = 0) (plain : reader.escaped = false) :
    gap.foldl read reader = { reader with
      arguments := reader.arguments ++ [reader.argument].filter (· ≠ []), argument := [] } := by
  have step : ∀ byte, isspace byte = true → ∀ reader : EditorCommandReader, reader.quote = 0 →
      reader.escaped = false → read reader byte = { reader with
        arguments := reader.arguments ++ [reader.argument].filter (· ≠ []), argument := [] } := by
    intro byte space reader unquoted plain
    have visible : byte ≠ byteOf '\\' ∧ byte ≠ byteOf '\'' ∧ byte ≠ byteOf '"' := by
      refine ⟨?_, ?_, ?_⟩
      all_goals
        intro same
        subst same
        revert space
        decide
    obtain ⟨arguments, argument, quote, escaped⟩ := reader
    cases unquoted
    cases plain
    cases argument with
    | nil => simp [read, visible, space]
    | cons => simp [read, visible, space]
  induction gap generalizing reader with
  | nil => exact absurd rfl nonempty
  | cons byte gap ih =>
      have here := step byte (blank byte (List.mem_cons_self ..)) reader unquoted plain
      rw [List.foldl_cons, here]
      cases gap with
      | nil => rfl
      | cons next gap =>
          refine (ih (List.cons_ne_nil _ _) (fun byte inside => blank byte (List.mem_cons_of_mem _ inside))
            ?_ ?_).trans ?_
          · exact unquoted
          · exact plain
          · simp

/-- Of the arguments behind it, and of the word so far, all that are not empty remain. -/
theorem foldl_read_rest {rest : List (Text × Text)} (gaps : ∀ part ∈ rest, part.1 ≠ [] ∧
      ∀ byte ∈ part.1, isspace byte = true) {reader : EditorCommandReader}
    (unquoted : reader.quote = 0) (plain : reader.escaped = false) :
    finish ((rest.flatMap fun part => part.1 ++ quoteArgument part.2).foldl read reader) =
      let arguments := reader.arguments ++ (reader.argument :: rest.map Prod.snd).filter (· ≠ [])
      if arguments.isEmpty then .error (ascii "VISUAL or EDITOR must name an editor executable")
      else .ok arguments := by
  induction rest generalizing reader with
  | nil =>
      have calm : ¬ (reader.escaped = true ∨ reader.quote ≠ 0) := by simp [plain, unquoted]
      rw [List.flatMap_nil, List.foldl_nil, finish, if_neg calm]
      cases reader.argument <;> simp
  | cons part rest ih =>
      obtain ⟨nonempty, blank⟩ := gaps part (List.mem_cons_self ..)
      have word := @foldl_read_quoted part.2 { reader with
        arguments := reader.arguments ++ [reader.argument].filter (· ≠ []), argument := [] } unquoted plain
      rw [List.flatMap_cons, List.foldl_append, List.foldl_append, foldl_read_gap nonempty blank unquoted plain,
        word]
      refine (ih ?_ ?_ ?_).trans ?_
      · exact fun part inside => gaps part (List.mem_cons_of_mem _ inside)
      · exact unquoted
      · exact plain
      · simp only [List.nil_append, List.append_assoc, List.map_cons]
        rw [← List.filter_append, List.singleton_append]

end EditorCommandReader

private theorem splitEditorCommand_editorLine {first : Text} {rest : List (Text × Text)}
    (gaps : ∀ part ∈ rest, part.1 ≠ [] ∧ ∀ byte ∈ part.1, isspace byte = true) (named : first ≠ []) :
    splitEditorCommand (editorLine first rest) = .ok ((first :: rest.map Prod.snd).filter (· ≠ [])) := by
  have start := @EditorCommandReader.foldl_read_quoted first {} rfl rfl
  rw [splitEditorCommand, editorLine, List.foldl_append, start,
    EditorCommandReader.foldl_read_rest gaps rfl rfl]
  simp [named]

/-- Splitting gives the quoted arguments back exactly if none of them is empty. -/
theorem splitEditorCommand_editorLine_iff (first : Text) (rest : List (Text × Text))
    (gaps : ∀ part ∈ rest, part.1 ≠ [] ∧ ∀ byte ∈ part.1, isspace byte = true) (named : first ≠ []) :
    splitEditorCommand (editorLine first rest) = .ok (first :: rest.map Prod.snd) ↔
      ∀ part ∈ rest, part.2 ≠ [] := by
  rw [splitEditorCommand_editorLine gaps named, Except.ok.injEq, List.filter_eq_self]
  constructor
  · intro all part inside
    exact of_decide_eq_true (all part.2 (List.mem_cons_of_mem _ (List.mem_map_of_mem inside)))
  · intro nonempty argument inside
    rcases List.mem_cons.mp inside with rfl | inside
    · exact decide_eq_true named
    · obtain ⟨part, listed, rfl⟩ := List.mem_map.mp inside
      exact decide_eq_true (nonempty part listed)

theorem splitEditorCommand_editorLine_quotes :
    splitEditorCommand (editorLine (ascii "my \"ed\\") [(ascii " \t", ascii "a b")]) =
      .ok [ascii "my \"ed\\", ascii "a b"] := by
  have blank : (ascii " \t").all (fun byte => isspace byte) = true := by decide
  refine (splitEditorCommand_editorLine_iff _ [(ascii " \t", ascii "a b")] ?_ (by decide)).mpr ?_
  · intro part inside
    obtain rfl := List.mem_singleton.mp inside
    exact ⟨by decide, List.all_eq_true.mp blank⟩
  · intro part inside
    obtain rfl := List.mem_singleton.mp inside
    decide

/-- An option with an empty value. -/
theorem emptyArgument_lost : ¬ splitEditorCommand
    (editorLine (ascii "vi") [(ascii " ", ascii "-c"), (ascii " ", [])]) = .ok [ascii "vi", ascii "-c", []] := by
  decide

end DatagramTunneler
