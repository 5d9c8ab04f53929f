import Mathlib.Data.List.Forall2

/-! Sequences of steps that may fail. A sequence succeeds exactly if every step of
it does, and then each step has its own result. -/

set_option autoImplicit false

namespace Foundation

theorem except_bind_eq_ok {Error First Last : Type} {source : Except Error First}
    {continuation : First → Except Error Last} {last : Last} :
    source >>= continuation = .ok last ↔
      ∃ first, source = .ok first ∧ continuation first = .ok last := by
  cases source with
  | error error => simp [bind, Except.bind]
  | ok first => simp [bind, Except.bind]

section Fold

variable {Error State Item : Type} {step : State → Item → Except Error State} {state next : State}

theorem foldlM_cons_ok {item : Item} (here : step state item = .ok next) (items : List Item) :
    (item :: items).foldlM step state = items.foldlM step next := by
  rw [List.foldlM_cons, here]
  rfl

theorem foldlM_append_ok {front : List Item} (here : front.foldlM step state = .ok next)
    (items : List Item) : (front ++ items).foldlM step state = items.foldlM step next := by
  rw [List.foldlM_append, here]
  rfl

end Fold

theorem mapM_cons_eq_some {First Last : Type} {function : First → Option Last} {first : First}
    {rest : List First} {results : List Last} :
    (first :: rest).mapM function = some results ↔
      ∃ head tail, function first = some head ∧ rest.mapM function = some tail ∧
        head :: tail = results := by
  simp [List.mapM_cons, Option.bind_eq_some_iff]

theorem mapM_cons_of_eq_some {First Last : Type} {function : First → Option Last} {first : First}
    {rest : List First} {last : Last} {results : List Last} (here : function first = some last)
    (there : rest.mapM function = some results) :
    (first :: rest).mapM function = some (last :: results) :=
  mapM_cons_eq_some.mpr ⟨last, results, here, there, rfl⟩

theorem mapM_eq_ok {Error First Last : Type} {function : First → Except Error Last}
    {firsts : List First} {lasts : List Last} :
    firsts.mapM function = .ok lasts ↔
      List.Forall₂ (fun first last => function first = .ok last) firsts lasts := by
  induction firsts generalizing lasts with
  | nil =>
      rw [List.forall₂_nil_left_iff]
      exact ⟨fun same => by cases same; rfl, fun same => by rw [same]; rfl⟩
  | cons first firsts ih =>
      rw [List.mapM_cons, except_bind_eq_ok]
      constructor
      · intro held
        obtain ⟨last, here, rest⟩ := held
        obtain ⟨more, there, same⟩ := except_bind_eq_ok.mp rest
        cases same
        exact .cons here (ih.mp there)
      · intro all
        cases all with
        | cons here there =>
            exact ⟨_, here, except_bind_eq_ok.mpr ⟨_, ih.mpr there, rfl⟩⟩

theorem forall₂_mem_right {First Last : Type} {related : First → Last → Prop} {firsts : List First}
    {lasts : List Last} (all : List.Forall₂ related firsts lasts) {last : Last}
    (inside : last ∈ lasts) : ∃ first ∈ firsts, related first last := by
  induction all with
  | nil => cases inside
  | cons here _ ih =>
      rcases List.mem_cons.mp inside with rfl | inside
      · exact ⟨_, List.mem_cons_self .., here⟩
      · obtain ⟨first, listed, there⟩ := ih inside
        exact ⟨first, List.mem_cons_of_mem _ listed, there⟩

theorem exists_forall₂ {First Last : Type} {related : First → Last → Prop} {firsts : List First}
    (each : ∀ first ∈ firsts, ∃ last, related first last) : ∃ lasts, List.Forall₂ related firsts lasts := by
  induction firsts with
  | nil => exact ⟨[], .nil⟩
  | cons first firsts ih =>
      obtain ⟨last, here⟩ := each first (List.mem_cons_self ..)
      obtain ⟨lasts, there⟩ := ih fun first inside => each first (List.mem_cons_of_mem _ inside)
      exact ⟨last :: lasts, .cons here there⟩

theorem mem_of_mapM_eq_some {First Last : Type} {function : First → Option Last} {firsts : List First}
    {lasts : List Last} (all : firsts.mapM function = some lasts) {last : Last} (inside : last ∈ lasts) :
    ∃ first ∈ firsts, function first = some last := by
  induction firsts generalizing lasts with
  | nil => cases all; cases inside
  | cons first firsts ih =>
      obtain ⟨head, tail, here, there, rfl⟩ := mapM_cons_eq_some.mp all
      rcases List.mem_cons.mp inside with rfl | inside
      · exact ⟨first, List.mem_cons_self .., here⟩
      · obtain ⟨other, listed, same⟩ := ih there inside
        exact ⟨other, List.mem_cons_of_mem _ listed, same⟩

theorem mapM_append_eq_some {First Last : Type} {function : First → Option Last}
    {firsts more : List First} {lasts rest : List Last} (here : firsts.mapM function = some lasts)
    (there : more.mapM function = some rest) : (firsts ++ more).mapM function = some (lasts ++ rest) := by
  rw [List.mapM_append, here, there]
  rfl

theorem mapM_eq_some_iff {First Last : Type} {function : First → Option Last} {firsts : List First}
    {lasts : List Last} : firsts.mapM function = some lasts ↔
      (∀ first ∈ firsts, (function first).isSome = true) ∧ firsts.filterMap function = lasts := by
  induction firsts generalizing lasts with
  | nil => simp
  | cons first firsts ih =>
      rw [mapM_cons_eq_some, List.forall_mem_cons]
      cases here : function first with
      | none => simp
      | some last =>
          rw [List.filterMap_cons_some here]
          constructor
          · intro results
            obtain ⟨head, tail, found, there, listed⟩ := results
            cases found
            obtain ⟨each, rest⟩ := ih.mp there
            exact ⟨⟨rfl, each⟩, by rw [rest, listed]⟩
          · intro results
            exact ⟨last, firsts.filterMap function, rfl, ih.mpr ⟨results.1.2, rfl⟩, results.2⟩

theorem mapM_of_eq_some {First Last : Type} {function : First → Option Last} {value : First → Last}
    {firsts : List First} (each : ∀ first ∈ firsts, function first = some (value first)) :
    firsts.mapM function = some (firsts.map value) := by
  induction firsts with
  | nil => rfl
  | cons first firsts ih =>
      have there := ih fun other inside => each other (List.mem_cons_of_mem _ inside)
      exact mapM_cons_of_eq_some (each first List.mem_cons_self) there

/-- Reading a list position by position. -/
theorem mapM_range {Value : Type} {values : List Value} {function : Nat → Option Value}
    (same : ∀ index < values.length, function index = values[index]?) :
    (List.range values.length).mapM function = some values := by
  induction values generalizing function with
  | nil => rfl
  | cons value values ih =>
      have first : function 0 = some value := same 0 (Nat.succ_pos _)
      rw [List.length_cons, List.range_succ_eq_map]
      refine mapM_cons_of_eq_some first ?_
      rw [List.mapM_map]
      exact ih fun index inside => same (index + 1) (Nat.succ_lt_succ inside)

end Foundation
