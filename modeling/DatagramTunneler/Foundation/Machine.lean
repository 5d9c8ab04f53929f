import Mathlib.Data.List.Basic
import Mathlib.Data.Option.Basic

/-! Labelled machines. A label fixes everything a step does not determine by
itself: which party moves and what the environment answers. `step` returns
`none` where the label is not possible, so one definition serves for running a
concrete schedule and for quantifying over all of them. -/

set_option autoImplicit false

namespace Foundation

structure Machine (State Label : Type) where
  step : State → Label → Option State

namespace Machine

variable {State Label : Type} (machine : Machine State Label)

/-- The state after a whole schedule, or `none` if some label was not possible. -/
def exec : State → List Label → Option State
  | state, [] => some state
  | state, label :: labels => (machine.step state label).bind fun next => exec next labels

@[simp] theorem exec_nil (state : State) : machine.exec state [] = some state := rfl

theorem exec_cons_iff {state final : State} {label : Label} {labels : List Label} :
    machine.exec state (label :: labels) = some final ↔
      ∃ next, machine.step state label = some next ∧ machine.exec next labels = some final := by
  simp only [exec, Option.bind_eq_some_iff]

theorem exec_append_iff {state final : State} {first last : List Label} :
    machine.exec state (first ++ last) = some final ↔
      ∃ middle, machine.exec state first = some middle ∧ machine.exec middle last = some final := by
  induction first generalizing state with
  | nil => simp
  | cons label first ih =>
      simp only [List.cons_append, exec_cons_iff, ih]
      constructor
      · intro held
        obtain ⟨next, stepped, middle, ran, rest⟩ := held
        exact ⟨middle, ⟨next, stepped, ran⟩, rest⟩
      · intro held
        obtain ⟨middle, ⟨next, stepped, ran⟩, rest⟩ := held
        exact ⟨next, stepped, middle, ran, rest⟩

theorem exec_singleton_iff {state final : State} {label : Label} :
    machine.exec state [label] = some final ↔ machine.step state label = some final := by
  simp [exec_cons_iff]

theorem exec_snoc_iff {state final : State} {labels : List Label} {label : Label} :
    machine.exec state (labels ++ [label]) = some final ↔
      ∃ middle, machine.exec state labels = some middle ∧ machine.step middle label = some final := by
  simp only [exec_append_iff, exec_singleton_iff]

/-! ## Invariants -/

/-- `property` holds of every state the schedule passes through, both ends included. -/
def Along (property : State → Prop) (state : State) (labels : List Label) : Prop :=
  ∀ passed, passed <+: labels → ∀ reached, machine.exec state passed = some reached → property reached

/-- Every step of the schedule is taken in a state where `guard` allows it. -/
def Guarded (guard : State → Label → Prop) (state : State) (labels : List Label) : Prop :=
  ∀ passed label, passed ++ [label] <+: labels →
    ∀ reached, machine.exec state passed = some reached → guard reached label

variable {machine}

theorem guarded_cons {guard : State → Label → Prop} {state next : State} {label : Label}
    {labels : List Label} (stepped : machine.step state label = some next) :
    machine.Guarded guard state (label :: labels) ↔
      guard state label ∧ machine.Guarded guard next labels := by
  constructor
  · intro guarded
    refine ⟨guarded [] label (by simp) state rfl, ?_⟩
    intro passed last within reached ran
    exact guarded (label :: passed) last (by simpa using within) reached
      ((machine.exec_cons_iff).mpr ⟨next, stepped, ran⟩)
  · intro held passed last within reached ran
    obtain ⟨here, later⟩ := held
    cases passed with
    | nil =>
        obtain rfl : last = label := by simpa using within
        cases ran
        exact here
    | cons head passed =>
        obtain ⟨rfl, inside⟩ : head = label ∧ passed ++ [last] <+: labels :=
          List.cons_prefix_cons.mp within
        obtain ⟨middle, headStep, ran⟩ := (machine.exec_cons_iff).mp ran
        cases stepped.symm.trans headStep
        exact later passed last inside reached ran

@[simp] theorem guarded_nil {guard : State → Label → Prop} {state : State} :
    machine.Guarded guard state [] := by
  intro passed label within
  simp at within

theorem guarded_append {guard : State → Label → Prop} {state middle : State}
    {first last : List Label} (ran : machine.exec state first = some middle) :
    machine.Guarded guard state (first ++ last) ↔
      machine.Guarded guard state first ∧ machine.Guarded guard middle last := by
  induction first generalizing state with
  | nil => cases ran; simp
  | cons label first ih =>
      obtain ⟨next, stepped, ran⟩ := (machine.exec_cons_iff).mp ran
      rw [List.cons_append, guarded_cons stepped, guarded_cons stepped, ih ran, and_assoc]

theorem Guarded.of_prefix {guard : State → Label → Prop} {state : State} {first labels : List Label}
    (guarded : machine.Guarded guard state labels) (within : first <+: labels) :
    machine.Guarded guard state first :=
  fun passed label inside => guarded passed label (inside.trans within)

/-- Follow a schedule and check the guard on the way. -/
def check (machine : Machine State Label) (guard : State → Label → Bool) :
    State → List Label → Bool
  | _, [] => true
  | state, label :: labels =>
      guard state label &&
        match machine.step state label with
        | some next => check machine guard next labels
        | none => true

theorem guarded_of_check {guard : State → Label → Bool} {state : State} {labels : List Label}
    (checked : machine.check guard state labels = true) :
    machine.Guarded (fun state label => guard state label = true) state labels := by
  induction labels generalizing state with
  | nil => exact guarded_nil
  | cons label labels ih =>
      rw [check, Bool.and_eq_true] at checked
      obtain ⟨here, later⟩ := checked
      cases stepped : machine.step state label with
      | none =>
          intro passed last within reached ran
          cases passed with
          | nil =>
              obtain rfl : last = label := by simpa using within
              cases ran
              exact here
          | cons head passed =>
              obtain ⟨rfl, -⟩ : head = label ∧ passed ++ [last] <+: labels :=
                List.cons_prefix_cons.mp within
              obtain ⟨middle, headStep, -⟩ := (machine.exec_cons_iff).mp ran
              cases stepped.symm.trans headStep
      | some next =>
          rw [stepped] at later
          exact (guarded_cons stepped).mpr ⟨here, ih later⟩

/-- An invariant that each allowed step keeps holds at the end of every run
whose steps are all allowed. -/
theorem invariant_of_guarded {guard : State → Label → Prop} {invariant : State → Prop}
    (preserved : ∀ {state label next}, invariant state → guard state label →
      machine.step state label = some next → invariant next)
    {state final : State} {labels : List Label} (ran : machine.exec state labels = some final)
    (guarded : machine.Guarded guard state labels) (initial : invariant state) : invariant final := by
  induction labels generalizing state with
  | nil => cases ran; exact initial
  | cons label labels ih =>
      obtain ⟨next, stepped, ran⟩ := (machine.exec_cons_iff).mp ran
      obtain ⟨allowed, guarded⟩ := (guarded_cons stepped).mp guarded
      exact ih ran guarded (preserved initial allowed stepped)

theorem invariant_of_exec {invariant : State → Prop}
    (preserved : ∀ {state label next}, invariant state →
      machine.step state label = some next → invariant next)
    {state final : State} {labels : List Label} (ran : machine.exec state labels = some final)
    (initial : invariant state) : invariant final := by
  have free : machine.Guarded (fun _ _ => True) state labels := fun _ _ _ _ _ => trivial
  exact invariant_of_guarded (fun holds _ stepped => preserved holds stepped) ran free initial

/-- The invariant rule for every state passed on the way. -/
theorem along_of_guarded {guard : State → Label → Prop} {invariant : State → Prop}
    (preserved : ∀ {state label next}, invariant state → guard state label →
      machine.step state label = some next → invariant next)
    {state : State} {labels : List Label} (guarded : machine.Guarded guard state labels)
    (initial : invariant state) : machine.Along invariant state labels :=
  fun _ within _ ran => invariant_of_guarded preserved ran (guarded.of_prefix within) initial

/-- Where a step out of a good state ends in a good state exactly when the guard
allows it, the good runs are exactly the guarded ones. `sound` is what may be
used because it holds in every run. -/
theorem along_iff_guarded {guard : State → Label → Prop} {sound property : State → Prop}
    (kept : ∀ {state label next}, sound state → machine.step state label = some next → sound next)
    (exact : ∀ {state label next}, sound state → property state →
      machine.step state label = some next → (property next ↔ guard state label))
    {state final : State} {labels : List Label} (ran : machine.exec state labels = some final)
    (base : sound state) (initial : property state) :
    machine.Along property state labels ↔ machine.Guarded guard state labels := by
  constructor
  · intro good passed label within reached reaches
    obtain ⟨rest, rfl⟩ := within
    obtain ⟨next, through, -⟩ := (machine.exec_append_iff).mp ran
    obtain ⟨middle, same, stepped⟩ := (machine.exec_snoc_iff).mp through
    cases reaches.symm.trans same
    have here : sound reached := invariant_of_exec kept reaches base
    exact (exact here (good passed ⟨[label] ++ rest, by simp⟩ _ reaches) stepped).mp
      (good _ (List.prefix_append _ _) _ through)
  · intro guarded passed within reached reaches
    have both := @invariant_of_guarded State Label machine guard
      (fun state => sound state ∧ property state)
      (fun holds allowed stepped =>
        ⟨kept holds.1 stepped, (exact holds.1 holds.2 stepped).mpr allowed⟩)
      state reached passed reaches (guarded.of_prefix within) ⟨base, initial⟩
    exact both.2

/-- A measure that every allowed step decreases bounds the length of allowed runs. -/
theorem length_le_of_decreasing {guard : State → Label → Prop} {measure : State → Nat}
    (decreases : ∀ {state label next}, guard state label →
      machine.step state label = some next → measure next < measure state)
    {state final : State} {labels : List Label} (ran : machine.exec state labels = some final)
    (guarded : machine.Guarded guard state labels) :
    labels.length + measure final ≤ measure state := by
  induction labels generalizing state with
  | nil => cases ran; simp
  | cons label labels ih =>
      obtain ⟨next, stepped, ran⟩ := (machine.exec_cons_iff).mp ran
      obtain ⟨allowed, guarded⟩ := (guarded_cons stepped).mp guarded
      have rest := ih ran guarded
      have smaller := decreases allowed stepped
      rw [List.length_cons]
      omega

/-- A measure that no step increases bounds how often the steps that decrease it are taken. -/
theorem countP_le_of_decreasing {sound : State → Prop} {counts : Label → Bool} {measure : State → Nat}
    (kept : ∀ {state label next}, sound state → machine.step state label = some next → sound next)
    (decreases : ∀ {state label next}, sound state → machine.step state label = some next →
      measure next + (if counts label then 1 else 0) ≤ measure state)
    {state final : State} {labels : List Label} (ran : machine.exec state labels = some final)
    (base : sound state) : labels.countP counts + measure final ≤ measure state := by
  induction labels generalizing state with
  | nil => cases ran; simp
  | cons label labels ih =>
      obtain ⟨next, stepped, ran⟩ := (machine.exec_cons_iff).mp ran
      have rest := ih ran (kept base stepped)
      have smaller := decreases base stepped
      rw [List.countP_cons]
      omega

/-! ## Simulation -/

/-- A run survives the loss of labels whose steps keep the two states related. -/
theorem exec_filter {related : State → State → Prop} {keeps : Label → Bool}
    (skipped : ∀ {state other label next}, related state other → keeps label = false →
      machine.step state label = some next → related next other)
    (followed : ∀ {state other label next}, related state other → keeps label = true →
      machine.step state label = some next →
      ∃ onward, machine.step other label = some onward ∧ related next onward)
    {state other final : State} {labels : List Label} (ran : machine.exec state labels = some final)
    (alike : related state other) :
    ∃ reduced, machine.exec other (labels.filter keeps) = some reduced ∧ related final reduced := by
  induction labels generalizing state other with
  | nil => cases ran; exact ⟨other, rfl, alike⟩
  | cons label labels ih =>
      obtain ⟨next, stepped, ran⟩ := (machine.exec_cons_iff).mp ran
      cases kept : keeps label with
      | false =>
          rw [List.filter_cons_of_neg (by simp [kept])]
          exact ih ran (skipped alike kept stepped)
      | true =>
          obtain ⟨onward, along, alike⟩ := followed alike kept stepped
          obtain ⟨reduced, rest, final⟩ := ih ran alike
          rw [List.filter_cons_of_pos kept]
          exact ⟨reduced, (machine.exec_cons_iff).mpr ⟨onward, along, rest⟩, final⟩

end Machine

end Foundation
