import Mathlib.Data.List.Basic

/-! A value that changes while several parties announce it to one reader, who keeps
the last announcement. An announcement carries the moment its value was read, and
arrives later. The reader ends up with the current value unless an announcement
arrives after one that was read later and says something else. -/

set_option autoImplicit false

namespace Foundation

structure Announcement (Value : Type) where
  moment : Nat
  value : Value

variable {Value : Type}

/-- What the reader keeps. -/
def latest (delivered : List (Announcement Value)) : Option Value :=
  delivered.getLast?.map (·.value)

@[simp] theorem latest_concat (delivered : List (Announcement Value))
    (announcement : Announcement Value) :
    latest (delivered ++ [announcement]) = some announcement.value := by
  simp [latest]

/-- `possible` are the announcements that may still arrive, `certain` the moments of
those that will. From some moment on everything that may arrive says the current
value, and such an announcement has arrived last or is still to come. -/
def Followed (current : Value) (possible : Announcement Value → Prop) (certain : Nat → Prop)
    (delivered : List (Announcement Value)) : Prop :=
  ∃ since, (∀ announcement, possible announcement → since ≤ announcement.moment →
      announcement.value = current) ∧
    ((∃ moment, certain moment ∧ since ≤ moment) ∨
      (latest delivered = some current ∧
        ∃ announcement ∈ delivered, since ≤ announcement.moment ∧ announcement.value = current))

namespace Followed

variable {current : Value} {possible remaining : Announcement Value → Prop}
  {certain still : Nat → Prop} {delivered : List (Announcement Value)}

/-- The value has just changed, and the change will be announced. -/
theorem changed {now : Nat}
    (older : ∀ announcement, possible announcement →
      announcement.moment < now ∨ announcement.value = current)
    (due : ∃ moment, certain moment ∧ now ≤ moment) :
    Followed current possible certain delivered := by
  refine ⟨now, ?_, .inl due⟩
  intro announcement here later
  rcases older announcement here with old | same
  · exact absurd later (Nat.not_le.mpr old)
  · exact same

/-- Announcements may be dropped if they are not certain, and made of the current value. -/
theorem mono (followed : Followed current possible certain delivered)
    (fewer : ∀ announcement, remaining announcement →
      possible announcement ∨ announcement.value = current)
    (kept : ∀ moment, certain moment → ∃ later, still later ∧ moment ≤ later) :
    Followed current remaining still delivered := by
  obtain ⟨since, fresh, arrives⟩ := followed
  refine ⟨since, ?_, ?_⟩
  · intro announcement here later
    rcases fewer announcement here with old | same
    · exact fresh announcement old later
    · exact same
  · rcases arrives with ⟨moment, sure, later⟩ | arrived
    · obtain ⟨next, sure, after⟩ := kept moment sure
      exact .inl ⟨next, sure, Nat.le_trans later after⟩
    · exact .inr arrived

/-- An announcement arrives in order: nothing read later that says something else has
arrived before it. -/
theorem deliver (followed : Followed current possible certain delivered)
    {arriving : Announcement Value} (here : possible arriving)
    (ordered : ∀ announcement ∈ delivered,
      announcement.moment ≤ arriving.moment ∨ announcement.value = arriving.value)
    (fewer : ∀ announcement, remaining announcement → possible announcement)
    (kept : ∀ moment, certain moment →
      (∃ later, still later ∧ moment ≤ later) ∨ moment ≤ arriving.moment) :
    Followed current remaining still (delivered ++ [arriving]) := by
  obtain ⟨since, fresh, arrives⟩ := followed
  refine ⟨since, fun announcement there => fresh announcement (fewer announcement there), ?_⟩
  by_cases late : since ≤ arriving.moment
  · have same := fresh arriving here late
    refine .inr ⟨by rw [latest_concat, same], arriving, ?_, late, same⟩
    exact List.mem_append_right _ (List.mem_singleton.mpr rfl)
  · rcases arrives with ⟨moment, sure, later⟩ | ⟨-, witness, inside, later, same⟩
    · rcases kept moment sure with ⟨next, sure, after⟩ | before
      · exact .inl ⟨next, sure, Nat.le_trans later after⟩
      · exact absurd (Nat.le_trans later before) late
    · have agrees : witness.value = arriving.value := by
        rcases ordered witness inside with before | agrees
        · exact absurd (Nat.le_trans later before) late
        · exact agrees
      refine .inr ⟨by rw [latest_concat, ← agrees, same], witness, ?_, later, same⟩
      exact List.mem_append_left _ inside

/-- When nothing is still to come the reader has the current value. -/
theorem settled (followed : Followed current possible certain delivered)
    (quiet : ∀ moment, ¬ certain moment) : latest delivered = some current := by
  obtain ⟨since, -, ⟨moment, sure, -⟩ | ⟨last, -⟩⟩ := followed
  · exact absurd sure (quiet moment)
  · exact last

end Followed

end Foundation
