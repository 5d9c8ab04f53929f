import Mathlib.Data.List.Basic

/-! Streams that arrive in segments. What a reader knows of a segmentation is where
segments end, and how much has arrived before a segment brings what it waits for. -/

set_option autoImplicit false

namespace Foundation

variable {Item : Type}

structure Segmentation (limit : Nat) (stream : List Item) where
  segments : List (List Item)
  whole : segments.flatten = stream
  sized : ∀ segment ∈ segments, segment ≠ [] ∧ segment.length ≤ limit

/-- A segment ends where so many items have arrived. -/
def EndsAt (segments : List (List Item)) (size : Nat) : Prop :=
  ∃ read rest, segments = read ++ rest ∧ read.flatten.length = size

/-- The segment that completes the first `size` items finds `before` of them. -/
def CompletesAt (segments : List (List Item)) (size before : Nat) : Prop :=
  ∃ front segment rest, segments = front ++ segment :: rest ∧ front.flatten.length = before ∧
    before < size ∧ size ≤ before + segment.length

section

variable {segments : List (List Item)} {size before limit : Nat} {stream : List Item}

theorem EndsAt.length_le (ends : EndsAt segments size) : size ≤ segments.flatten.length := by
  obtain ⟨read, rest, rfl, rfl⟩ := ends
  rw [List.flatten_append, List.length_append]
  exact Nat.le_add_right _ _

theorem endsAt_length (segments : List (List Item)) : EndsAt segments segments.flatten.length :=
  ⟨segments, [], (List.append_nil _).symm, rfl⟩

theorem exists_completesAt (positive : 0 < size) (within : size ≤ segments.flatten.length) :
    ∃ before, CompletesAt segments size before := by
  induction segments generalizing size with
  | nil => exact absurd (Nat.lt_of_lt_of_le positive within) (Nat.lt_irrefl _)
  | cons segment segments ih =>
      rw [List.flatten_cons, List.length_append] at within
      by_cases here : size ≤ segment.length
      · exact ⟨0, [], segment, segments, rfl, rfl, positive, by omega⟩
      · have later : 0 < size - segment.length ∧ size - segment.length ≤ segments.flatten.length := by
          omega
        obtain ⟨before, front, last, rest, rfl, arrived, missing, completes⟩ := ih later.1 later.2
        refine ⟨segment.length + before, segment :: front, last, rest, rfl, ?_, by omega, by omega⟩
        rw [List.flatten_cons, List.length_append, arrived]

/-- A segment brings no more than its limit. -/
theorem CompletesAt.le_add_limit {segmentation : Segmentation limit stream}
    (completes : CompletesAt segmentation.segments size before) : size ≤ before + limit := by
  obtain ⟨front, segment, rest, layout, -, -, enough⟩ := completes
  have listed : segment ∈ segmentation.segments := by
    rw [layout]
    exact List.mem_append_right _ (List.mem_cons_self ..)
  have bound := (segmentation.sized segment listed).2
  omega

/-- Where segments end from the completing one on. -/
theorem EndsAt.split {front rest : List (List Item)} {segment : List Item}
    (ends : EndsAt (front ++ segment :: rest) size) (behind : front.flatten.length < size) :
    ∃ read last, rest = read ++ last ∧ (front ++ segment :: read).flatten.length = size := by
  obtain ⟨whole, last, layout, total⟩ := ends
  rcases List.append_eq_append_iff.mp layout with ⟨read, rfl, tail⟩ | ⟨read, rfl, tail⟩
  · cases read with
    | nil =>
        rw [List.append_nil] at total
        exact absurd total (Nat.ne_of_lt behind)
    | cons first read =>
        rw [List.cons_append, List.cons.injEq] at tail
        obtain ⟨rfl, rfl⟩ := tail
        exact ⟨read, last, rfl, total⟩
  · rw [List.flatten_append, List.length_append] at behind
    omega

/-! ## Segments of one item -/

def oneByOne (items : List Item) : List (List Item) := items.map ([·])

@[simp] theorem flatten_oneByOne (items : List Item) : (oneByOne items).flatten = items := by
  induction items with
  | nil => rfl
  | cons item items ih => exact congrArg (item :: ·) ih

private theorem mem_oneByOne {items segment : List Item} (listed : segment ∈ oneByOne items) :
    segment.length = 1 := by
  obtain ⟨item, -, rfl⟩ := List.mem_map.mp listed
  rfl

private theorem oneByOne_sized {items segment : List Item} (positive : 0 < limit)
    (listed : segment ∈ oneByOne items) : segment ≠ [] ∧ segment.length ≤ limit := by
  have one := mem_oneByOne listed
  exact ⟨List.ne_nil_of_length_pos (by omega), by omega⟩

def Segmentation.single (items : List Item) (positive : 0 < limit) : Segmentation limit items where
  segments := oneByOne items
  whole := flatten_oneByOne items
  sized := fun _ listed => oneByOne_sized positive listed

/-- One segment is given, and everything around it comes one by one. -/
def Segmentation.around (front middle back : List Item) (some : middle ≠ [])
    (bounded : middle.length ≤ limit) : Segmentation limit (front ++ (middle ++ back)) where
  segments := oneByOne front ++ middle :: oneByOne back
  whole := by simp
  sized := by
    have positive : 0 < limit := Nat.lt_of_lt_of_le (List.length_pos_iff.mpr some) bounded
    intro segment listed
    cases List.mem_append.mp listed with
    | inl listed => exact oneByOne_sized positive listed
    | inr listed =>
        cases List.mem_cons.mp listed with
        | inl same =>
            rw [same]
            exact ⟨some, bounded⟩
        | inr listed => exact oneByOne_sized positive listed

variable {front middle back : List Item} {some : middle ≠ []} {bounded : middle.length ≤ limit}

theorem completesAt_around :
    CompletesAt (Segmentation.around front middle back some bounded).segments
      (front.length + middle.length) front.length :=
  ⟨oneByOne front, middle, oneByOne back, rfl, by rw [flatten_oneByOne],
    Nat.lt_add_of_pos_right (List.length_pos_iff.mpr some), Nat.le_refl _⟩

theorem endsAt_around {more : Nat} (within : more ≤ back.length) :
    EndsAt (Segmentation.around front middle back some bounded).segments
      (front.length + middle.length + more) := by
  refine ⟨oneByOne front ++ middle :: oneByOne (back.take more), oneByOne (back.drop more), ?_, ?_⟩
  · simp [Segmentation.around, oneByOne]
  · simp [Nat.min_eq_left within, Nat.add_assoc]

/-- No segment ends inside the given one. -/
theorem not_endsAt_around (after : front.length < size) (inside : size < front.length + middle.length) :
    ¬ EndsAt (Segmentation.around front middle back some bounded).segments size := by
  intro ends
  have arrived : (oneByOne front).flatten.length < size := by rwa [flatten_oneByOne]
  obtain ⟨read, last, -, total⟩ := ends.split arrived
  rw [List.flatten_append, List.length_append, List.flatten_cons, List.length_append,
    flatten_oneByOne] at total
  omega

/-- Items that come one by one are completed at the last moment. -/
theorem completesAt_oneByOne {items : List Item} (completes : CompletesAt (oneByOne items) size before) :
    size = before + 1 := by
  obtain ⟨front, segment, rest, layout, -, missing, enough⟩ := completes
  have listed : segment ∈ oneByOne items := by
    rw [layout]
    exact List.mem_append_right _ (List.mem_cons_self ..)
  have one := mem_oneByOne listed
  omega

end

end Foundation
