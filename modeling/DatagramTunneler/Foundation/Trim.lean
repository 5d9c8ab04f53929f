import Mathlib.Data.List.Basic
import Mathlib.Data.List.TakeWhile

/-! Removing from both ends of a list what satisfies a test. What lies between two
elements that stay is left as it is. -/

set_option autoImplicit false

namespace Foundation

variable {Item : Type} {blank : Item → Bool}

def trimBy (blank : Item → Bool) (items : List Item) : List Item :=
  ((items.dropWhile blank).reverse.dropWhile blank).reverse

section

variable {front back core items : List Item} {item first last : Item}

private theorem dropWhile_append_visible (visible : blank first = false) :
    (front ++ first :: back).dropWhile blank = front.dropWhile blank ++ first :: back := by
  rw [List.dropWhile_append, List.dropWhile_cons_of_neg (by simp [visible])]
  split
  · next empty => rw [List.isEmpty_iff.mp empty]; rfl
  · rfl

private theorem rdropWhile_append_visible (visible : blank last = false) :
    ((front ++ last :: back).reverse.dropWhile blank).reverse =
      front ++ last :: (back.reverse.dropWhile blank).reverse := by
  rw [List.reverse_append, List.reverse_cons, List.append_assoc, List.singleton_append,
    dropWhile_append_visible visible]
  simp

theorem trimBy_around (visible : blank item = false) :
    trimBy blank (front ++ item :: back) =
      front.dropWhile blank ++ item :: (back.reverse.dropWhile blank).reverse := by
  rw [trimBy, dropWhile_append_visible visible, rdropWhile_append_visible visible]

private theorem dropWhile_idem (items : List Item) :
    (items.dropWhile blank).dropWhile blank = items.dropWhile blank := by
  induction items with
  | nil => rfl
  | cons item items ih =>
      cases here : blank item with
      | true => rw [List.dropWhile_cons_of_pos here, ih]
      | false =>
          have stays : ¬ blank item = true := by simp [here]
          rw [List.dropWhile_cons_of_neg stays, List.dropWhile_cons_of_neg stays]

theorem trimBy_dropWhile (items : List Item) :
    trimBy blank (items.dropWhile blank) = trimBy blank items := by
  rw [trimBy, dropWhile_idem, trimBy]

theorem trimBy_eq_nil (all : ∀ item ∈ items, blank item = true) : trimBy blank items = [] := by
  rw [trimBy, List.dropWhile_eq_nil_iff.mpr all]
  rfl

theorem trimBy_reverse (items : List Item) : trimBy blank items.reverse = (trimBy blank items).reverse := by
  cases shape : items.find? (!blank ·) with
  | none =>
      have all : ∀ item ∈ items, blank item = true := by simpa using shape
      rw [trimBy_eq_nil all, trimBy_eq_nil fun item inside => all item (List.mem_reverse.mp inside)]
      rfl
  | some item =>
      have visible : blank item = false := by simpa using List.find?_some shape
      obtain ⟨front, back, rfl⟩ := List.append_of_mem (List.mem_of_find?_eq_some shape)
      rw [trimBy_around visible, List.reverse_append, List.reverse_cons, List.append_assoc,
        List.singleton_append, trimBy_around visible]
      simp

theorem trimBy_rdropWhile (items : List Item) :
    trimBy blank (items.reverse.dropWhile blank).reverse = trimBy blank items := by
  rw [trimBy_reverse, trimBy_dropWhile, trimBy_reverse, List.reverse_reverse]

theorem head?_trimBy (items : List Item) : (trimBy blank items).head? = (items.dropWhile blank).head? := by
  rw [← trimBy_dropWhile]
  have visible := List.head?_dropWhile_not blank items
  cases shape : items.dropWhile blank with
  | nil => rfl
  | cons item rest =>
      rw [shape] at visible
      have around : trimBy blank (item :: rest) = item :: (rest.reverse.dropWhile blank).reverse :=
        @trimBy_around Item blank [] rest item visible
      rw [around]
      rfl

theorem mem_trimBy (inside : item ∈ items) (visible : blank item = false) : item ∈ trimBy blank items := by
  obtain ⟨front, back, rfl⟩ := List.append_of_mem inside
  rw [trimBy_around visible]
  simp

theorem mem_of_mem_trimBy (inside : item ∈ trimBy blank items) : item ∈ items := by
  have suffix : ∀ {items : List Item}, item ∈ items.dropWhile blank → item ∈ items :=
    fun inside => (List.dropWhile_suffix _).subset inside
  exact suffix (List.mem_reverse.mp (suffix (List.mem_reverse.mp inside)))

/-- A part that begins and ends with something else than white space is kept whole. -/
theorem trimBy_core (head : core.head? = some first) (visible : blank first = false)
    (final : core.getLast? = some last) (lastVisible : blank last = false) :
    trimBy blank (front ++ core ++ back) =
      front.dropWhile blank ++ core ++ (back.reverse.dropWhile blank).reverse := by
  obtain ⟨start, rfl⟩ : ∃ start, core = start ++ [last] :=
    ⟨core.dropLast, (List.dropLast_append_getLast? last final).symm⟩
  have ahead : (front ++ (start ++ [last]) ++ back).dropWhile blank =
      front.dropWhile blank ++ start ++ last :: back := by
    cases whole : start ++ [last] with
    | nil => simp at whole
    | cons item rest =>
        rw [whole] at head
        cases head
        rw [List.append_assoc, List.cons_append, dropWhile_append_visible visible, ← List.cons_append,
          ← whole]
        simp
  rw [trimBy, ahead, rdropWhile_append_visible lastVisible]
  simp

theorem trimBy_padded (frontBlank : ∀ item ∈ front, blank item = true)
    (backBlank : ∀ item ∈ back, blank item = true) (head : core.head? = some first)
    (visible : blank first = false) (final : core.getLast? = some last)
    (lastVisible : blank last = false) : trimBy blank (front ++ core ++ back) = core := by
  rw [trimBy_core head visible final lastVisible, List.dropWhile_eq_nil_iff.mpr frontBlank,
    List.dropWhile_eq_nil_iff.mpr fun item inside => backBlank item (List.mem_reverse.mp inside)]
  simp

theorem trimBy_eq_self (head : core.head? = some first) (visible : blank first = false)
    (final : core.getLast? = some last) (lastVisible : blank last = false) : trimBy blank core = core := by
  have padded := @trimBy_padded Item blank [] [] core first last (by simp) (by simp) head visible final
    lastVisible
  simpa using padded

theorem visible_of_head?_trimBy (head : (trimBy blank items).head? = some first) : blank first = false := by
  have rejected := List.head?_dropWhile_not blank items
  rw [head?_trimBy] at head
  rw [head] at rejected
  simpa using rejected

theorem visible_of_getLast?_trimBy (final : (trimBy blank items).getLast? = some last) :
    blank last = false := by
  rw [← List.head?_reverse, ← trimBy_reverse] at final
  exact visible_of_head?_trimBy final

/-- What is removed is white space in front and behind. -/
theorem trimBy_layout (items : List Item) :
    ∃ front back, items = front ++ trimBy blank items ++ back ∧
      (∀ item ∈ front, blank item = true) ∧ ∀ item ∈ back, blank item = true := by
  have tail : ∀ items : List Item, items = (items.reverse.dropWhile blank).reverse ++
      (items.reverse.takeWhile blank).reverse := by
    intro items
    rw [← List.reverse_append, List.takeWhile_append_dropWhile, List.reverse_reverse]
  refine ⟨items.takeWhile blank, ((items.dropWhile blank).reverse.takeWhile blank).reverse, ?_,
    fun item inside => List.mem_takeWhile_imp inside,
    fun item inside => List.mem_takeWhile_imp (List.mem_reverse.mp inside)⟩
  rw [trimBy, List.append_assoc, ← tail, List.takeWhile_append_dropWhile]

end

end Foundation
