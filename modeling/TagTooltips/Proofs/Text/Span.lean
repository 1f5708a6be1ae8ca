import Mathlib.Data.List.TakeWhile

/-! A list up to its first member without a property. -/

namespace TagTooltips

variable {α : Type} {p : α → Bool} {x y : α} {a b r s : List α}

theorem takeWhile_append_cons (ha : ∀ c ∈ a, p c) (hx : p x = false) :
    (a ++ x :: r).takeWhile p = a := by
  rw [List.takeWhile_append_of_pos ha, List.takeWhile_cons_of_neg (by simp [hx]), List.append_nil]

theorem dropWhile_append_cons (ha : ∀ c ∈ a, p c) (hx : p x = false) :
    (a ++ x :: r).dropWhile p = x :: r := by
  rw [List.dropWhile_append_of_pos ha, List.dropWhile_cons_of_neg (by simp [hx])]

theorem takeWhile_append_stop (ha : ∀ c ∈ a, p c) (hstop : ∀ x r, b = x :: r → p x = false) :
    (a ++ b).takeWhile p = a := by
  cases b with
  | nil => rw [List.append_nil, List.takeWhile_eq_self_iff.mpr ha]
  | cons x r => exact takeWhile_append_cons ha (hstop x r rfl)

theorem dropWhile_append_stop (ha : ∀ c ∈ a, p c) (hstop : ∀ x r, b = x :: r → p x = false) :
    (a ++ b).dropWhile p = b := by
  cases b with
  | nil => rw [List.append_nil, List.dropWhile_eq_nil_iff.mpr ha]
  | cons x r => exact dropWhile_append_cons ha (hstop x r rfl)

theorem of_dropWhile_eq_cons (h : s.dropWhile p = x :: r) : p x = false := by
  have hhead : ∀ hne, p ((s.dropWhile p).head hne) = false := List.head_dropWhile_not p
  rw [h] at hhead
  exact hhead (List.cons_ne_nil x r)

theorem exists_eq_takeWhile_append_cons (h : ¬ ∀ c ∈ s, p c) :
    ∃ x r, s = s.takeWhile p ++ x :: r ∧ p x = false := by
  have hne : s.dropWhile p ≠ [] := mt List.dropWhile_eq_nil_iff.mp h
  obtain ⟨x, r, hrest⟩ := List.exists_cons_of_ne_nil hne
  refine ⟨x, r, ?_, of_dropWhile_eq_cons hrest⟩
  rw [← hrest, List.takeWhile_append_dropWhile]

theorem append_cons_inj (ha : ∀ c ∈ a, p c) (hb : ∀ c ∈ b, p c) (hx : p x = false)
    (hy : p y = false) (h : a ++ x :: r = b ++ y :: s) : a = b ∧ x :: r = y :: s := by
  have hab : a = b := by
    rw [← takeWhile_append_cons ha hx, h, takeWhile_append_cons hb hy]
  subst hab
  exact ⟨rfl, List.append_cancel_left h⟩

end TagTooltips
