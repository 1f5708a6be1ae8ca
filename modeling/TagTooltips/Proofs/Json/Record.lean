import TagTooltips.Json.Basic

/-! Lists of records. What was written item by item is read item by item, and a list is only read if each of
its items is. -/

namespace TagTooltips

theorem Json.list?_map {α : Type} {read : Json → Option α} {write : α → Json}
    (h : ∀ a, read (write a) = some a) (as : List α) :
    list? read (.array (as.map write)) = some as := by
  show (as.map write).mapM read = some as
  induction as with
  | nil => rfl
  | cons a as ih => rw [List.map_cons, List.mapM_cons, h, ih]; rfl

theorem Json.exists_of_list? {α : Type} {read : Json → Option α} {items : List Json} {as : List α} {j : Json}
    (h : list? read (.array items) = some as) (hj : j ∈ items) : ∃ a, read j = some a := by
  change items.mapM read = some as at h
  induction items generalizing as with
  | nil => cases hj
  | cons first items ih =>
    simp only [List.mapM_cons, Option.bind_eq_bind, Option.bind_eq_some_iff] at h
    obtain ⟨a, hfirst, rest, hrest, -⟩ := h
    rcases List.mem_cons.mp hj with rfl | hj
    · exact ⟨a, hfirst⟩
    · exact ih hj hrest

end TagTooltips
