import Mathlib.Data.List.Destutter
import Mathlib.Data.List.Sort
import Mathlib.Data.String.Basic
import TagTooltips.Store.Basic

/-! Lists in strictly ascending order. Their members determine them, so it does not matter in which order
the members were found, nor whether repeated ones go before or after sorting. -/

namespace TagTooltips

variable {α : Type} {f : α → String} {xs ys : List α} {a : String} {as bs : List String}

theorem nodup_eraseDups (as : List String) : as.eraseDups.Nodup := by
  cases as with
  | nil => exact List.nodup_nil
  | cons a as =>
    have hlater := nodup_eraseDups (as.filter fun b => !b == a)
    rw [List.eraseDups_cons, List.nodup_cons, List.mem_eraseDups]
    exact ⟨by simp, hlater⟩
termination_by as.length
decreasing_by exact Nat.lt_succ_of_le (List.length_filter_le ..)

theorem pairwise_mergeSort_le : (xs.mergeSort fun x y => f x ≤ f y).Pairwise (f · ≤ f ·) := by
  have hsorted : (xs.mergeSort fun x y => f x ≤ f y).Pairwise fun x y => decide (f x ≤ f y) = true :=
    List.pairwise_mergeSort (fun x y z => by simpa using le_trans)
      (fun x y => by simpa using le_total (f x) (f y)) xs
  exact hsorted.imp of_decide_eq_true

theorem pairwise_lt_of_nodup (hle : xs.Pairwise (f · ≤ f ·)) (hnodup : (xs.map f).Nodup) :
    xs.Pairwise (f · < f ·) := by
  have hne : xs.Pairwise (f · ≠ f ·) := List.pairwise_map.mp hnodup
  exact (hle.and hne).imp fun h => lt_of_le_of_ne h.1 h.2

theorem pairwise_mergeSort_lt (hnodup : (xs.map f).Nodup) :
    (xs.mergeSort fun x y => f x ≤ f y).Pairwise (f · < f ·) := by
  have hperm : (xs.mergeSort fun x y => f x ≤ f y).Perm xs := List.mergeSort_perm ..
  exact pairwise_lt_of_nodup pairwise_mergeSort_le ((hperm.map f).nodup_iff.mpr hnodup)

theorem eq_of_pairwise_lt (hxs : xs.Pairwise (f · < f ·)) (hys : ys.Pairwise (f · < f ·))
    (hperm : xs.Perm ys) : xs = ys :=
  hperm.eq_of_pairwise (fun _ _ _ _ hlt hgt => absurd hgt (lt_asymm hlt)) hxs hys

theorem mergeSort_eq_of_perm (hperm : xs.Perm ys) (hnodup : (ys.map f).Nodup) :
    (xs.mergeSort fun x y => f x ≤ f y) = ys.mergeSort fun x y => f x ≤ f y := by
  refine eq_of_pairwise_lt ?_ (pairwise_mergeSort_lt hnodup) ?_
  · exact pairwise_mergeSort_lt ((hperm.map f).nodup_iff.mpr hnodup)
  · exact (List.mergeSort_perm ..).trans (hperm.trans (List.mergeSort_perm ..).symm)

def ascending (as : List String) : List String := as.eraseDups.mergeSort fun a b => a ≤ b

theorem mem_ascending : a ∈ ascending as ↔ a ∈ as := by
  rw [ascending, List.mem_mergeSort, List.mem_eraseDups]

theorem pairwise_ascending : (ascending as).Pairwise (· < ·) := by
  have hnodup : (as.eraseDups.map id).Nodup := by
    rw [List.map_id]
    exact nodup_eraseDups as
  exact pairwise_mergeSort_lt hnodup

theorem eq_ascending_iff : bs = ascending as ↔ bs.Pairwise (· < ·) ∧ ∀ a, a ∈ bs ↔ a ∈ as := by
  constructor
  · rintro rfl
    exact ⟨pairwise_ascending, fun _ => mem_ascending⟩
  · rintro ⟨hbs, hmem⟩
    exact hbs.eq_of_mem_iff pairwise_ascending fun a => (hmem a).trans mem_ascending.symm

theorem ascending_congr (h : ∀ a, a ∈ bs ↔ a ∈ as) : ascending bs = ascending as :=
  eq_ascending_iff.mpr ⟨pairwise_ascending, fun a => mem_ascending.trans (h a)⟩

theorem destutter_mergeSort : (as.mergeSort fun a b => a ≤ b).destutter (· ≠ ·) = ascending as := by
  have hsorted : (as.mergeSort fun a b => a ≤ b).Pairwise (· ≤ ·) := pairwise_mergeSort_le (f := id)
  rw [hsorted.destutter_eq_dedup, eq_ascending_iff]
  refine ⟨?_, fun a => by rw [List.mem_dedup, List.mem_mergeSort]⟩
  refine pairwise_lt_of_nodup (f := id) (hsorted.sublist (List.dedup_sublist _)) ?_
  rw [List.map_id]
  exact List.nodup_dedup _

end TagTooltips
