import Mathlib.Data.List.Basic
import TagTooltips.Proofs.Text.Bytes

/-! The first occurrence of a pattern whose first character does not come again in it. No occurrence lies across a
place where that character stands, so two of them never overlap. -/

namespace TagTooltips.Text

section Infix

variable {α : Type} {x : α} {rest a b : List α}

theorem prefix_append_cons_iff (hx : x ∉ rest) : rest <+: a ++ x :: b ↔ rest <+: a := by
  constructor
  · intro h
    rcases List.prefix_or_prefix_of_prefix h (List.prefix_append a (x :: b)) with hshort | ⟨more, hmore⟩
    · exact hshort
    · cases more with
      | nil =>
        have ha : a = rest := (List.append_nil a).symm.trans hmore
        exact ha ▸ List.prefix_rfl
      | cons y more =>
        -- It would go on with the character that is not in it.
        rw [← hmore, List.prefix_append_right_inj, List.cons_prefix_cons] at h
        refine absurd ?_ hx
        rw [← hmore, h.1]
        exact List.mem_append_right a List.mem_cons_self
  · exact fun h => h.trans (List.prefix_append a (x :: b))

theorem infix_append_cons_iff (hx : x ∉ rest) :
    x :: rest <:+: a ++ x :: b ↔ x :: rest <:+: a ∨ x :: rest <:+: x :: b := by
  induction a with
  | nil => simp
  | cons y a ih =>
    have hprefix : x :: rest <+: y :: (a ++ x :: b) ↔ x :: rest <+: y :: a := by
      rw [List.cons_prefix_cons, List.cons_prefix_cons, prefix_append_cons_iff hx]
    have htail : x :: rest <:+: y :: a ↔ x :: rest <+: y :: a ∨ x :: rest <:+: a := List.infix_cons_iff
    rw [List.cons_append, List.infix_cons_iff, ih, hprefix, htail, or_assoc]

theorem infix_append_iff_of_notMem (hx : x ∉ a) : x :: rest <:+: a ++ b ↔ x :: rest <:+: b := by
  induction a with
  | nil => rfl
  | cons y a ih =>
    rw [List.mem_cons, not_or] at hx
    have hprefix : ¬ x :: rest <+: y :: (a ++ b) := fun h => hx.1 (List.cons_prefix_cons.mp h).1
    rw [List.cons_append, List.infix_cons_iff, ih hx.2]
    exact or_iff_right hprefix

end Infix

variable {x : Char} {pattern rest a b s : List Char} {n : Nat}

theorem indexOf?_eq_none_iff (hne : pattern ≠ []) : indexOf? pattern s = none ↔ ¬ pattern <:+: s := by
  induction s with
  | nil => simp [indexOf?, hne]
  | cons c s ih =>
    rw [indexOf?, List.infix_cons_iff]
    split
    · rename_i hprefix
      exact iff_of_false (by simp) fun h => h (.inl (List.isPrefixOf_iff_prefix.mp hprefix))
    · rename_i hprefix
      have hnone : ¬ pattern <+: c :: s := mt List.isPrefixOf_iff_prefix.mpr hprefix
      rw [Option.map_eq_none_iff, ih, not_or]
      exact (and_iff_right hnone).symm

theorem indexOf?_of_prefix (h : pattern <+: s) : indexOf? pattern s = some 0 := by
  cases s with
  | nil =>
    rw [indexOf?, List.prefix_nil.mp h]
    rfl
  | cons c s => rw [indexOf?, if_pos (List.isPrefixOf_iff_prefix.mpr h)]

theorem indexOf?_cons_of_not_prefix {c : Char} (h : ¬ pattern <+: c :: s) :
    indexOf? pattern (c :: s) = (indexOf? pattern s).map (· + 1) := by
  rw [indexOf?, if_neg (mt List.isPrefixOf_iff_prefix.mp h)]

theorem le_of_indexOf?_append (h : indexOf? pattern (a ++ (pattern ++ b)) = some n) : n ≤ a.length := by
  induction a generalizing n with
  | nil =>
    rw [List.nil_append, indexOf?_of_prefix (List.prefix_append pattern b)] at h
    cases h
    exact Nat.le_refl 0
  | cons c a ih =>
    by_cases hprefix : pattern <+: c :: (a ++ (pattern ++ b))
    · rw [List.cons_append, indexOf?_of_prefix hprefix] at h
      cases h
      exact Nat.zero_le _
    · rw [List.cons_append, indexOf?_cons_of_not_prefix hprefix, Option.map_eq_some_iff] at h
      obtain ⟨k, hk, rfl⟩ := h
      exact Nat.succ_le_succ (ih hk)

theorem indexOf?_append (hx : x ∉ rest) (ha : ¬ x :: rest <:+: a) :
    indexOf? (x :: rest) (a ++ (x :: rest ++ b)) = some a.length := by
  induction a with
  | nil => exact indexOf?_of_prefix (List.prefix_append (x :: rest) b)
  | cons c a ih =>
    rw [List.infix_cons_iff, not_or] at ha
    have hprefix : ¬ x :: rest <+: c :: (a ++ (x :: rest ++ b)) := by
      rw [List.cons_prefix_cons, List.cons_append, prefix_append_cons_iff hx, ← List.cons_prefix_cons]
      exact ha.1
    rw [List.cons_append, indexOf?_cons_of_not_prefix hprefix, ih ha.2]
    rfl

theorem exists_of_indexOf? (hne : pattern ≠ []) (h : indexOf? pattern s = some n) :
    ∃ a b, s = a ++ (pattern ++ b) ∧ a.length = n ∧ ¬ pattern <:+: a := by
  obtain ⟨b, hb⟩ := prefix_of_indexOf? h
  have hlength : (s.take n).length = n :=
    List.length_take_of_le (Nat.le_of_add_right_le (length_le_of_indexOf? hne h))
  have hs : s = s.take n ++ (pattern ++ b) := by rw [hb, List.take_append_drop]
  refine ⟨s.take n, b, hs, hlength, ?_⟩
  rintro ⟨u, v, hearlier⟩
  rw [hs, ← hearlier, List.append_assoc, List.append_assoc] at h
  have hle := le_of_indexOf?_append h
  have hpos := List.length_pos_of_ne_nil hne
  have htake := congrArg List.length hearlier
  simp only [List.length_append] at htake
  omega

end TagTooltips.Text
