import Mathlib.Data.List.Basic
import TagTooltips.Text.WhiteSpace

/-! Lines of a text. No line holds a line feed, so that what is done to each line by itself can be read
off the lines of the result. -/

namespace TagTooltips.Text

theorem notMem_of_mem_splitOn {α : Type} [BEq α] [LawfulBEq α] {a : α} {s line : List α}
    (h : line ∈ s.splitOn a) : a ∉ line := by
  induction s generalizing line with
  | nil =>
    rw [List.splitOn_nil, List.mem_singleton] at h
    simp [h]
  | cons x s ih =>
    rw [List.splitOn_cons_eq_if_modifyHead] at h
    obtain ⟨first, rest, hlines⟩ := List.exists_cons_of_ne_nil (List.splitOn_ne_nil a s)
    rw [hlines] at h ih
    split at h
    · rcases List.mem_cons.mp h with rfl | h
      · simp
      · exact ih h
    · rename_i hx
      rw [List.modifyHead_cons, List.mem_cons] at h
      rcases h with rfl | h
      · have hx' : a ≠ x := by
          rintro rfl
          simp at hx
        simpa [hx'] using ih List.mem_cons_self
      · exact ih (List.mem_cons_of_mem first h)

theorem mem_of_mem_stripBoth {p : Char → Bool} {s : List Char} {c : Char}
    (h : c ∈ stripBoth p s) : c ∈ s := by
  rw [stripBoth, List.mem_reverse] at h
  have h := (List.dropWhile_sublist p).mem h
  rw [List.mem_reverse] at h
  exact (List.dropWhile_sublist p).mem h

theorem splitOn_trimLines (s : List Char) :
    (trimLines s).splitOn '\n' = (s.splitOn '\n').map trim := by
  refine List.splitOn_intercalate '\n' (fun line h => ?_) (by simp [List.splitOn_ne_nil])
  obtain ⟨line, hline, rfl⟩ := List.mem_map.mp h
  exact fun hmem => notMem_of_mem_splitOn hline (mem_of_mem_stripBoth hmem)

end TagTooltips.Text
