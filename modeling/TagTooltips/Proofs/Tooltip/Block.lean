import TagTooltips.Tooltip.Compose

/-! A tooltip is one block for each entry, and each block is a header with what the documentation adds to it. -/

namespace TagTooltips

namespace Tooltip

def addition (documentation : Option String) : String :=
  match (Documentation.extract documentation).value with
  | none => ""
  | some summary => if (prose summary).value.isEmpty then "" else "\n\n" ++ (prose summary).value

variable {α : Type} [Entry α]

theorem value_block (e : α) :
    (block e).value = (Entry.header e).value ++ addition (Entry.documentation e) := by
  unfold block addition
  rw [Noted.value_bind, Noted.value_bind]
  cases (Documentation.extract (Entry.documentation e)).value with
  | none => exact (String.append_empty).symm
  | some summary =>
    simp only [Noted.value_bind, Noted.value_pure]
    by_cases hempty : (prose summary).value.isEmpty
    · rw [if_pos hempty, if_pos hempty, String.append_empty]
    · rw [if_neg hempty, if_neg hempty, String.append_assoc]

theorem value_compose {entries : List α} (h : entries ≠ []) : (compose entries).value =
    some (separator.intercalate (entries.map fun e => (block e).value)) := by
  unfold compose
  rw [Noted.value_bind, Noted.value_mapM, Noted.value_pure, if_neg (by simpa using h)]

end Tooltip

end TagTooltips
