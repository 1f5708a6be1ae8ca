import Mathlib.Data.List.DropRight
import TagTooltips.Proofs.Text.Lines
import TagTooltips.Proofs.Text.Span

/-! What is left of a list when its ends are stripped. For a text of lines it makes no difference whether line feeds
are stripped from the text or empty lines from the list of its lines. -/

namespace TagTooltips.Text

section Strip

variable {α : Type} {p : α → Bool} {c : α} {front rest s : List α}

def strip (p : α → Bool) (s : List α) : List α := (s.dropWhile p).rdropWhile p

theorem strip_eq_nil_iff : strip p s = [] ↔ ∀ c ∈ s, p c := by
  rw [strip, List.rdropWhile_eq_nil_iff, ← List.dropWhile_eq_nil_iff, List.dropWhile_idempotent,
    List.dropWhile_eq_nil_iff]

theorem mem_of_mem_strip (h : c ∈ strip p s) : c ∈ s :=
  (List.dropWhile_sublist p).mem ((List.rdropWhile_prefix p _).mem h)

theorem not_of_strip_eq_cons (h : strip p s = c :: rest) : ¬ p c := by
  obtain ⟨more, hmore⟩ : strip p s <+: s.dropWhile p := List.rdropWhile_prefix p _
  rw [h, List.cons_append] at hmore
  exact Bool.eq_false_iff.mp (of_dropWhile_eq_cons hmore.symm)

theorem not_of_strip_eq_concat (h : strip p s = front ++ [c]) : ¬ p c := by
  have hlast : ∀ hne, ¬ p ((strip p s).getLast hne) := List.rdropWhile_last_not p _
  rw [h] at hlast
  simpa using hlast

end Strip

section Join

variable {α : Type} {p : α → Bool} {a x : α} {line : List α} {lines : List (List α)}

theorem intercalate_concat (hne : lines ≠ []) :
    [a].intercalate (lines ++ [line]) = [a].intercalate lines ++ a :: line := by
  induction lines with
  | nil => exact absurd rfl hne
  | cons first lines ih =>
    by_cases hlines : lines = []
    · rw [hlines, List.singleton_append, List.intercalate_cons_cons, List.intercalate_singleton,
        List.intercalate_singleton, List.append_assoc, List.singleton_append]
    · rw [List.cons_append, List.intercalate_cons_of_ne_nil (by simp), ih hlines,
        List.intercalate_cons_of_ne_nil hlines, List.append_assoc (first ++ [a])]

theorem exists_intercalate_concat (a : α) (lines : List (List α)) (line : List α) (x : α) :
    ∃ front, [a].intercalate (lines ++ [line ++ [x]]) = front ++ [x] := by
  by_cases hlines : lines = []
  · exact ⟨line, by rw [hlines, List.nil_append, List.intercalate_singleton]⟩
  · exact ⟨[a].intercalate lines ++ a :: line, by rw [intercalate_concat hlines, List.append_assoc, List.cons_append]⟩

theorem dropWhile_intercalate (ha : p a) (h : ∀ line ∈ lines, ∀ x ∈ line, ¬ p x) :
    ([a].intercalate lines).dropWhile p = [a].intercalate (lines.dropWhile List.isEmpty) := by
  induction lines with
  | nil => rfl
  | cons line lines ih =>
    obtain ⟨hline, hlines⟩ := List.forall_mem_cons.mp h
    cases line with
    | nil =>
      rw [List.dropWhile_cons_of_pos rfl, ← ih hlines]
      by_cases hne : lines = []
      · rw [hne]
        rfl
      · rw [List.intercalate_cons_of_ne_nil hne, List.nil_append, List.singleton_append,
          List.dropWhile_cons_of_pos ha]
    | cons x line =>
      have hx : ¬ p x := hline x List.mem_cons_self
      rw [List.dropWhile_cons_of_neg Bool.false_ne_true, List.intercalate_cons_cons_left,
        List.dropWhile_cons_of_neg hx]

theorem rdropWhile_intercalate (ha : p a) (h : ∀ line ∈ lines, ∀ x ∈ line, ¬ p x) :
    ([a].intercalate lines).rdropWhile p = [a].intercalate (lines.rdropWhile List.isEmpty) := by
  induction lines using List.reverseRecOn with
  | nil => rfl
  | append_singleton lines line ih =>
    obtain ⟨hlines, hline⟩ := List.forall_mem_append.mp h
    rcases List.eq_nil_or_concat' line with rfl | ⟨line, x, rfl⟩
    · rw [List.rdropWhile_concat_pos _ _ _ rfl, ← ih hlines]
      by_cases hne : lines = []
      · rw [hne]
        rfl
      · rw [intercalate_concat hne, List.rdropWhile_concat_pos _ _ _ ha]
    · have hx : ¬ p x := hline _ List.mem_cons_self x (by simp)
      obtain ⟨front, hfront⟩ := exists_intercalate_concat a lines line x
      rw [List.rdropWhile_concat_neg _ _ _ (by simp), hfront, List.rdropWhile_concat_neg _ _ _ hx]

theorem strip_intercalate (ha : p a) (h : ∀ line ∈ lines, ∀ x ∈ line, ¬ p x) :
    strip p ([a].intercalate lines) = [a].intercalate (strip List.isEmpty lines) := by
  have hrest : ∀ line ∈ lines.dropWhile List.isEmpty, ∀ x ∈ line, ¬ p x := fun line hline =>
    h line ((List.dropWhile_sublist _).mem hline)
  rw [strip, dropWhile_intercalate ha h, rdropWhile_intercalate ha hrest, strip]

theorem exists_strip_eq_cons (h : strip List.isEmpty lines ≠ []) :
    ∃ c line rest, strip List.isEmpty lines = (c :: line) :: rest := by
  obtain ⟨first, rest, hcons⟩ := List.exists_cons_of_ne_nil h
  cases first with
  | nil => exact absurd rfl (not_of_strip_eq_cons hcons)
  | cons c line => exact ⟨c, line, rest, hcons⟩

theorem exists_strip_eq_concat (h : strip List.isEmpty lines ≠ []) :
    ∃ front line c, strip List.isEmpty lines = front ++ [line ++ [c]] := by
  obtain ⟨front, last, hconcat⟩ := (List.eq_nil_or_concat' _).resolve_left h
  rcases List.eq_nil_or_concat' last with rfl | ⟨line, c, rfl⟩
  · exact absurd rfl (not_of_strip_eq_concat hconcat)
  · exact ⟨front, line, c, hconcat⟩

end Join

section Trim

def IsTrimmed (s : List Char) : Prop :=
  (∀ c rest, s = c :: rest → ¬ isWhiteSpace c) ∧ ∀ front c, s = front ++ [c] → ¬ isWhiteSpace c

theorem isTrimmed_trim (s : List Char) : IsTrimmed (trim s) := by
  constructor
  · intro c rest h
    exact not_of_strip_eq_cons (p := isWhiteSpace) h
  · intro front c h
    exact not_of_strip_eq_concat (p := isWhiteSpace) h

end Trim

end TagTooltips.Text
