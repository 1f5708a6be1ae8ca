import TagTooltips.Proofs.Signature.Uncut

/-! A cursor balances each family of brackets by itself, and yet it steps over well-nested text as a
parser would: it walks past a segment whatever stands to its left. So a signature that ends in a
dot and a segment is cut at that dot. -/

namespace TagTooltips.Signature

theorem cut_segment {t : List Char} (h : IsSegment t) : cut t = .whole := cut_eq_whole_iff.mpr h.uncut

theorem cut_append_dot (u : List Char) {t : List Char} (h : IsSegment t) :
    cut (u ++ '.' :: t) = .dot u t := cut_eq_dot_iff.mpr ⟨rfl, h.uncut⟩

theorem shortName_of_cut {s : List Char} {c : Cut} (h : cut s = c) (hc : c ≠ .unbalanced) :
    shortName s = pure (c.shown s) := by
  refine Noted.ext ?_ ?_
  · simp [shortName, h]
  · simp [shortName, h, hc, Noted.noteIf]

theorem shortName_segment {t : List Char} (h : IsSegment t) : shortName t = pure t :=
  shortName_of_cut (cut_segment h) (by decide)

theorem shortName_append_dot (u : List Char) {t : List Char} (h : IsSegment t) :
    shortName (u ++ '.' :: t) = pure t :=
  shortName_of_cut (cut_append_dot u h) (by simp)

/-- A segment is its own short name, and that of any text that ends in a dot and the segment. So the
scan from the right finds in a well-nested signature what a parser finds behind the last dot
outside all groups. -/
theorem shortName_eq_last_segment :
    (∀ t, IsSegment t → shortName t = pure t ∧ ∀ u, shortName (u ++ '.' :: t) = pure t) ∧
    (∀ s, WellNested s → ∃ t, lastSegment? s = some t ∧ shortName s = pure t) := by
  refine ⟨fun t ht => ⟨shortName_segment ht, fun u => shortName_append_dot u ht⟩, fun s hs => ?_⟩
  rcases hs.cases_last_dot with ht | ⟨u, t, rfl, hu, ht⟩
  · exact ⟨s, ht.lastSegment?, shortName_segment ht⟩
  · exact ⟨t, lastSegment?_append hu ht, shortName_append_dot u ht⟩

theorem shortName_eq_last_segment_mixed_groups :
    let t : List Char := ['M', '<', 'a', '.', 'b', '{', 'c', '.', '}', '>', '(', '.', ')']
    IsSegment t ∧ shortName (['}', '>'] ++ '.' :: t) = pure t ∧
      WellNested ('<' :: '.' :: '>' :: '.' :: t) ∧
      ∃ found, lastSegment? ('<' :: '.' :: '>' :: '.' :: t) = some found ∧
        shortName ('<' :: '.' :: '>' :: '.' :: t) = pure found :=
  have ht : IsSegment ['M', '<', 'a', '.', 'b', '{', 'c', '.', '}', '>', '(', '.', ')'] := by decide
  have hs : WellNested
      ['<', '.', '>', '.', 'M', '<', 'a', '.', 'b', '{', 'c', '.', '}', '>', '(', '.', ')'] := by decide
  ⟨ht, (shortName_eq_last_segment.1 _ ht).2 _, hs, shortName_eq_last_segment.2 _ hs⟩

end TagTooltips.Signature
