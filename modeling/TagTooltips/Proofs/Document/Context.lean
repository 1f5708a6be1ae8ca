import TagTooltips.Document.Tag
import TagTooltips.Proofs.Text.Span
import TagTooltips.Text.WhiteSpace

/-! The context behind a tag name. White space ends a name, and so do the marks of markup, so that the name
in an open tag is all that stands between its `<` and the first other character. -/

namespace TagTooltips

namespace Text

theorem whiteSpaceRanges_disjoint :
    ∀ w ∈ whiteSpaceRanges, ∀ a ∈ alphanumericRanges, w.2 < a.1 ∨ a.2 < w.1 := by decide +kernel

theorem isAlphanumeric_of_isWhiteSpace {c : Char} (h : isWhiteSpace c) : isAlphanumeric c = false := by
  obtain ⟨⟨first, last⟩, hrange, hc⟩ := List.any_eq_true.mp h
  simp only [Bool.and_eq_true, decide_eq_true_eq] at hc
  rw [isAlphanumeric]
  split
  · rename_i hascii
    -- In ASCII, all white space is below the first letter and the first digit.
    have hlast : ∀ w ∈ whiteSpaceRanges, w.1 < 128 → w.2 < 33 := by decide
    have hcontrol : ∀ n < 33, (Char.ofNat n).isAlphanum = false := by decide
    have hcode : c.toNat < 33 := by
      have := hlast _ hrange (by omega)
      omega
    rw [← Char.ofNat_toNat c]
    exact hcontrol _ hcode
  · rw [List.any_eq_false]
    intro a ha
    have hdisjoint := whiteSpaceRanges_disjoint _ hrange a ha
    simp only [Bool.and_eq_true, decide_eq_true_eq]
    omega

end Text

namespace Document

variable {c x : Char} {before name s : List Char}

theorem isNameChar_of_isWhiteSpace (h : Text.isWhiteSpace c) : isNameChar c = false := by
  have hdash : c ≠ '-' ∧ c ≠ '_' ∧ c ≠ ':' := by
    refine ⟨?_, ?_, ?_⟩ <;> rintro rfl <;> exact absurd h (by decide)
  simp [isNameChar, Text.isAlphanumeric_of_isWhiteSpace h, hdash]

theorem notMem_name (hname : ∀ c ∈ name, isNameChar c) (hx : isNameChar x = false) : x ∉ name := by
  intro hmem
  rw [hname x hmem] at hx
  cases hx

theorem openTag?_append (hs : '<' ∉ s) : openTag? (before ++ '<' :: s) = some s := by
  have hpass : ∀ c ∈ s.reverse, (c != '<') = true := by
    intro c hc
    rw [bne_iff_ne]
    rintro rfl
    exact hs (List.mem_reverse.mp hc)
  have hlast : (before ++ '<' :: s).reverse = s.reverse ++ '<' :: before.reverse := by simp
  rw [openTag?, if_pos (by simp), hlast, takeWhile_append_cons hpass (by decide), List.reverse_reverse]

theorem isQuoted_append (hname : ∀ c ∈ name, isNameChar c) : isQuoted (name ++ s) = isQuoted s := by
  have hdouble : '\x22' ∉ name := notMem_name hname (by decide)
  have hsingle : '\x27' ∉ name := notMem_name hname (by decide)
  rw [isQuoted, List.count_append, List.count_append, List.count_eq_zero_of_not_mem hdouble,
    List.count_eq_zero_of_not_mem hsingle, Nat.zero_add, Nat.zero_add, isQuoted]

theorem contextAfter_named (hname : name ≠ []) (hchars : ∀ c ∈ name, isNameChar c)
    (hx : isNameChar x = false) (hopen : '<' ∉ x :: s) (hclose : '>' ∉ x :: s) :
    contextAfter (before ++ '<' :: (name ++ x :: s)) =
      if isQuoted (x :: s) then .outside else .attribute (String.ofList name) := by
  have hinTag : openTag? (before ++ '<' :: (name ++ x :: s)) = some (name ++ x :: s) := by
    refine openTag?_append fun hmem => ?_
    exact (List.mem_append.mp hmem).elim (notMem_name hchars (by decide)) hopen
  have hcontains : (name ++ x :: s).contains '>' = false := by
    rw [List.contains_eq_mem, decide_eq_false_iff_not]
    intro hmem
    exact (List.mem_append.mp hmem).elim (notMem_name hchars (by decide)) hclose
  obtain ⟨c, tail, rfl⟩ := List.exists_cons_of_ne_nil hname
  have hfirst {y : Char} (hy : isNameChar y = false) : ((c :: tail ++ x :: s).head? == some y) = false := by
    have hne : c ≠ y := fun h => notMem_name hchars hy (h ▸ List.mem_cons_self)
    simpa using hne
  have htake : (c :: tail ++ x :: s).takeWhile isNameChar = c :: tail := takeWhile_append_cons hchars hx
  have hlength : (c :: tail).length ≠ (c :: tail ++ x :: s).length := by simp
  simp only [contextAfter, hinTag, hcontains, hfirst (y := '/') (by decide), hfirst (y := '!') (by decide),
    isQuoted_append hchars, htake, Bool.false_or, if_neg hlength]
  rfl

end Document

end TagTooltips
