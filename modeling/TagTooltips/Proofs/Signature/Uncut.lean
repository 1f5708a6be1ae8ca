import TagTooltips.Proofs.Signature.Group

/-! Texts that are never cut, whatever stands before them. They describe the cut of any signature: it is at a dot
with such a text behind it, or such a text stands behind a closing bracket without a partner, or the whole
signature is one. -/

namespace TagTooltips.Signature

open Signature.Bracket Cursor

/-- A text without a dot outside the groups that a scan from its end steps over. An opening bracket without a
partner counts as plain. -/
inductive Uncut : List Char → Prop
  | nil : Uncut []
  | plain {c : Char} {s : List Char} (hdot : c ≠ '.') (hc : ∀ b : Bracket, c ≠ b.closing) (hs : Uncut s) :
      Uncut (c :: s)
  | group (b : Bracket) {inside s : List Char} (hi : b.Balanced inside) (hs : Uncut s) :
      Uncut (b.opening :: (inside ++ b.closing :: s))

theorem Uncut.append {s t : List Char} (hs : Uncut s) (ht : Uncut t) : Uncut (s ++ t) := by
  induction hs with
  | nil => exact ht
  | plain hdot hc _ ih => exact .plain hdot hc ih
  | @group b inside s hi _ ih =>
    rw [List.cons_append, List.append_assoc, List.cons_append]
    exact .group b hi ih

variable {order : List Bracket} {left right s t u owner name : List Char} {c d : Cursor}

theorem cutFrom_uncut (horder : ∀ b, b ∈ order) (h : Uncut t) :
    cutFrom order ⟨t.reverse ++ left, right⟩ = cutFrom order ⟨left, t ++ right⟩ := by
  induction h generalizing left right with
  | nil => rfl
  | @plain c s hdot hc _ ih =>
    rw [List.reverse_cons, List.append_assoc, List.singleton_append, ih,
      cutFrom_of_skipAll (skipAll_of_ne fun b _ => hc b), if_neg hdot]
    rfl
  | @group b inside s hi _ ih =>
    have hseek : seek b 1 (inside.reverse ++ b.opening :: left) (b.closing :: (s ++ right)) =
        some ⟨b.opening :: left, inside ++ b.closing :: (s ++ right)⟩ := by
      have hsplit : inside.reverse ++ b.opening :: left = (left.reverse ++ b.opening :: inside).reverse := by simp
      rw [hsplit, seek_reverse_eq_some_iff]
      exact ⟨left.reverse, inside, rfl, by simp, hi⟩
    simp only [List.reverse_cons, List.reverse_append, List.append_assoc, List.cons_append, List.nil_append]
    rw [ih, cutFrom_of_skipAll ((skipAll_closing (horder b)).trans hseek), if_neg b.opening_ne_dot]

/-- What a cut says of the text to the left of a cursor if `t` is what a scan has passed of it. -/
def Cut.Fits (left right t : List Char) : Cut → Prop
  | .dot owner name => left = owner ++ '.' :: t ∧ name = t ++ right
  | .whole => left = t
  | .unbalanced => ∃ (b : Bracket) (before : List Char), left = before ++ b.closing :: t ∧ b.Paired before

theorem Cut.Fits.append {cut : Cut} {passed : List Char} (h : cut.Fits left (passed ++ right) t) :
    cut.Fits (left ++ passed) right (t ++ passed) := by
  cases cut with
  | dot owner name =>
    obtain ⟨rfl, rfl⟩ := h
    exact ⟨by simp, by simp⟩
  | whole =>
    obtain rfl : left = t := h
    rfl
  | unbalanced =>
    obtain ⟨b, before, rfl, hpaired⟩ := h
    exact ⟨b, before, by simp, hpaired⟩

theorem of_skipAll_eq_none (horder : ∀ b, b ∈ order) (h : skipAll order c = none) :
    ∃ (b : Bracket) (before : List Char), c.left.reverse = before ++ [b.closing] ∧ b.Paired before := by
  obtain ⟨_ | ⟨x, left⟩, right⟩ := c
  · simp at h
  · by_cases hx : ∃ b : Bracket, x = b.closing
    · obtain ⟨b, rfl⟩ := hx
      rw [skipAll_closing (horder b), ← List.reverse_reverse left, seek_reverse_eq_none_iff] at h
      exact ⟨b, left.reverse, by simp, h⟩
    · rw [skipAll_of_ne fun b _ hb => hx ⟨b, hb⟩] at h
      cases h

theorem of_skipAll_eq_some (horder : ∀ b, b ∈ order) (h : skipAll order c = some d) :
    (∀ b : Bracket, c.left.head? ≠ some b.closing) ∧ d = c ∨
    ∃ (b : Bracket) (before inside : List Char), b.Balanced inside ∧
      c.left.reverse = before ++ b.opening :: (inside ++ [b.closing]) ∧
      d = ⟨b.opening :: before.reverse, inside ++ b.closing :: c.right⟩ := by
  obtain ⟨_ | ⟨x, left⟩, right⟩ := c
  · rw [skipAll_nil] at h
    cases h
    exact .inl ⟨by simp, rfl⟩
  · by_cases hx : ∃ b : Bracket, x = b.closing
    · obtain ⟨b, rfl⟩ := hx
      rw [skipAll_closing (horder b), ← List.reverse_reverse left, seek_reverse_eq_some_iff] at h
      obtain ⟨before, inside, hleft, rfl, hbalanced⟩ := h
      exact .inr ⟨b, before, inside, hbalanced, by simp [hleft], rfl⟩
    · rw [skipAll_of_ne fun b _ hb => hx ⟨b, hb⟩] at h
      cases h
      exact .inl ⟨fun b hb => hx ⟨b, Option.some.inj hb⟩, rfl⟩

theorem exists_uncut_fits (horder : ∀ b, b ∈ order) (c : Cursor) :
    ∃ t, Uncut t ∧ (cutFrom order c).Fits c.left.reverse c.right t := by
  fun_induction cutFrom order c with
  | case1 c hskip =>
    obtain ⟨b, before, hleft, hpaired⟩ := of_skipAll_eq_none horder hskip
    exact ⟨[], .nil, b, before, hleft, hpaired⟩
  | case2 c right hskip =>
    rcases of_skipAll_eq_some horder hskip with ⟨-, rfl⟩ | ⟨b, before, inside, -, -, hcursor⟩
    · exact ⟨[], .nil, rfl⟩
    · cases hcursor
  | case3 c left right hskip =>
    rcases of_skipAll_eq_some horder hskip with ⟨-, rfl⟩ | ⟨b, before, inside, -, -, hcursor⟩
    · exact ⟨[], .nil, by simp, rfl⟩
    · have hdot : '.' = b.opening := (List.cons.inj (Cursor.mk.inj hcursor).1).1
      exact absurd hdot.symm b.opening_ne_dot
  | case4 c x left right hskip hdot ih =>
    obtain ⟨t, ht, hfits⟩ := ih
    rcases of_skipAll_eq_some horder hskip with ⟨hx, rfl⟩ | ⟨b, before, inside, hbalanced, hleft, hcursor⟩
    · refine ⟨t ++ [x], ht.append (.plain hdot (fun b hb => hx b (congrArg some hb)) .nil), ?_⟩
      rw [List.reverse_cons]
      exact hfits.append
    · cases hcursor
      refine ⟨t ++ b.opening :: (inside ++ [b.closing]), ht.append (.group b hbalanced .nil), ?_⟩
      rw [hleft]
      refine Cut.Fits.append ?_
      simpa using hfits

theorem exists_uncut_fits_cut (s : List Char) : ∃ t, Uncut t ∧ (cut s).Fits s [] t := by
  simpa [cut, ofEnd] using exists_uncut_fits mem_all (ofEnd s)

theorem cut_append_uncut (u : List Char) (ht : Uncut t) : cut (u ++ t) = cutFrom all ⟨u.reverse, t⟩ := by
  have hpass : cutFrom all ⟨t.reverse ++ u.reverse, []⟩ = cutFrom all ⟨u.reverse, t ++ []⟩ :=
    cutFrom_uncut mem_all ht
  rw [List.append_nil] at hpass
  rw [cut, ofEnd, List.reverse_append, hpass]

theorem cut_append_cons_uncut (u : List Char) (x : Char) (ht : Uncut t) :
    cut (u ++ x :: t) = cutFrom all ⟨x :: u.reverse, t⟩ := by
  have hcut := cut_append_uncut (u ++ [x]) ht
  rwa [List.append_assoc, List.singleton_append, List.reverse_append, List.reverse_singleton,
    List.singleton_append] at hcut

theorem cut_eq_whole_iff : cut s = .whole ↔ Uncut s := by
  constructor
  · intro h
    obtain ⟨t, ht, hfits⟩ := exists_uncut_fits_cut s
    rw [h] at hfits
    obtain rfl : s = t := hfits
    exact ht
  · intro h
    exact (cut_append_uncut [] h).trans cutFrom_nil

theorem cut_eq_dot_iff : cut s = .dot owner name ↔ s = owner ++ '.' :: name ∧ Uncut name := by
  constructor
  · intro h
    obtain ⟨t, ht, hfits⟩ := exists_uncut_fits_cut s
    rw [h] at hfits
    obtain ⟨hs, hname⟩ := hfits
    rw [List.append_nil] at hname
    subst hname
    exact ⟨hs, ht⟩
  · rintro ⟨rfl, hname⟩
    have hstay : skipAll all ⟨'.' :: owner.reverse, name⟩ = some ⟨'.' :: owner.reverse, name⟩ :=
      skipAll_of_ne fun b _ => by cases b <;> decide
    rw [cut_append_cons_uncut owner '.' hname, cutFrom_of_skipAll hstay, if_pos rfl, List.reverse_reverse]

theorem cut_eq_unbalanced_iff : cut s = .unbalanced ↔
    ∃ (b : Bracket) (before t : List Char), s = before ++ b.closing :: t ∧ b.Paired before ∧ Uncut t := by
  constructor
  · intro h
    obtain ⟨t, ht, hfits⟩ := exists_uncut_fits_cut s
    rw [h] at hfits
    obtain ⟨b, before, hs, hpaired⟩ := hfits
    exact ⟨b, before, t, hs, hpaired, ht⟩
  · rintro ⟨b, before, t, rfl, hpaired, ht⟩
    have hnone : skipAll all ⟨b.closing :: before.reverse, t⟩ = none := by
      rw [skipAll_closing (mem_all b), seek_reverse_eq_none_iff]
      exact hpaired
    rw [cut_append_cons_uncut before b.closing ht]
    exact cutFrom_of_skipAll_eq_none hnone

theorem IsSegment.uncut (h : IsSegment t) : Uncut t := by
  obtain ⟨outside, hnested, hdot⟩ := h
  induction hnested with
  | nil => exact .nil
  | @plain c s outside hc _ ih =>
    rw [List.mem_cons, not_or] at hdot
    exact .plain (fun h => hdot.1 h.symm) (fun b => (hc b).2) (ih hdot.2)
  | group b hi _ _ ih => exact .group b (hi.balanced b) (ih hdot)

end TagTooltips.Signature
