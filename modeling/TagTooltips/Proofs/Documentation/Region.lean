import TagTooltips.Proofs.Documentation.Bytes
import TagTooltips.Proofs.Text.Find

/-! The region of a summary. A block with a summary falls in one way into what stands before it, the opening
delimiter, the summary, the closing delimiter and what stands behind; the delimiters that count are the first ones.
A block without such a region has no summary at all. -/

namespace TagTooltips.Documentation

open Text

/-- A block taken apart at its first delimiters, which are read without ASCII case. -/
structure Region where
  before : List Char
  opening : List Char
  inner : List Char
  closing : List Char
  behind : List Char
  opening_eq : foldCase opening = summaryStart
  closing_eq : foldCase closing = summaryEnd
  start_before : ¬ summaryStart <:+: foldCase before
  end_before : ¬ summaryEnd <:+: foldCase before
  end_inner : ¬ summaryEnd <:+: foldCase inner

def ClosedFirst (block : List Char) : Prop :=
  ∃ before closing behind, block = before ++ (closing ++ behind) ∧ foldCase closing = summaryEnd ∧
    ¬ summaryStart <:+: foldCase before

variable {a b block t : List Char}

theorem foldCase_append (a b : List Char) : foldCase (a ++ b) = foldCase a ++ foldCase b := List.map_append

theorem length_foldCase (s : List Char) : (foldCase s).length = s.length := List.length_map _

theorem summaryStart_eq : summaryStart = '<' :: "summary>".toList := rfl

theorem infix_summaryStart_append_iff : summaryEnd <:+: summaryStart ++ b ↔ summaryEnd <:+: b := by
  have hprefix : ¬ summaryEnd <+: '<' :: ("summary>".toList ++ b) := by
    rintro ⟨more, hmore⟩
    have hsecond : some '/' = some 's' := congrArg (fun s => s[1]?) hmore
    exact absurd hsecond (by decide)
  have hinside : summaryEnd <:+: "summary>".toList ++ b ↔ summaryEnd <:+: b :=
    infix_append_iff_of_notMem (by decide)
  rw [summaryStart_eq, List.cons_append, List.infix_cons_iff, hinside]
  exact or_iff_right hprefix

theorem exists_of_indexOf?_foldCase {pattern : List Char} {n : Nat} (hne : pattern ≠ [])
    (h : indexOf? pattern (foldCase block) = some n) :
    ∃ a delimiter b, block = a ++ (delimiter ++ b) ∧ foldCase delimiter = pattern ∧ a.length = n ∧
      ¬ pattern <:+: foldCase a := by
  obtain ⟨a', b', hsplit, hlength, hnone⟩ := exists_of_indexOf? hne h
  obtain ⟨a, rest, rfl, rfl, hrest⟩ := List.map_eq_append_iff.mp hsplit
  obtain ⟨delimiter, b, rfl, hdelimiter, -⟩ := List.map_eq_append_iff.mp hrest
  exact ⟨a, delimiter, b, rfl, hdelimiter, (length_foldCase a).symm.trans hlength, hnone⟩

theorem summary_of_offsets {opened stop : Nat} (hstart : indexOf? summaryStart (foldCase block) = some opened)
    (hstop : indexOf? summaryEnd (foldCase block) = some stop) :
    summary block = if stop < opened + summaryStart.length then .reversed
      else .found ((block.take stop).drop (opened + summaryStart.length)) := by
  simp only [summary, hstart, hstop]

namespace Region

def text (r : Region) : List Char := r.before ++ (r.opening ++ (r.inner ++ (r.closing ++ r.behind)))

variable (r : Region)

theorem indexOf?_start : indexOf? summaryStart (foldCase r.text) = some r.before.length := by
  have htext : foldCase r.text =
      foldCase r.before ++ (summaryStart ++ foldCase (r.inner ++ (r.closing ++ r.behind))) := by
    rw [text, foldCase_append, foldCase_append, r.opening_eq]
  rw [htext, ← length_foldCase r.before]
  exact indexOf?_append (by decide) r.start_before

theorem indexOf?_end :
    indexOf? summaryEnd (foldCase r.text) = some (r.before ++ (r.opening ++ r.inner)).length := by
  have htext : foldCase r.text =
      foldCase (r.before ++ (r.opening ++ r.inner)) ++ (summaryEnd ++ foldCase r.behind) := by
    simp only [text, foldCase_append, r.closing_eq, List.append_assoc]
  have hnone : ¬ summaryEnd <:+: foldCase (r.before ++ (r.opening ++ r.inner)) := by
    rw [foldCase_append, foldCase_append, r.opening_eq]
    intro h
    have hsplit : summaryEnd <:+: foldCase r.before ∨ summaryEnd <:+: summaryStart ++ foldCase r.inner :=
      (infix_append_cons_iff (by decide)).mp h
    rcases hsplit with hbefore | hinner
    · exact r.end_before hbefore
    · exact r.end_inner (infix_summaryStart_append_iff.mp hinner)
  rw [htext, ← length_foldCase]
  exact indexOf?_append (by decide) hnone

theorem length_opening : r.opening.length = summaryStart.length := by
  rw [← length_foldCase, r.opening_eq]

theorem summary_text : summary r.text = .found r.inner := by
  have hsplit : r.text = r.before ++ (r.opening ++ r.inner) ++ (r.closing ++ r.behind) := by
    simp only [text, List.append_assoc]
  have hstart : r.before.length + summaryStart.length = (r.before ++ r.opening).length := by
    rw [List.length_append, r.length_opening]
  have hle : (r.before ++ r.opening).length ≤ (r.before ++ (r.opening ++ r.inner)).length := by
    rw [← List.append_assoc]
    exact (List.prefix_append (r.before ++ r.opening) r.inner).length_le
  rw [summary_of_offsets r.indexOf?_start r.indexOf?_end, hstart, if_neg (Nat.not_lt_of_le hle), hsplit,
    List.take_left, ← List.append_assoc, List.drop_left]

end Region

theorem exists_region_of_offsets {opened stop : Nat} (hstart : indexOf? summaryStart (foldCase block) = some opened)
    (hstop : indexOf? summaryEnd (foldCase block) = some stop) (hle : opened + summaryStart.length ≤ stop) :
    ∃ r : Region, r.text = block ∧ r.inner = (block.take stop).drop (opened + summaryStart.length) := by
  obtain ⟨before, opening, rest, hblock, hopening, hbefore, hfirst⟩ := exists_of_indexOf?_foldCase (by decide) hstart
  obtain ⟨upTo, closing, behind, hblock', hclosing, hupTo, hnone⟩ := exists_of_indexOf?_foldCase (by decide) hstop
  have hlength : (before ++ opening).length = opened + summaryStart.length := by
    rw [List.length_append, hbefore, ← hopening, length_foldCase]
  have hopened : before ++ opening <+: block := ⟨rest, by rw [hblock, List.append_assoc]⟩
  have hclosed : upTo <+: block := ⟨closing ++ behind, hblock'.symm⟩
  obtain ⟨inner, rfl⟩ : before ++ opening <+: upTo :=
    List.prefix_of_prefix_length_le hopened hclosed (by rw [hlength, hupTo]; exact hle)
  have hfront : before <:+: before ++ opening ++ inner :=
    ((List.prefix_append before opening).trans (List.prefix_append _ inner)).isInfix
  have hback : inner <:+: before ++ opening ++ inner := (List.suffix_append _ inner).isInfix
  have hend_before : ¬ summaryEnd <:+: foldCase before := fun h => hnone (h.trans (hfront.map Char.toLower))
  have hend_inner : ¬ summaryEnd <:+: foldCase inner := fun h => hnone (h.trans (hback.map Char.toLower))
  refine ⟨⟨before, opening, inner, closing, behind, hopening, hclosing, hfirst, hend_before, hend_inner⟩, ?_, ?_⟩
  · rw [hblock', Region.text]
    simp only [List.append_assoc]
  · rw [← hlength, ← hupTo, hblock', List.take_left, List.drop_left]

theorem exists_region_of_found (h : summary block = .found t) : ∃ r : Region, r.text = block ∧ r.inner = t := by
  cases hstart : indexOf? summaryStart (foldCase block) with
  | none => simp [summary, hstart] at h
  | some opened =>
    cases hstop : indexOf? summaryEnd (foldCase block) with
    | none => simp [summary, hstart, hstop] at h
    | some stop =>
      rw [summary_of_offsets hstart hstop] at h
      split at h
      · cases h
      · rename_i hle
        cases h
        exact exists_region_of_offsets hstart hstop (Nat.le_of_not_lt hle)

theorem summary_eq_found_iff : summary block = .found t ↔ ∃ r : Region, r.text = block ∧ r.inner = t := by
  constructor
  · exact exists_region_of_found
  · rintro ⟨r, rfl, rfl⟩
    exact r.summary_text

theorem Region.text_injective : Function.Injective Region.text := by
  intro r r' htext
  have hbefore : r.before.length = r'.before.length :=
    Option.some.inj (r.indexOf?_start.symm.trans (htext ▸ r'.indexOf?_start))
  have hopening : r.opening.length = r'.opening.length := r.length_opening.trans r'.length_opening.symm
  have hinner : r.inner = r'.inner := by
    have hfound := r.summary_text
    rw [htext, r'.summary_text] at hfound
    exact (Summary.found.inj hfound).symm
  have hclosing : r.closing.length = r'.closing.length := by
    rw [← length_foldCase, r.closing_eq, ← r'.closing_eq, length_foldCase]
  obtain ⟨hbefore, hrest⟩ := List.append_inj htext hbefore
  obtain ⟨hopening, hrest⟩ := List.append_inj hrest hopening
  obtain ⟨-, hrest⟩ := List.append_inj hrest (congrArg List.length hinner)
  obtain ⟨hclosing, hbehind⟩ := List.append_inj hrest hclosing
  cases r
  cases r'
  simp_all

theorem closedFirst_of_lt {opened stop : Nat} (hstart : indexOf? summaryStart (foldCase block) = some opened)
    (hstop : indexOf? summaryEnd (foldCase block) = some stop) (hlt : stop < opened + summaryStart.length) :
    ClosedFirst block := by
  obtain ⟨before, closing, behind, rfl, hclosing, hbefore, -⟩ := exists_of_indexOf?_foldCase (by decide) hstop
  refine ⟨before, closing, behind, rfl, hclosing, ?_⟩
  rintro ⟨u, v, hearlier⟩
  rw [foldCase_append, ← hearlier, List.append_assoc, List.append_assoc] at hstart
  have hle := le_of_indexOf?_append hstart
  have hlength := congrArg List.length hearlier
  simp only [List.length_append, length_foldCase] at hlength
  omega

theorem ClosedFirst.summary_ne_found (h : ClosedFirst block) : summary block ≠ .found t := by
  obtain ⟨before, closing, behind, rfl, hclosing, hnone⟩ := h
  intro hfound
  obtain ⟨r, htext, -⟩ := exists_region_of_found hfound
  have hstop := r.indexOf?_end
  rw [htext, foldCase_append, foldCase_append, hclosing] at hstop
  have hle := le_of_indexOf?_append hstop
  rw [length_foldCase, ← List.append_assoc, List.length_append] at hle
  have hprefix : r.before ++ r.opening <+: before :=
    List.prefix_of_prefix_length_le ⟨r.inner ++ (r.closing ++ r.behind), by rw [← htext, Region.text, List.append_assoc]⟩
      (List.prefix_append before _) (Nat.le_of_add_right_le hle)
  have hopening : r.opening <:+: before := (List.suffix_append r.before r.opening).isInfix.trans hprefix.isInfix
  exact hnone (r.opening_eq ▸ hopening.map Char.toLower)

theorem text?_summary_eq_none_iff : (summary block).text? = none ↔
    ¬ summaryStart <:+: foldCase block ∨ ¬ summaryEnd <:+: foldCase block ∨ ClosedFirst block := by
  rw [← indexOf?_eq_none_iff (by decide), ← indexOf?_eq_none_iff (by decide)]
  constructor
  · intro h
    cases hstart : indexOf? summaryStart (foldCase block) with
    | none => exact .inl rfl
    | some opened =>
      cases hstop : indexOf? summaryEnd (foldCase block) with
      | none => exact .inr (.inl rfl)
      | some stop =>
        rw [summary_of_offsets hstart hstop] at h
        split at h
        · exact .inr (.inr (closedFirst_of_lt hstart hstop (by assumption)))
        · cases h
  · rintro (hstart | hstop | hclosed)
    · simp only [summary, hstart, Summary.text?]
    · cases hstart : indexOf? summaryStart (foldCase block) <;> simp only [summary, hstart, hstop, Summary.text?]
    · cases hfound : summary block with
      | found t => exact absurd hfound hclosed.summary_ne_found
      | absent => rfl
      | reversed => rfl

theorem text?_summary_eq_some_iff : (summary block).text? = some t ↔ summary block = .found t := by
  cases summary block <;> simp [Summary.text?]

/-- A summary is found exactly if the block has a region, of which it is the inner text as written, and a block
has at most one. There is none without a block, in a block that lacks a delimiter, the empty one included, and in
one that is closed before it is opened. The byte offsets of the delimiters in the copy without case cut the same
text from the block. -/
theorem extract_eq_some_iff_region :
    (∀ block t, (extract block).value = some t ↔
      ∃ (text : String) (r : Region), block = some text ∧ r.text = text.toList ∧ r.inner = t) ∧
    Function.Injective Region.text ∧
    (∀ block, (extract block).value = none ↔ block = none ∨ ∃ text : String, block = some text ∧
      (¬ summaryStart <:+: foldCase text.toList ∨ ¬ summaryEnd <:+: foldCase text.toList ∨
        ClosedFirst text.toList)) ∧
    ∀ block, Bytes.extract block = .ok (extract block).value := by
  refine ⟨fun block t => ?_, Region.text_injective, fun block => ?_, Bytes.extract_eq⟩
  · cases block with
    | none => exact iff_of_false (by simp [extract, Summary.text?]) (by simp)
    | some text =>
      have hvalue : (extract (some text)).value = (summary text.toList).text? := rfl
      rw [hvalue, text?_summary_eq_some_iff, summary_eq_found_iff]
      simp
  · cases block with
    | none => exact iff_of_true rfl (.inl rfl)
    | some text =>
      have hvalue : (extract (some text)).value = (summary text.toList).text? := rfl
      rw [hvalue, text?_summary_eq_none_iff]
      simp

example : (extract (some "é<SUMMARY>K<summary></Summary>b</summary>")).value = some "K<summary>".toList := by decide

end TagTooltips.Documentation
