import TagTooltips.Proofs.Documentation.CodeSpan
import TagTooltips.Proofs.Text.Strip
import TagTooltips.Proofs.Tooltip.Block
import TagTooltips.Proofs.Tooltip.Header

/-! What stands below the header of a block: the lines of the summary without the empty ones around them, or nothing
if there are no others. Neither it nor any of its lines begins or ends with white space, so that it never runs into
the header or into the line between two blocks. -/

namespace TagTooltips.Tooltip

open Text Documentation

def shownLines (summary : List Char) : List (List Char) := (markdown summary).value.splitOn '\n'

/-- A text with something in it and no white space around it or around one of its lines. -/
structure IsProse (text : List Char) : Prop where
  ne_nil : text ≠ []
  trimmed : IsTrimmed text
  trimmed_lines : ∀ line ∈ text.splitOn '\n', IsTrimmed line

section Lines

variable {summary line : List Char} {lines : List (List Char)}

theorem isTrimmed_of_mem_shownLines (h : line ∈ shownLines summary) : IsTrimmed line := by
  rw [shownLines, markdown, Noted.value_bind, Noted.value_pure, splitOn_trimLines] at h
  obtain ⟨whole, -, rfl⟩ := List.mem_map.mp h
  exact isTrimmed_trim whole

theorem isProse_intercalate (hne : strip List.isEmpty lines ≠ []) (hfeed : ∀ line ∈ lines, '\n' ∉ line)
    (htrimmed : ∀ line ∈ lines, IsTrimmed line) :
    IsProse (['\n'].intercalate (strip List.isEmpty lines)) := by
  have hinner : ∀ line ∈ strip List.isEmpty lines, IsTrimmed line := fun line h => htrimmed line (mem_of_mem_strip h)
  obtain ⟨c, first, rest, hfirst⟩ := exists_strip_eq_cons hne
  obtain ⟨front, last, x, hlast⟩ := exists_strip_eq_concat hne
  have hbegin : ['\n'].intercalate (strip List.isEmpty lines) = c :: ['\n'].intercalate (first :: rest) := by
    rw [hfirst, List.intercalate_cons_cons_left]
  obtain ⟨before, hend⟩ := exists_intercalate_concat '\n' front last x
  rw [← hlast] at hend
  refine ⟨by simp [hbegin], ⟨?_, ?_⟩, ?_⟩
  · intro c' rest' h
    obtain ⟨rfl, -⟩ := List.cons.inj (hbegin.symm.trans h)
    exact (hinner (c :: first) (by simp [hfirst])).1 c first rfl
  · intro front' x' h
    obtain ⟨-, rfl⟩ := List.append_singleton_inj.mp (hend.symm.trans h)
    exact (hinner (last ++ [x]) (by simp [hlast])).2 last x rfl
  · rw [List.splitOn_intercalate '\n' (fun line h => hfeed line (mem_of_mem_strip h)) hne]
    exact hinner

theorem value_prose (summary : List Char) :
    (prose summary).value = String.ofList (['\n'].intercalate (strip List.isEmpty (shownLines summary))) := by
  have hlines : ∀ line ∈ shownLines summary, ∀ c ∈ line, ¬ (c == '\n') = true := by
    intro line hline c hc
    have hne : c ≠ '\n' := by
      rintro rfl
      exact notMem_of_mem_splitOn hline hc
    simpa using hne
  rw [← strip_intercalate rfl hlines, shownLines, List.intercalate_splitOn]
  rfl

end Lines

section Addition

variable {documentation : Option String} {summary : List Char}

theorem addition_of_blank (h : (extract documentation).value = some summary)
    (hblank : strip List.isEmpty (shownLines summary) = []) : addition documentation = "" := by
  simp only [addition, h, value_prose, hblank]
  rfl

theorem addition_of_prose (h : (extract documentation).value = some summary)
    (hprose : IsProse (['\n'].intercalate (strip List.isEmpty (shownLines summary)))) :
    addition documentation =
      "\n\n" ++ String.ofList (['\n'].intercalate (strip List.isEmpty (shownLines summary))) := by
  have hne : ¬ (prose summary).value.isEmpty := by
    rw [String.isEmpty_iff, value_prose, ← String.toList_inj, String.toList_ofList]
    exact hprose.ne_nil
  simp only [addition, h, if_neg hne]
  rw [value_prose]

theorem strip_shownLines_eq_nil_iff :
    strip List.isEmpty (shownLines summary) = [] ↔ ∀ line ∈ shownLines summary, line = [] := by
  simp only [strip_eq_nil_iff, List.isEmpty_iff]

end Addition

variable {α : Type} [Entry α]

theorem block_cases (e : α) :
    let summary := (extract (Entry.documentation e)).value
    ((block e).value = (Entry.header e).value ∧
      (summary = none ∨ ∃ s, summary = some s ∧ ∀ line ∈ shownLines s, line = [])) ∨
    ∃ s p, summary = some s ∧ p = ['\n'].intercalate (strip List.isEmpty (shownLines s)) ∧ IsProse p ∧
      (¬ ∀ line ∈ shownLines s, line = []) ∧
      (block e).value = (Entry.header e).value ++ "\n\n" ++ String.ofList p := by
  intro summary
  rw [value_block]
  cases hsummary : summary with
  | none =>
    have hnone : addition (Entry.documentation e) = "" := by
      simp only [addition, show (extract (Entry.documentation e)).value = none from hsummary]
    exact .inl ⟨by rw [hnone, String.append_empty], .inl rfl⟩
  | some s =>
    by_cases hblank : strip List.isEmpty (shownLines s) = []
    · left
      refine ⟨by rw [addition_of_blank hsummary hblank, String.append_empty], .inr ⟨s, rfl, ?_⟩⟩
      exact strip_shownLines_eq_nil_iff.mp hblank
    · right
      have hprose := isProse_intercalate hblank (fun line h => notMem_of_mem_splitOn h)
        fun line h => isTrimmed_of_mem_shownLines h
      refine ⟨s, _, rfl, rfl, hprose, mt strip_shownLines_eq_nil_iff.mpr hblank, ?_⟩
      rw [addition_of_prose hsummary hprose, String.append_assoc]

theorem value_compose_append {xs ys : List α} (hxs : xs ≠ []) (hys : ys ≠ []) :
    ∃ x y, (compose xs).value = some x ∧ (compose ys).value = some y ∧
      (compose (xs ++ ys)).value = some (x ++ separator ++ y) := by
  refine ⟨_, _, value_compose hxs, value_compose hys, ?_⟩
  rw [value_compose (List.append_ne_nil_of_left_ne_nil hxs ys), List.map_append,
    String.intercalate_append_of_ne_nil (by simpa using hxs) (by simpa using hys)]

theorem value_compose_eq_none_iff {entries : List α} : (compose entries).value = none ↔ entries = [] := by
  constructor
  · intro hnone
    by_contra hne
    rw [value_compose hne] at hnone
    cases hnone
  · rintro rfl
    rfl

/-- Tooltips are put together by one rule between blocks, and there is none for no entries only. A block is its
header alone exactly if there is no summary or nothing but empty lines in it when the cross-references are replaced;
otherwise the header is followed by the lines of the summary without the empty ones around them. -/
theorem compose_append_of_blocks :
    (∀ xs ys : List α, xs ≠ [] → ys ≠ [] → ∃ x y, (compose xs).value = some x ∧ (compose ys).value = some y ∧
      (compose (xs ++ ys)).value = some (x ++ "\n\n---\n\n" ++ y)) ∧
    (∀ entries : List α, (compose entries).value = none ↔ entries = []) ∧
    ∀ e : α,
      let header := (Entry.header e).value
      let summary := (extract (Entry.documentation e)).value
      (compose [e]).value = some (block e).value ∧
      ((block e).value = header ↔
        summary = none ∨ ∃ s, summary = some s ∧ ∀ line ∈ shownLines s, line = []) ∧
      ((block e).value = header ∨
        ∃ s p, summary = some s ∧ p = ['\n'].intercalate (strip List.isEmpty (shownLines s)) ∧ IsProse p ∧
          (block e).value = header ++ "\n\n" ++ String.ofList p) := by
  refine ⟨fun xs ys hxs hys => value_compose_append hxs hys, fun entries => value_compose_eq_none_iff, ?_⟩
  intro e header summary
  refine ⟨?_, ?_⟩
  · rw [value_compose (List.cons_ne_nil e []), List.map_singleton, String.intercalate_singleton]
  · rcases block_cases e with ⟨hheader, hblank⟩ | ⟨s, p, hsummary, hp, hprose, hshown, hblock⟩
    · exact ⟨iff_of_true hheader hblank, .inl hheader⟩
    · refine ⟨iff_of_false ?_ ?_, .inr ⟨s, p, hsummary, hp, hprose, hblock⟩⟩
      · intro hheader
        have htext := congrArg String.toList (hblock.symm.trans hheader)
        simp [header] at htext
      · rintro (hnone | ⟨s', hs', hblank⟩)
        · exact absurd (hsummary.symm.trans hnone) (Option.some_ne_none s)
        · obtain rfl : s = s' := Option.some.inj (hsummary.symm.trans hs')
          exact hshown hblank

theorem compose_append_of_blocks_malformed_reference :
    let xs : List ElementEntry := [⟨"Ns.Row", some "<summary><see cref=\"T\"/></summary>"⟩]
    let ys : List ElementEntry := [⟨"Ns.Cell", none⟩]
    xs ≠ [] ∧ ys ≠ [] ∧ (compose (xs ++ ys)).value = some "**Row**\n\n---\n\n**Cell**" := by
  intro xs ys
  let m := Marker.see ['T'] (by decide) (by decide)
  have hlines : shownLines m.text = [[]] := by
    have hexact : (Parts.cons [] m (.last [])).Exact := ⟨Parts.bare_nil, Parts.bare_nil⟩
    have hreplaced := hexact.value_replaceMarkers renderReference
    simp only [Parts.text, Parts.replaced, List.nil_append, List.append_nil] at hreplaced
    rw [shownLines, markdown, Noted.value_bind, Noted.value_pure, hreplaced]
    rfl
  have hrow : (shortName "Ns.Row").value = "Row" :=
    value_shortName_of_eq (Signature.shortName_append_dot ['N', 's'] (by decide))
  have hcell : (shortName "Ns.Cell").value = "Cell" :=
    value_shortName_of_eq (Signature.shortName_append_dot ['N', 's'] (by decide))
  obtain ⟨happend, -, hblock⟩ := @compose_append_of_blocks ElementEntry _
  obtain ⟨hfirst, hfirstHeader, -⟩ := hblock ⟨"Ns.Row", some "<summary><see cref=\"T\"/></summary>"⟩
  obtain ⟨hsecond, hsecondHeader, -⟩ := hblock ⟨"Ns.Cell", none⟩
  have hsummary : (extract (some "<summary><see cref=\"T\"/></summary>")).value = some m.text := by decide
  have hblank : ∀ line ∈ shownLines m.text, line = [] := by simp [hlines]
  obtain ⟨x, y, hx, hy, hxy⟩ := happend xs ys (by simp [xs]) (by simp [ys])
  obtain rfl := Option.some.inj (hx.symm.trans hfirst)
  obtain rfl := Option.some.inj (hy.symm.trans hsecond)
  refine ⟨by simp [xs], by simp [ys], ?_⟩
  rw [hxy, hfirstHeader.mpr (.inr ⟨_, hsummary, hblank⟩), hsecondHeader.mpr (.inl rfl)]
  have hheader (type : String) (documentation : Option String) :
      (Entry.header (⟨type, documentation⟩ : ElementEntry)).value = "**" ++ (shortName type).value ++ "**" := rfl
  rw [hheader, hheader, hrow, hcell]
  rfl

end TagTooltips.Tooltip
