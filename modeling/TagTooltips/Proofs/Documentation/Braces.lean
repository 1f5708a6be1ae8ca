import TagTooltips.Proofs.Documentation.CodeSpan
import TagTooltips.Proofs.Signature.Exchange
import TagTooltips.Tooltip.Entry

/-! Cross-references write the angle brackets of a signature as braces. They are shortened in that form and shown
with angle brackets again; the names are those of the signature itself. -/

namespace TagTooltips.Documentation

open Signature

/-- A signature as a cross-reference writes it. -/
def braces (s : List Char) : List Char := s.map fun c => if c = '<' then '{' else if c = '>' then '}' else c

variable {s : List Char}

theorem ne_brace_of_mem {c : Char} (hc : c ∈ s) (hopening : '{' ∉ s) (hclosing : '}' ∉ s) : c ≠ '{' ∧ c ≠ '}' :=
  ⟨ne_of_mem_of_not_mem hc hopening, ne_of_mem_of_not_mem hc hclosing⟩

theorem braces_eq_exchange (hopening : '{' ∉ s) (hclosing : '}' ∉ s) : braces s = s.map exchange := by
  refine List.map_congr_left fun c hc => ?_
  rcases exchange_cases (ne_brace_of_mem hc hopening hclosing) with ⟨rfl, h⟩ | ⟨rfl, h⟩ | ⟨hleft, hright, h⟩
  · exact h.symm
  · exact h.symm
  · rw [if_neg hleft, if_neg hright, h]

theorem angleBrackets_exchange (hopening : '{' ∉ s) (hclosing : '}' ∉ s) :
    angleBrackets (s.map exchange) = s := by
  rw [angleBrackets, List.map_map]
  refine (List.map_congr_left fun c hc => ?_).trans (List.map_id s)
  have hbrace := ne_brace_of_mem hc hopening hclosing
  rw [Function.comp_apply]
  rcases exchange_cases hbrace with ⟨rfl, h⟩ | ⟨rfl, h⟩ | ⟨-, -, h⟩
  · rw [h]
    rfl
  · rw [h]
    rfl
  · rw [h, if_neg hbrace.1, if_neg hbrace.2, id_eq]

theorem codeSpan_exchange {name : List Char} (hsubset : name ⊆ s) (hopening : '{' ∉ s) (hclosing : '}' ∉ s) :
    codeSpan (name.map exchange) = '`' :: name ++ ['`'] := by
  rw [codeSpan, angleBrackets_exchange (fun h => hopening (hsubset h)) fun h => hclosing (hsubset h)]

/-- A signature without braces of its own, balanced or not, is named in a cross-reference as it is named
anywhere: what is shown for it, and what is noted, is what shortening the signature itself gives, between two
backticks. So for a type it is the name in the header of an element. -/
theorem renderReference_braces_eq_name (s : List Char) (hne : s ≠ []) (hopening : '{' ∉ s) (hclosing : '}' ∉ s) :
    renderReference ('T' :: ':' :: braces s) = (fun name => '`' :: name ++ ['`']) <$> Signature.shortName s ∧
    (∀ kind ∈ ['P', 'M'],
      renderReference (kind :: ':' :: braces s) = (fun name => '`' :: name ++ ['`']) <$> memberName s) ∧
    ∀ documentation, ∃ name : List Char,
      (renderReference ('T' :: ':' :: braces s)).value = '`' :: name ++ ['`'] ∧
      (ElementEntry.header ⟨String.ofList s, documentation⟩).value = "**" ++ String.ofList name ++ "**" := by
  have hne' : s.map exchange ≠ [] := mt List.map_eq_nil_iff.mp hne
  have htype : renderReference ('T' :: ':' :: braces s) = (fun name => '`' :: name ++ ['`']) <$> Signature.shortName s := by
    rw [braces_eq_exchange hopening hclosing, renderReference_eq_codeSpan (by decide) rfl hne', if_pos rfl,
      shortName_exchange]
    refine Noted.ext ?_ (by simp only [Noted.notes_map])
    exact codeSpan_exchange (value_shortName_suffix s).subset hopening hclosing
  refine ⟨htype, fun kind hkind => ?_, fun documentation => ⟨(Signature.shortName s).value, ?_, ?_⟩⟩
  · have hshortened : kind ∈ shortenedKinds := List.mem_cons_of_mem 'T' hkind
    have hmember : kind ≠ 'T' := by
      rintro rfl
      exact absurd hkind (by decide)
    rw [braces_eq_exchange hopening hclosing, renderReference_eq_codeSpan hshortened rfl hne', if_neg hmember,
      memberName_exchange]
    refine Noted.ext ?_ (by simp only [Noted.notes_map])
    exact codeSpan_exchange (value_memberName_subset s) hopening hclosing
  · rw [htype, Noted.value_map]
  · rw [ElementEntry.header, Noted.value_bind, Noted.value_pure, TagTooltips.shortName, Noted.value_map,
      String.toList_ofList]

theorem renderReference_braces_eq_name_method :
    let s := "u>.Map<A.B>.Run(C<D.E>)".toList
    s ≠ [] ∧ '{' ∉ s ∧ '}' ∉ s ∧
      renderReference "T:u\x7d.Map\x7bA.B\x7d.Run(C\x7bD.E\x7d)".toList = pure "`Run(C<D.E>)`".toList ∧
      renderReference "M:u\x7d.Map\x7bA.B\x7d.Run(C\x7bD.E\x7d)".toList = pure "`Map<A.B>.Run(C<D.E>)`".toList := by
  intro s
  have hne : s ≠ [] := by decide
  have hopening : '{' ∉ s := by decide
  have hclosing : '}' ∉ s := by decide
  have hm : IsSegment "Run(C<D.E>)".toList := by decide
  obtain ⟨htype, hmember, -⟩ := renderReference_braces_eq_name s hne hopening hclosing
  have hshort : Signature.shortName s = pure "Run(C<D.E>)".toList := shortName_append_dot "u>.Map<A.B>".toList hm
  have howned : memberName s = pure "Map<A.B>.Run(C<D.E>)".toList :=
    (memberName_segments ['u', '>'] (o := "Map<A.B>".toList) (by decide) (by decide) hm).2
  refine ⟨hne, hopening, hclosing, ?_, ?_⟩
  · rw [hshort, map_pure] at htype
    exact htype
  · have hmethod := hmember 'M' (by decide)
    rw [howned, map_pure] at hmethod
    exact hmethod

end TagTooltips.Documentation
