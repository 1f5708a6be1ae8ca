import TagTooltips.Proofs.Signature.Scan

/-! Where a signature is cut. A short name is the whole signature or what stands behind one of its dots, and it
holds all that is never cut at the end of the signature. -/

namespace TagTooltips.Signature

variable {owner name s t : List Char}

theorem eq_append_of_cut_dot (h : cut s = .dot owner name) : s = owner ++ '.' :: name := (cut_eq_dot_iff.mp h).1

theorem value_shortName (s : List Char) : (shortName s).value = (cut s).shown s := rfl

theorem value_shortName_cases (s : List Char) :
    (∃ owner, cut s = .dot owner (shortName s).value) ∨ (shortName s).value = s := by
  rw [value_shortName]
  cases cut s with
  | dot owner name => exact .inl ⟨owner, rfl⟩
  | whole => exact .inr rfl
  | unbalanced => exact .inr rfl

theorem value_shortName_suffix (s : List Char) : (shortName s).value <:+ s := by
  rcases value_shortName_cases s with ⟨owner, hcut⟩ | hwhole
  · have hs := eq_append_of_cut_dot hcut
    have hname : (shortName s).value <:+ owner ++ '.' :: (shortName s).value :=
      (List.suffix_cons '.' _).trans (List.suffix_append owner _)
    rwa [← hs] at hname
  · exact ⟨[], hwhole⟩

theorem suffix_value_shortName (a : List Char) (ht : Uncut t) : t <:+ (shortName (a ++ t)).value := by
  obtain ⟨passed, -, hfits⟩ := exists_uncut_fits Bracket.mem_all ⟨a.reverse, t⟩
  rw [← cut_append_uncut a ht] at hfits
  rcases value_shortName_cases (a ++ t) with ⟨owner, hcut⟩ | hwhole
  · rw [hcut] at hfits
    exact ⟨passed, hfits.2.symm⟩
  · rw [hwhole]
    exact List.suffix_append a t

theorem value_shortName_behind_space_eq_iff (a : List Char) (hs : WellNested s) :
    (shortName (a ++ ' ' :: s)).value = (shortName s).value ↔ HasOuterDot s := by
  rw [hasOuterDot_iff]
  rcases hs.cases_last_dot with hsegment | ⟨u, t, rfl, hu, ht⟩
  · refine iff_of_false (fun heq => ?_) fun h => h.2 hsegment
    have hspace : Uncut (' ' :: s) := .plain (by decide) (fun b => by cases b <;> decide) hsegment.uncut
    have hlength := (suffix_value_shortName a hspace).length_le
    rw [heq, shortName_segment hsegment, Noted.value_pure, List.length_cons] at hlength
    exact Nat.lt_irrefl _ hlength
  · have hsame : a ++ ' ' :: (u ++ '.' :: t) = (a ++ ' ' :: u) ++ '.' :: t := by
      rw [List.append_assoc, List.cons_append]
    refine iff_of_true ?_ ⟨hs, fun h => lastSegment?_ne_whole hu ht h.lastSegment?⟩
    rw [hsame, shortName_append_dot _ ht, shortName_append_dot u ht]

end TagTooltips.Signature
