import TagTooltips.Proofs.Signature.Cut
import TagTooltips.Proofs.Text.Bytes

/-! The name of a member with the name of its owner. The byte length of the short name leads back to the dot of
the cut, and from there to what stands before it. A parser that reads forwards finds the same two segments. -/

namespace TagTooltips.Signature

open Text

variable {s t owner name : List Char}

theorem memberName_of_whole (h : (shortName s).value = s) : memberName s = shortName s := by
  rw [memberName]
  refine Noted.ext ?_ ?_
  · rw [Noted.value_bind, h]
    dsimp only
    rw [if_pos rfl, Noted.value_pure]
  · rw [Noted.notes_bind, h]
    dsimp only
    rw [if_pos rfl, Noted.notes_pure, List.append_nil]

theorem value_memberName_of_whole (h : (shortName s).value = s) : (memberName s).value = s := by
  rw [memberName_of_whole h, h]

theorem shortName_of_dot (h : cut s = .dot owner name) : shortName s = pure name :=
  shortName_of_cut h (by simp)

theorem memberName_of_dot (h : cut s = .dot owner name) :
    memberName s = if owner = [] then pure name else (· ++ '.' :: name) <$> shortName owner := by
  have hs : s = owner ++ '.' :: name := eq_append_of_cut_dot h
  have htotal : byteLength s = byteLength owner + (1 + byteLength name) := by
    rw [hs, byteLength_append]
    rfl
  rw [memberName, shortName_of_dot h, pure_bind]
  dsimp only
  rw [if_neg (by omega)]
  by_cases howner : owner = []
  · have hnone : byteLength owner = 0 := by
      rw [howner]
      rfl
    rw [if_neg (by omega), if_pos howner]
  · have hpos := byteLength_pos howner
    have hback : byteLength s - (byteLength name + 2) + 1 = byteLength owner := by omega
    rw [if_pos (by omega), if_neg howner, shortNameUpTo, hback, hs, covering_byteLength, map_eq_pure_bind]

theorem value_memberName_of_dot (h : cut s = .dot owner name) :
    (memberName s).value = if owner = [] then name else (shortName owner).value ++ '.' :: name := by
  rw [memberName_of_dot h]
  split <;> rfl

theorem value_memberName_cases (s : List Char) : (memberName s).value = (shortName s).value ∨
    ∃ owner, s = owner ++ '.' :: (shortName s).value ∧
      (memberName s).value = (shortName owner).value ++ '.' :: (shortName s).value := by
  rcases value_shortName_cases s with ⟨owner, hcut⟩ | hwhole
  · have hvalue := value_memberName_of_dot hcut
    by_cases howner : owner = []
    · rw [if_pos howner] at hvalue
      exact .inl hvalue
    · rw [if_neg howner] at hvalue
      exact .inr ⟨owner, eq_append_of_cut_dot hcut, hvalue⟩
  · exact .inl ((value_memberName_of_whole hwhole).trans hwhole.symm)

theorem value_memberName_subset (s : List Char) : (memberName s).value ⊆ s := by
  rcases value_memberName_cases s with hmember | ⟨owner, hs, hmember⟩
  · rw [hmember]
    exact (value_shortName_suffix s).subset
  · have howner : owner <+: s := ⟨_, hs.symm⟩
    have hname : '.' :: (shortName s).value <:+ s := ⟨owner, hs.symm⟩
    rw [hmember]
    exact List.append_subset.mpr
      ⟨List.Subset.trans (value_shortName_suffix owner).subset howner.subset, hname.subset⟩

theorem value_memberName_ne_nil (h : (shortName s).value ≠ []) : (memberName s).value ≠ [] := by
  rcases value_memberName_cases s with hmember | ⟨owner, -, hmember⟩
  · rwa [hmember]
  · rw [hmember]
    exact List.append_ne_nil_of_right_ne_nil _ (List.cons_ne_nil _ _)

theorem value_shortName_of_lastSegment? (h : lastSegment? s = some t) : (shortName s).value = t := by
  have hs : WellNested s := lastSegment?_isSome_iff.mp (by rw [h, Option.isSome_some])
  rcases hs.cases_last_dot with hsegment | ⟨u, t', rfl, hu, ht⟩
  · rw [shortName_segment hsegment, Noted.value_pure]
    exact Option.some.inj (hsegment.lastSegment?.symm.trans h)
  · rw [shortName_append_dot u ht, Noted.value_pure]
    exact Option.some.inj ((lastSegment?_append hu ht).symm.trans h)

theorem lastSegment?_eq_value (hs : WellNested s) : lastSegment? s = some (shortName s).value := by
  obtain ⟨t, ht⟩ := Option.isSome_iff_exists.mp (lastSegment?_isSome_iff.mpr hs)
  rw [ht, value_shortName_of_lastSegment? ht]

/-- The last segment of a well-nested text and, before it, that of what the text holds before the dot. -/
def ownedSegment? (s : List Char) : Option (List Char) := do
  let member ← lastSegment? s
  let owner := s.take (s.length - (member.length + 1))
  if owner = [] then return member
  return (← lastSegment? owner) ++ '.' :: member

theorem ownedSegment?_eq_value (hs : WellNested s) : ownedSegment? s = some (memberName s).value := by
  rcases hs.cases_last_dot with hsegment | ⟨u, t, rfl, hu, ht⟩
  · have hwhole : (shortName s).value = s := by rw [shortName_segment hsegment, Noted.value_pure]
    have howner : s.length - (s.length + 1) = 0 := by omega
    rw [ownedSegment?, hsegment.lastSegment?, value_memberName_of_whole hwhole]
    simp [howner]
  · have howner : (u ++ '.' :: t).take ((u ++ '.' :: t).length - (t.length + 1)) = u := by
      rw [List.length_append, List.length_cons, Nat.add_sub_cancel, List.take_left]
    rw [ownedSegment?, lastSegment?_append hu ht, value_memberName_of_dot (cut_append_dot u ht)]
    simp only [Option.bind_eq_bind, Option.bind_some, howner, lastSegment?_eq_value hu, Option.pure_def]
    split <;> rfl

theorem memberName_segments {o m : List Char} (u : List Char) (ho : IsSegment o) (hne : o ≠ []) (hm : IsSegment m) :
    memberName (o ++ '.' :: m) = pure (o ++ '.' :: m) ∧
      memberName (u ++ '.' :: (o ++ '.' :: m)) = pure (o ++ '.' :: m) := by
  have hsame : u ++ '.' :: (o ++ '.' :: m) = (u ++ '.' :: o) ++ '.' :: m := by
    rw [List.append_assoc, List.cons_append]
  have howner : u ++ '.' :: o ≠ [] := List.append_ne_nil_of_right_ne_nil u (List.cons_ne_nil '.' o)
  constructor
  · rw [memberName_of_dot (cut_append_dot o hm), if_neg hne, shortName_segment ho, map_pure]
  · rw [hsame, memberName_of_dot (cut_append_dot _ hm), if_neg howner, shortName_append_dot u ho, map_pure]

/-- A signature that is its own short name is its own member name. Any other stands before its short name with a
dot between them, and its member name is the short name of what stands before the dot, if anything does, the dot
and its own short name. So an owner and a member are found whatever stands before them. -/
theorem memberName_eq_owner_and_member :
    (∀ s, (shortName s).value = s → memberName s = ⟨s, (shortName s).notes⟩) ∧
    (∀ s, (shortName s).value ≠ s → ∃ w m, s = w ++ '.' :: m ∧ shortName s = pure m ∧
      memberName s = if w = [] then pure m else (· ++ '.' :: m) <$> shortName w) ∧
    ∀ u o m, IsSegment o → o ≠ [] → IsSegment m → memberName (o ++ '.' :: m) = pure (o ++ '.' :: m) ∧
      memberName (u ++ '.' :: (o ++ '.' :: m)) = pure (o ++ '.' :: m) := by
  refine ⟨fun s hwhole => ?_, fun s hcut => ?_, fun u o m => memberName_segments u⟩
  · have hvalue : (memberName s).value = s := value_memberName_of_whole hwhole
    have hnotes : (memberName s).notes = (shortName s).notes := by rw [memberName_of_whole hwhole]
    exact Noted.ext hvalue hnotes
  · rcases value_shortName_cases s with ⟨owner, hdot⟩ | hwhole
    · exact ⟨owner, _, eq_append_of_cut_dot hdot, shortName_of_dot hdot, memberName_of_dot hdot⟩
    · exact absurd hwhole hcut

theorem memberName_eq_owner_and_member_two_bytes :
    let s := ">.A<b.c>é".toList ++ '.' :: "M(d.e)".toList
    (shortName s).value ≠ s ∧ IsSegment "A<b.c>é".toList ∧ "A<b.c>é".toList ≠ [] ∧ IsSegment "M(d.e)".toList ∧
      (∃ w m, s = w ++ '.' :: m ∧ shortName s = pure m ∧
        memberName s = if w = [] then pure m else (· ++ '.' :: m) <$> shortName w) ∧
      memberName s = pure "A<b.c>é.M(d.e)".toList ∧
      (shortName "M(d.e)".toList).value = "M(d.e)".toList ∧
      memberName "M(d.e)".toList = ⟨"M(d.e)".toList, (shortName "M(d.e)".toList).notes⟩ := by
  intro s
  have ho : IsSegment "A<b.c>é".toList := by decide
  have hm : IsSegment "M(d.e)".toList := by decide
  have hname : shortName s = pure "M(d.e)".toList := shortName_append_dot ">.A<b.c>é".toList hm
  have hcut : (shortName s).value ≠ s := by
    rw [hname]
    decide
  have hwhole : (shortName "M(d.e)".toList).value = "M(d.e)".toList := by rw [shortName_segment hm, Noted.value_pure]
  exact ⟨hcut, ho, by decide, hm, memberName_eq_owner_and_member.2.1 s hcut,
    (memberName_eq_owner_and_member.2.2 ['>'] "A<b.c>é".toList "M(d.e)".toList ho (by decide) hm).2, hwhole,
    memberName_eq_owner_and_member.1 _ hwhole⟩

end TagTooltips.Signature
