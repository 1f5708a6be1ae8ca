import TagTooltips.Proofs.Tooltip.Header

/-! The owner in a display name. It is found exactly if it stands between two texts that are as long in bytes as the
parts around it should be; what these texts are does not matter. -/

namespace TagTooltips

open Text

namespace AttributeEntry

/-- A text stands in the display name with room before it for the shown return type and a space, and room behind it
for a dot and the property. -/
def HasOwner (e : AttributeEntry) (owner : List Char) : Prop :=
  ∃ lead tail, e.displayName.toList = lead ++ owner ++ tail ∧
    byteLength lead = byteLength e.returnType.value.toList + 1 ∧
    byteLength tail = byteLength e.propertyName.toList + 1

variable {e : AttributeEntry} {inner : List Char} {cause : Failure}

theorem HasOwner.value_owner (h : e.HasOwner inner) : e.owner.value = .ok (String.ofList inner) := by
  obtain ⟨lead, tail, hname, hlead, htail⟩ := h
  exact value_owner_of_append hname hlead htail

theorem hasOwner_of_betweenBytes?
    (htail : byteLength e.propertyName.toList + 1 ≤ byteLength e.displayName.toList)
    (hinner : betweenBytes? (byteLength e.returnType.value.toList + 1)
      (byteLength e.displayName.toList - (byteLength e.propertyName.toList + 1)) e.displayName.toList =
        some inner) : e.HasOwner inner := by
  obtain ⟨lead, tail, hname, hlead, hstop⟩ := betweenBytes?_eq_some_iff.mp hinner
  have htotal := congrArg byteLength hname
  rw [byteLength_append (lead ++ inner)] at htotal
  exact ⟨lead, tail, hname, hlead.symm, by omega⟩

theorem value_owner_of_forall_not_hasOwner (h : ∀ inner, ¬ e.HasOwner inner) :
    e.owner.value = .error (.noOwner e.displayName e.returnType.value e.propertyName) := by
  have hnone : (if byteLength e.propertyName.toList + 1 ≤ byteLength e.displayName.toList then
      betweenBytes? (byteLength e.returnType.value.toList + 1)
        (byteLength e.displayName.toList - (byteLength e.propertyName.toList + 1)) e.displayName.toList
      else none) = none := by
    split
    · rename_i htail
      apply Option.eq_none_iff_forall_ne_some.mpr
      intro inner hinner
      exact h inner (hasOwner_of_betweenBytes? htail hinner)
    · rfl
  rw [owner, Noted.value_bind]
  dsimp only
  rw [hnone]
  rfl

theorem value_owner_eq_ok_iff {owner : String} : e.owner.value = .ok owner ↔ e.HasOwner owner.toList := by
  constructor
  · intro hfound
    by_cases hcut : ∃ inner, e.HasOwner inner
    · obtain ⟨inner, hinner⟩ := hcut
      obtain rfl : String.ofList inner = owner := Except.ok.inj (hinner.value_owner.symm.trans hfound)
      rwa [String.toList_ofList]
    · rw [value_owner_of_forall_not_hasOwner (not_exists.mp hcut)] at hfound
      cases hfound
  · intro hcut
    rw [hcut.value_owner, String.ofList_toList]

theorem value_owner_eq_error_iff : e.owner.value = .error cause ↔
    cause = .noOwner e.displayName e.returnType.value e.propertyName ∧ ∀ inner, ¬ e.HasOwner inner := by
  constructor
  · intro hfailed
    have hnone : ∀ inner, ¬ e.HasOwner inner := by
      intro inner hinner
      rw [hinner.value_owner] at hfailed
      cases hfailed
    rw [value_owner_of_forall_not_hasOwner hnone] at hfailed
    exact ⟨(Except.error.inj hfailed).symm, hnone⟩
  · rintro ⟨rfl, hnone⟩
    exact value_owner_of_forall_not_hasOwner hnone

theorem value_header_of_error (h : e.owner.value = .error cause) :
    e.header.value = "**" ++ e.returnType.value ++ "** **" ++ e.propertyName ++ "**" := by
  rw [header, Noted.value_bind, Noted.value_bind, h]
  rfl

/-- The owner is what stands in the display name between the room for the shown return type and that for the
property; where the display name has no such place the failure says so and the header goes without an owner. From a
display name that is put together of the shown return type, an owner and the property, that owner comes back, whatever
it is. -/
theorem owner_eq_ok_iff_hasOwner (e : AttributeEntry) :
    let R := e.returnType.value
    let P := e.propertyName
    (∀ owner, e.owner.value = .ok owner ↔ e.HasOwner owner.toList) ∧
    (∀ cause, e.owner.value = .error cause ↔
      cause = .noOwner e.displayName R P ∧ ∀ inner, ¬ e.HasOwner inner) ∧
    ((∀ inner, ¬ e.HasOwner inner) → e.header.value = "**" ++ R ++ "** **" ++ P ++ "**") ∧
    ∀ O, let shown := { e with displayName := R ++ " " ++ O ++ "." ++ P }
      shown.owner.value = .ok O ∧
      shown.header.value = "**" ++ R ++ "** " ++ (shortName O).value ++ ".**" ++ P ++ "**" := by
  intro R P
  refine ⟨fun owner => value_owner_eq_ok_iff, fun cause => value_owner_eq_error_iff, fun hnone => ?_, fun O => ?_⟩
  · exact value_header_of_error (value_owner_of_forall_not_hasOwner hnone)
  · have howner : (owner { e with displayName := R ++ " " ++ O ++ "." ++ P }).value = .ok O :=
      value_owner_of_displayed rfl
    exact ⟨howner, value_header_of_owner howner⟩

theorem owner_eq_ok_iff_hasOwner_two_bytes :
    let e : AttributeEntry := ⟨"Lib.Row", "Rowé.At", "At", none⟩
    (∀ inner, ¬ e.HasOwner inner) ∧ e.header.value = "**Row** **At**" ∧
      (owner { e with displayName := "Row .At" }).value = .ok "" := by
  intro e
  have hrow : Signature.IsSegment "Row".toList := by decide
  have hname : Signature.displayName e.returnTypeName = "Lib.Row" := by decide
  have hshown : e.returnType.value = "Row" := by
    rw [returnType, hname]
    exact value_shortName_of_eq (Signature.shortName_append_dot ['L', 'i', 'b'] hrow)
  have hinside : splitAtByte? 4 "Rowé.At".toList = none := by decide
  have hnone : ∀ inner, ¬ e.HasOwner inner := by
    rintro inner ⟨lead, tail, hname, hlead, -⟩
    have hsplit := splitAtByte?_byteLength lead (inner ++ tail)
    rw [← List.append_assoc, ← hname, hlead, hshown] at hsplit
    exact absurd (hinside.symm.trans hsplit) (Option.some_ne_none _).symm
  obtain ⟨-, -, hheader, hdisplayed⟩ := owner_eq_ok_iff_hasOwner e
  refine ⟨hnone, ?_, ?_⟩
  · rw [hheader hnone, hshown]
    rfl
  · have hempty := (hdisplayed "").1
    rw [hshown] at hempty
    exact hempty

end AttributeEntry

end TagTooltips
