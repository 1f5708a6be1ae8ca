import TagTooltips.Proofs.Signature.Cut
import TagTooltips.Proofs.Text.Bytes
import TagTooltips.Tooltip.Entry

/-! The header of an attribute. The owner is cut out of the display name as if this began with the return type
as it is shown. A display name that begins with the whole name of the return type leaves a rest of that name
before the owner, and nothing but the cut of the owner itself drops it again. -/

namespace TagTooltips

open Text

namespace Signature

theorem byteLength_alias_lt : ∀ p ∈ aliases, byteLength p.2.toList < byteLength p.1.toList := by decide

theorem displayName_cases (typeName : String) :
    displayName typeName = typeName ∨ byteLength (displayName typeName).toList < byteLength typeName.toList := by
  rw [displayName]
  cases hlookup : aliases.lookup typeName with
  | none => exact .inl rfl
  | some keyword =>
    obtain ⟨before, after, haliases, -⟩ := List.lookup_eq_some_iff.mp hlookup
    have hmem : (typeName, keyword) ∈ aliases := by
      rw [haliases]
      exact List.mem_append_right before List.mem_cons_self
    exact .inr (byteLength_alias_lt _ hmem)

end Signature

theorem toList_value_shortName (name : String) :
    (shortName name).value.toList = (Signature.shortName name.toList).value := by
  rw [shortName, Noted.value_map, String.toList_ofList]

theorem value_shortName_of_eq {name shown : String}
    (h : Signature.shortName name.toList = pure shown.toList) : (shortName name).value = shown := by
  rw [← String.toList_inj, toList_value_shortName, h, Noted.value_pure]

namespace AttributeEntry

variable {e : AttributeEntry} {lead inner tail : List Char}

theorem returnType_cases (e : AttributeEntry) :
    e.returnType.value = e.returnTypeName ∨
      byteLength e.returnType.value.toList < byteLength e.returnTypeName.toList := by
  have hvalue : e.returnType.value.toList =
      (Signature.shortName (Signature.displayName e.returnTypeName).toList).value := toList_value_shortName _
  have hsuffix := Signature.value_shortName_suffix (Signature.displayName e.returnTypeName).toList
  rw [← hvalue] at hsuffix
  by_cases hwhole : e.returnType.value.toList = (Signature.displayName e.returnTypeName).toList
  · rw [String.toList_inj.mp hwhole]
    exact Signature.displayName_cases e.returnTypeName
  · have hshort := byteLength_lt_of_suffix hsuffix hwhole
    rcases Signature.displayName_cases e.returnTypeName with hname | hname
    · rw [hname] at hshort
      exact .inr hshort
    · exact .inr (Nat.lt_trans hshort hname)

theorem value_owner_of_append (hname : e.displayName.toList = lead ++ inner ++ tail)
    (hlead : byteLength lead = byteLength e.returnType.value.toList + 1)
    (htail : byteLength tail = byteLength e.propertyName.toList + 1) :
    e.owner.value = .ok (String.ofList inner) := by
  rw [owner, Noted.value_bind]
  dsimp only
  rw [← htail, ← hlead, hname, byteLength_append (lead ++ inner), if_pos (Nat.le_add_left _ _),
    Nat.add_sub_cancel, betweenBytes?_append]
  rfl

theorem value_owner_of_displayed {owner : String}
    (hname : e.displayName = e.returnType.value ++ " " ++ owner ++ "." ++ e.propertyName) :
    e.owner.value = .ok owner := by
  have hparts : e.displayName.toList =
      (e.returnType.value.toList ++ [' ']) ++ owner.toList ++ '.' :: e.propertyName.toList := by
    simp [hname]
  have hlead : byteLength (e.returnType.value.toList ++ [' ']) = byteLength e.returnType.value.toList + 1 :=
    byteLength_append _ _
  have htail : byteLength ('.' :: e.propertyName.toList) = byteLength e.propertyName.toList + 1 := Nat.add_comm _ _
  rw [value_owner_of_append hparts hlead htail, String.ofList_toList]

theorem value_header_of_owner {owner : String} (h : e.owner.value = .ok owner) :
    e.header.value =
      "**" ++ e.returnType.value ++ "** " ++ (shortName owner).value ++ ".**" ++ e.propertyName ++ "**" := by
  rw [header, Noted.value_bind, Noted.value_bind, h]
  rfl

def spelledOut (returnType owner property : String) (documentation : Option String) : AttributeEntry :=
  ⟨returnType, returnType ++ " " ++ owner ++ "." ++ property, property, documentation⟩

section SpelledOut

variable (F O P : String) (documentation : Option String)

theorem displayName_spelledOut : (spelledOut F O P documentation).displayName.toList =
    F.toList ++ ' ' :: O.toList ++ '.' :: P.toList := by
  simp [spelledOut]

theorem byteLength_property : byteLength ('.' :: P.toList) =
    byteLength (spelledOut F O P documentation).propertyName.toList + 1 := by
  rw [byteLength_cons, Nat.add_comm]
  rfl

variable {F O}

theorem value_owner_of_shown_whole (hshown : (spelledOut F O P documentation).returnType.value = F) :
    (spelledOut F O P documentation).owner.value = .ok O := by
  apply value_owner_of_displayed
  rw [hshown, spelledOut]

theorem exists_value_owner_of_shown_shorter (hF : ∀ c ∈ F.toList, c.toNat < 0x80)
    (hshown : byteLength (spelledOut F O P documentation).returnType.value.toList < byteLength F.toList) :
    ∃ rest, (spelledOut F O P documentation).owner.value = .ok (String.ofList (rest ++ ' ' :: O.toList)) := by
  -- `rest` is what is left of the return type behind the cut; the space that follows it comes along.
  obtain ⟨lead, rest, hsplit, hlead⟩ := exists_eq_append_of_ascii hF (Nat.succ_le_of_lt hshown)
  have hname : (spelledOut F O P documentation).displayName.toList =
      lead ++ (rest ++ ' ' :: O.toList) ++ '.' :: P.toList := by
    rw [displayName_spelledOut, hsplit, List.append_assoc lead]
  exact ⟨rest, value_owner_of_append hname hlead (byteLength_property F O P documentation)⟩

end SpelledOut

/-- Where the display name spells the return type out, the header names the short name of the owner exactly
if the return type is shown by its whole name too or the owner has a dot outside all groups. -/
theorem header_spelledOut_iff (F O P : String) (documentation : Option String)
    (hF : ∀ c ∈ F.toList, c.toNat < 0x80) (hO : Signature.WellNested O.toList) :
    let e := spelledOut F O P documentation
    let R := e.returnType.value
    e.header.value = "**" ++ R ++ "** " ++ (shortName O).value ++ ".**" ++ P ++ "**" ↔
      R = F ∨ Signature.HasOuterDot O.toList := by
  intro e R
  by_cases hshown : R = F
  · exact iff_of_true (value_header_of_owner (value_owner_of_shown_whole P documentation hshown)) (.inl hshown)
  · have hshorter : byteLength R.toList < byteLength F.toList := (returnType_cases e).resolve_left hshown
    obtain ⟨rest, howner⟩ := exists_value_owner_of_shown_shorter P documentation hF hshorter
    calc e.header.value = "**" ++ R ++ "** " ++ (shortName O).value ++ ".**" ++ P ++ "**"
        ↔ (shortName (String.ofList (rest ++ ' ' :: O.toList))).value = (shortName O).value := by
          rw [value_header_of_owner howner]
          simp only [String.append_left_inj, String.append_right_inj, R, e, spelledOut]
      _ ↔ (Signature.shortName (rest ++ ' ' :: O.toList)).value = (Signature.shortName O.toList).value := by
          rw [← String.toList_inj, toList_value_shortName, toList_value_shortName, String.toList_ofList]
      _ ↔ Signature.HasOuterDot O.toList := Signature.value_shortName_behind_space_eq_iff rest hO
      _ ↔ R = F ∨ Signature.HasOuterDot O.toList := (or_iff_right hshown).symm

theorem header_spelledOut_iff_boolean :
    (∀ c ∈ "System.Boolean".toList, c.toNat < 0x80) ∧ Signature.WellNested "Helper".toList ∧
      Signature.WellNested "Lib.Helper".toList ∧
      (spelledOut "System.Boolean" "Helper" "Flag" none).header.value ≠ "**bool** Helper.**Flag**" ∧
      (spelledOut "System.Boolean" "Lib.Helper" "Flag" none).header.value = "**bool** Helper.**Flag**" := by
  have hall : "System.Boolean".toList.all (·.toNat < 0x80) = true := by decide
  have hF : ∀ c ∈ "System.Boolean".toList, c.toNat < 0x80 := by
    simpa only [List.all_eq_true, decide_eq_true_eq] using hall
  have hbare : Signature.WellNested "Helper".toList := by decide
  have howned : Signature.WellNested "Lib.Helper".toList := by decide
  have hbool : Signature.IsSegment "bool".toList := by decide
  have hhelper : Signature.IsSegment "Helper".toList := by decide
  have hR (O : String) : (spelledOut "System.Boolean" O "Flag" none).returnType.value = "bool" :=
    value_shortName_of_eq (Signature.shortName_segment hbool)
  have hname : (shortName "Helper").value = "Helper" :=
    value_shortName_of_eq (Signature.shortName_segment hhelper)
  have hname' : (shortName "Lib.Helper").value = "Helper" :=
    value_shortName_of_eq (Signature.shortName_append_dot ['L', 'i', 'b'] hhelper)
  have hbareHeader := header_spelledOut_iff "System.Boolean" "Helper" "Flag" none hF hbare
  have hownedHeader := header_spelledOut_iff "System.Boolean" "Lib.Helper" "Flag" none hF howned
  simp only [hR, hname, hname'] at hbareHeader hownedHeader
  refine ⟨hF, hbare, howned, ?_, ?_⟩
  · exact mt hbareHeader.mp (by decide)
  · exact hownedHeader.mpr (.inr (by decide))

end AttributeEntry

end TagTooltips
