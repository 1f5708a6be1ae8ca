import TagTooltips.Proofs.Document.TagName

/-! The tag under a cursor, told from the line alone. Both ways that the name is put together from stop at the first
character that no name has, so it is the whole of a name in the line, and which one does not depend on where in it
the cursor is. -/

namespace TagTooltips.Document

open Text

/-- A line in which a place is marked as the name of a tag, all of it. -/
structure NamedTag where
  before : List Char
  opening : List Char
  name : List Char
  behind : List Char
  opens : IsOpening opening
  name_ne : name ≠ []
  name_chars : ∀ c ∈ name, isNameChar c
  stops : ∀ c rest, behind = c :: rest → isNameChar c = false

namespace NamedTag

def line (t : NamedTag) : List Char := t.before ++ t.opening ++ t.name ++ t.behind

/-- That many characters into the line is on the name, or at its end. -/
def Touches (t : NamedTag) (i : Nat) : Prop :=
  (t.before ++ t.opening).length ≤ i ∧ i ≤ (t.before ++ t.opening ++ t.name).length

instance (t : NamedTag) : DecidablePred t.Touches := fun i => inferInstanceAs (Decidable (_ ≤ i ∧ i ≤ _))

def Parts (t : NamedTag) (left right : List Char) : Prop :=
  ∃ first last, t.name = first ++ last ∧ left = t.before ++ t.opening ++ first ∧ right = last ++ t.behind

variable {t : NamedTag} {left right : List Char}

theorem Parts.line_eq (h : t.Parts left right) : t.line = left ++ right := by
  obtain ⟨first, last, hname, rfl, rfl⟩ := h
  simp only [line, hname, List.append_assoc]

theorem Parts.touches (h : t.Parts left right) : t.Touches left.length := by
  obtain ⟨first, last, hname, rfl, -⟩ := h
  simp only [Touches, hname, List.length_append]
  omega

theorem Touches.parts (hline : t.line = left ++ right) (h : t.Touches left.length) : t.Parts left right := by
  -- `left` is a beginning of the line between the one before the name and the one that ends with it.
  have hleft : left <+: t.line := ⟨right, hline.symm⟩
  have hfront : t.before ++ t.opening <+: t.line := by
    simp only [line, List.append_assoc]
    exact List.prefix_append_right_inj _ |>.mpr ⟨_, rfl⟩
  obtain ⟨first, rfl⟩ := List.prefix_of_prefix_length_le hfront hleft h.1
  obtain ⟨last, hlast⟩ := List.prefix_of_prefix_length_le hleft ⟨t.behind, rfl⟩ h.2
  have hname : t.name = first ++ last := by
    rw [List.append_assoc] at hlast
    exact (List.append_cancel_left hlast).symm
  refine ⟨first, last, hname, rfl, ?_⟩
  rw [line, hname] at hline
  simpa using hline.symm

end NamedTag

variable {d : Document} {p : Position} {t : NamedTag} {left right s : List Char} {tag : String} {n c : Nat}

theorem length_of_split? (h : d.split? p = some (left, right)) :
    left.length = begunBefore utf16Size p.character (left ++ right) := by
  rw [← length_covering, (split?_eq_some_iff.mp h).2]

theorem exists_split? (hline : d.lines[p.line]? = some s) : ∃ left right, s = left ++ right ∧
    d.split? p = some (left, right) := by
  obtain ⟨right, hcut⟩ : covering utf16Size p.character s <+: s := covering_prefix _ s
  refine ⟨_, right, hcut.symm, split?_eq_some_iff.mpr ?_⟩
  rw [hcut]
  exact ⟨hline, rfl⟩

theorem tagName?_of_parts (hsplit : d.split? p = some (left, right)) (hright : right ≠ []) (h : t.Parts left right) :
    d.tagName? p = some (String.ofList t.name) := by
  obtain ⟨first, last, hname, rfl, rfl⟩ := h
  have hchars := t.name_chars
  have hne := t.name_ne
  rw [hname] at hchars hne ⊢
  exact tagName?_of_whole t.opens hsplit hright hchars hne t.stops

theorem exists_parts_of_tagName? (h : d.tagName? p = some tag) : ∃ left right, d.split? p = some (left, right) ∧
    right ≠ [] ∧ ∃ t : NamedTag, t.name = tag.toList ∧ t.Parts left right := by
  obtain ⟨front, opening, first, right, hopening, hsplit, hfirst, hright, hne, rfl⟩ := exists_opening_of_tagName? h
  have hchars : ∀ c ∈ first ++ right.takeWhile isNameChar, isNameChar c :=
    List.forall_mem_append.mpr ⟨hfirst, fun c hc => List.mem_takeWhile_imp hc⟩
  let t : NamedTag := {
    before := front
    opening := opening
    name := first ++ right.takeWhile isNameChar
    behind := right.dropWhile isNameChar
    opens := hopening
    name_ne := hne
    name_chars := hchars
    stops := fun c rest => of_dropWhile_eq_cons }
  exact ⟨_, right, hsplit, hright, t, String.toList_ofList.symm, first, _, rfl, rfl,
    List.takeWhile_append_dropWhile.symm⟩

theorem tagName?_of_touches (hline : d.lines[n]? = some t.line) (htouch : t.Touches (begunBefore utf16Size c t.line))
    (hwithin : begunBefore utf16Size c t.line < t.line.length) : d.tagName? ⟨n, c⟩ = some (String.ofList t.name) := by
  obtain ⟨left, right, hparts, hsplit⟩ := exists_split? (p := ⟨n, c⟩) hline
  have hlength : left.length = begunBefore utf16Size c t.line := hparts ▸ length_of_split? hsplit
  rw [← hlength] at htouch hwithin
  refine tagName?_of_parts hsplit ?_ (htouch.parts hparts)
  rintro rfl
  rw [hparts, List.append_nil] at hwithin
  exact Nat.lt_irrefl _ hwithin

/-- A name is found exactly if the cursor touches it, at its end too, and is not at the end of the line. Wherever on
one name the cursor is, this name is found, so that no text is found that is not all of a name. -/
theorem tagName?_eq_some_iff_touches (d : Document) :
    (∀ p tag, d.tagName? p = some tag ↔ ∃ line, d.lines[p.line]? = some line ∧
      let i := begunBefore utf16Size p.character line
      i < line.length ∧ ∃ t : NamedTag, t.line = line ∧ t.name = tag.toList ∧ t.Touches i) ∧
    ∀ (t : NamedTag) n, d.lines[n]? = some t.line → ∀ c,
      let i := begunBefore utf16Size c t.line
      i < t.line.length → t.Touches i → d.tagName? ⟨n, c⟩ = some (String.ofList t.name) := by
  refine ⟨fun p tag => ⟨fun h => ?_, ?_⟩, fun t n hline c hwithin htouch => tagName?_of_touches hline htouch hwithin⟩
  · obtain ⟨left, right, hsplit, hright, t, hname, hparts⟩ := exists_parts_of_tagName? h
    refine ⟨left ++ right, (split?_eq_some_iff.mp hsplit).1, ?_⟩
    rw [← length_of_split? hsplit]
    refine ⟨?_, t, hparts.line_eq, hname, hparts.touches⟩
    rw [List.length_append]
    exact Nat.lt_add_of_pos_right (List.length_pos_iff.mpr hright)
  · rintro ⟨line, hline, hwithin, t, rfl, hname, htouch⟩
    rw [tagName?_of_touches hline htouch hwithin, hname, String.ofList_toList]

theorem tagName?_eq_some_iff_touches_end_tag :
    let d := Document.ofText "😀</a-é>"
    ∃ t : NamedTag, t.line = "😀</a-é>".toList ∧ t.name = "a-é".toList ∧ ∀ c ∈ [4, 6, 7],
      begunBefore utf16Size c t.line < t.line.length ∧ t.Touches (begunBefore utf16Size c t.line) ∧
        d.tagName? ⟨0, c⟩ = some "a-é" := by
  intro d
  let t : NamedTag := {
    before := ['😀']
    opening := ['<', '/']
    name := "a-é".toList
    behind := ['>']
    opens := .inr rfl
    name_ne := by decide
    name_chars := List.all_eq_true.mp (by decide)
    stops := fun c rest h => (List.cons.inj h).1 ▸ (by decide) }
  have hline : d.lines[0]? = some t.line := by decide +kernel
  have hplaces : ∀ c ∈ [4, 6, 7], begunBefore utf16Size c t.line < t.line.length ∧
      t.Touches (begunBefore utf16Size c t.line) := by decide
  refine ⟨t, by decide, rfl, fun c hc => ?_⟩
  obtain ⟨hwithin, htouch⟩ := hplaces c hc
  refine ⟨hwithin, htouch, ?_⟩
  rw [(tagName?_eq_some_iff_touches d).2 t 0 hline c hwithin htouch]
  rfl

end TagTooltips.Document
