import TagTooltips.Proofs.Documentation.Rewrite
import TagTooltips.Proofs.Signature.Member

/-! What stands in place of a marker for a type, a property or a method: the last segment of its signature, for
members behind that of the owner, between two backticks. A name with a backtick of its own, such as the compiler
writes for the arity of a generic type, ends the inline code early. -/

namespace TagTooltips.Documentation

open Signature Text

def IsCodeSpan (s : List Char) : Prop := ∃ inner, inner ≠ [] ∧ '`' ∉ inner ∧ s = '`' :: inner ++ ['`']

theorem mem_angleBrackets {name : List Char} : '`' ∈ angleBrackets name ↔ '`' ∈ name := by
  rw [angleBrackets, List.mem_map]
  constructor
  · rintro ⟨c, hc, heq⟩
    split at heq
    · cases heq
    · split at heq
      · cases heq
      · exact heq ▸ hc
  · intro h
    exact ⟨'`', h, rfl⟩

theorem isCodeSpan_codeSpan_iff {name : List Char} :
    IsCodeSpan (codeSpan name) ↔ name ≠ [] ∧ '`' ∉ name := by
  have hempty : angleBrackets name = [] ↔ name = [] := List.map_eq_nil_iff
  constructor
  · rintro ⟨inner, hne, hmem, hspan⟩
    obtain rfl : angleBrackets name = inner := List.append_cancel_right (List.cons.inj hspan).2
    exact ⟨mt hempty.mpr hne, mt mem_angleBrackets.mpr hmem⟩
  · rintro ⟨hne, hmem⟩
    exact ⟨angleBrackets name, mt hempty.mp hne, mt mem_angleBrackets.mp hmem, rfl⟩

def Parts.markers : Parts → List Marker
  | .last _ => []
  | .cons _ m rest => m :: rest.markers

theorem Parts.Exact.value_replaceMarkers {p : Parts} (h : p.Exact) (shown : List Char → Noted (List Char)) :
    (replaceMarkers shown (occurrences 0 p.text) p.text).value =
      p.replaced fun value => (shown value).value := by
  obtain ⟨q, htext, hq, hspans⟩ := exists_exact_parts 0 p.text
  obtain rfl : q = p := hq.unique h htext
  rw [← hspans]
  exact value_replaceMarkers_spans shown q []

def shortenedKinds : List Char := ['T', 'P', 'M']

/-- What is to be shown of a well-nested signature: of a type its last segment, of a member its owner's too. -/
def referenceName? (kind : Char) (signature : List Char) : Option (List Char) :=
  if kind = 'T' then lastSegment? signature else ownedSegment? signature

section Reference

variable {kind x : Char} {signature name : List Char}

theorem renderReference_eq_codeSpan (hkind : kind ∈ shortenedKinds) (hx : x.utf8Size = 1) (hne : signature ≠ []) :
    renderReference (kind :: x :: signature) =
      codeSpan <$> if kind = 'T' then shortName signature else memberName signature := by
  have hkinds : kind = 'T' ∨ kind = 'P' ∨ kind = 'M' := by simpa [shortenedKinds] using hkind
  have hsize : kind.utf8Size = 1 := by rcases hkinds with rfl | rfl | rfl <;> rfl
  have hlead : byteLength [kind, x] = 2 := by
    rw [byteLength_cons, byteLength_cons, hsize, hx]
    rfl
  have hsplit : splitAtByte? 2 (kind :: x :: signature) = some ([kind, x], signature) := by
    rw [← hlead]
    exact splitAtByte?_byteLength [kind, x] signature
  obtain ⟨c, rest, rfl⟩ := List.exists_cons_of_ne_nil hne
  simp only [renderReference, hsplit]
  by_cases htype : kind = 'T'
  · rw [if_pos htype, if_pos htype]
    rfl
  · rw [if_neg htype, if_pos (hkinds.resolve_left htype), if_neg htype]
    rfl

theorem value_renderReference (hkind : kind ∈ shortenedKinds) (hx : x.utf8Size = 1) (hne : signature ≠ []) :
    (renderReference (kind :: x :: signature)).value =
      codeSpan (if kind = 'T' then (shortName signature).value else (memberName signature).value) := by
  rw [renderReference_eq_codeSpan hkind hx hne, Noted.value_map]
  split <;> rfl

theorem exists_referenceName? (hs : WellNested signature) (hlast : lastSegment? signature ≠ some []) :
    ∃ name, referenceName? kind signature = some name ∧ name ≠ [] ∧ name ⊆ signature ∧
      name = if kind = 'T' then (shortName signature).value else (memberName signature).value := by
  have hne : (shortName signature).value ≠ [] := by
    intro hnil
    rw [lastSegment?_eq_value hs, hnil] at hlast
    exact hlast rfl
  rw [referenceName?]
  by_cases htype : kind = 'T'
  · refine ⟨(shortName signature).value, ?_, hne, (value_shortName_suffix signature).subset, ?_⟩
    · rw [if_pos htype, lastSegment?_eq_value hs]
    · rw [if_pos htype]
  · refine ⟨(memberName signature).value, ?_, value_memberName_ne_nil hne, value_memberName_subset signature, ?_⟩
    · rw [if_neg htype, ownedSegment?_eq_value hs]
    · rw [if_neg htype]

theorem exists_value_renderReference (hkind : kind ∈ shortenedKinds) (hx : x.utf8Size = 1)
    (hs : WellNested signature) (hlast : lastSegment? signature ≠ some []) :
    ∃ name, referenceName? kind signature = some name ∧ name ≠ [] ∧ name ⊆ signature ∧
      (renderReference (kind :: x :: signature)).value = codeSpan name := by
  have hne : signature ≠ [] := by
    rintro rfl
    exact hlast rfl
  obtain ⟨name, hname, hname_ne, hsubset, hvalue⟩ := @exists_referenceName? kind signature hs hlast
  refine ⟨name, hname, hname_ne, hsubset, ?_⟩
  rw [value_renderReference hkind hx hne, ← hvalue]

end Reference

/-- In place of a marker for a type, a property or a method with a well-nested signature that ends in a name,
its short name is put between two backticks. That is one span of inline code exactly if the name has no backtick
of its own, and so it is for every signature without one. -/
theorem replaced_reference_isCodeSpan_iff (s : List Char) :
    ∃ p : Parts, (p.text = s ∧ p.Exact) ∧
      (replaceMarkers renderReference (occurrences 0 s) s).value =
        p.replaced (fun value => (renderReference value).value) ∧
      ∀ m ∈ p.markers, ∀ kind x signature, m.value = kind :: x :: signature → kind ∈ shortenedKinds →
        x.utf8Size = 1 → WellNested signature → lastSegment? signature ≠ some [] →
        ∃ name, referenceName? kind signature = some name ∧ name ≠ [] ∧
          (renderReference m.value).value = codeSpan name ∧
          (IsCodeSpan (renderReference m.value).value ↔ '`' ∉ name) ∧
          ('`' ∉ signature → IsCodeSpan (renderReference m.value).value) := by
  obtain ⟨p, rfl, hexact, -⟩ := exists_exact_parts 0 s
  refine ⟨p, ⟨rfl, hexact⟩, hexact.value_replaceMarkers renderReference, ?_⟩
  intro m _ kind x signature hm hkind hx hs hlast
  obtain ⟨name, hname, hne, hsubset, hvalue⟩ := exists_value_renderReference hkind hx hs hlast
  have hspan : IsCodeSpan (codeSpan name) ↔ '`' ∉ name := by
    rw [isCodeSpan_codeSpan_iff]
    exact and_iff_right hne
  rw [hm, hvalue]
  exact ⟨name, hname, hne, rfl, hspan, fun hnone => hspan.mpr fun h => hnone (hsubset h)⟩

def Marker.see (value : List Char) (hne : value ≠ []) (hchars : value.all isValueChar) : Marker where
  also := false
  blank := [' ']
  value
  tail := ['/']
  blank_ne := by decide
  blank_white := by
    intro c hc
    rw [List.mem_singleton.mp hc]
    decide
  value_ne := hne
  value_chars := by simpa [isValueChar] using hchars
  tail_chars := by simp

theorem replaced_reference_isCodeSpan_property :
    let m := Marker.see "P:Ns.Tag.Action".toList (by decide) (by decide)
    WellNested "Ns.Tag.Action".toList ∧ lastSegment? "Ns.Tag.Action".toList ≠ some [] ∧
      (replaceMarkers renderReference (occurrences 0 m.text) m.text).value = "`Tag.Action`".toList ∧
      IsCodeSpan (renderReference m.value).value := by
  intro m
  have hs : WellNested "Ns.Tag.Action".toList := by decide
  have hlast : lastSegment? "Ns.Tag.Action".toList ≠ some [] := by decide
  have hexact : (Parts.cons [] m (.last [])).Exact := ⟨Parts.bare_nil, Parts.bare_nil⟩
  obtain ⟨p, ⟨htext, hp⟩, hreplaced, hall⟩ := replaced_reference_isCodeSpan_iff m.text
  obtain rfl : p = .cons [] m (.last []) := hp.unique hexact (by simp [htext, Parts.text])
  obtain ⟨name, hname, -, hvalue, -, hspan⟩ :=
    hall m List.mem_cons_self 'P' ':' "Ns.Tag.Action".toList rfl (by decide) rfl hs hlast
  have hshown : referenceName? 'P' "Ns.Tag.Action".toList = some "Tag.Action".toList := by decide
  obtain rfl : "Tag.Action".toList = name := Option.some.inj (hshown.symm.trans hname)
  refine ⟨hs, hlast, ?_, hspan (by decide)⟩
  rw [hreplaced, Parts.replaced, hvalue]
  rfl

theorem replaced_reference_with_arity :
    let m := Marker.see "T:Ns.List`1".toList (by decide) (by decide)
    (Parts.cons [] m (.last [])).Exact ∧ WellNested "Ns.List`1".toList ∧
      lastSegment? "Ns.List`1".toList = some "List`1".toList ∧
      (replaceMarkers renderReference (occurrences 0 m.text) m.text).value = "`List`1`".toList ∧
      (renderReference m.value).value = "`List`1`".toList ∧ ¬ IsCodeSpan (renderReference m.value).value := by
  intro m
  have hs : WellNested "Ns.List`1".toList := by decide
  have hlast : lastSegment? "Ns.List`1".toList = some "List`1".toList := by decide
  have hexact : (Parts.cons [] m (.last [])).Exact := ⟨Parts.bare_nil, Parts.bare_nil⟩
  have hne : lastSegment? "Ns.List`1".toList ≠ some [] := by decide
  have hkind : 'T' ∈ shortenedKinds := by decide
  have hx : ':'.utf8Size = 1 := rfl
  obtain ⟨name, hname, -, -, hvalue⟩ := exists_value_renderReference hkind hx hs hne
  obtain rfl : "List`1".toList = name := Option.some.inj (hlast.symm.trans hname)
  refine ⟨hexact, hs, hlast, ?_, hvalue, ?_⟩
  · have hreplaced := hexact.value_replaceMarkers renderReference
    simp only [Parts.text, Parts.replaced, List.nil_append, List.append_nil] at hreplaced
    exact hreplaced.trans hvalue
  · intro hspan
    exact (isCodeSpan_codeSpan_iff.mp (hvalue ▸ hspan)).2 (by decide)

end TagTooltips.Documentation
