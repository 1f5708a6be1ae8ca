import TagTooltips.Proofs.Signature.Bytes
import TagTooltips.Proofs.Signature.Cut
import TagTooltips.Proofs.Text.Beginning

/-! Short names of texts of any kind, balanced or not. A scan that starts inside a text gives the short name of the
beginning up to there; what it keeps is a text that is never cut, so that a second scan changes nothing. -/

namespace TagTooltips.Signature

open Text

variable {s t w : List Char} {b : Bracket}

namespace Bytes

def shortNameFromWord (s : List Char) (index : UInt64) : Checked (List Char) :=
  if s = [] then .ok [] else do
    let stop ← charEndAtWord s index
    let i ← minus stop 1
    scan Bracket.all s stop i

theorem shortNameFromWord_eq (hs : byteLength s < UInt64.size) (index : UInt64) :
    shortNameFromWord s index = shortNameUpTo s index.toNat := by
  rw [shortNameFromWord, charEndAtWord_eq hs, shortNameUpTo]

end Bytes

theorem shortNameUpTo_of_endsAt {index : Nat} {p : List Char} (h : EndsAt s index p) :
    shortNameUpTo s index = shortName p := by
  rw [shortNameUpTo, ← endsAt_iff.mp h]

theorem shortName_shortName (s : List Char) : shortName (shortName s).value = shortName s := by
  rcases value_shortName_cases s with ⟨owner, hcut⟩ | hwhole
  · have huncut := (cut_eq_dot_iff.mp hcut).2
    have hname := shortName_of_cut (cut_eq_whole_iff.mpr huncut) (by decide)
    rw [shortName_of_cut hcut (by simp)]
    exact hname
  · rw [hwhole]

theorem shortName_of_unbalanced (h : cut s = .unbalanced) : shortName s = ⟨s, [.unbalancedGroup]⟩ := by
  refine Noted.ext ?_ ?_
  · rw [value_shortName, h]
    rfl
  · simp [shortName, h, Noted.noteIf]

theorem shortName_unpaired (hw : b.Paired w) (ht : IsSegment t) :
    shortName (w ++ b.closing :: t) = ⟨w ++ b.closing :: t, [.unbalancedGroup]⟩ :=
  shortName_of_unbalanced (cut_eq_unbalanced_iff.mpr ⟨b, w, t, rfl, hw, ht.uncut⟩)

/-- From any offset, one behind the end or inside a character included, the short name of the beginning that ends
there is found, and what stands behind that beginning is not looked at. A short name is the whole text or what
stands behind one of its dots, it is its own short name, and it is the whole text if a closing bracket before a
segment closes nothing. -/
theorem shortName_of_arbitrary_text :
    (∀ s index, ∃ p, (∀ q, EndsAt s index q ↔ q = p) ∧ shortNameUpTo s index = shortName p ∧
      Bytes.shortNameUpTo s index = .ok (shortName p).value ∧
      (∀ word : UInt64, word.toNat = index → byteLength s < UInt64.size →
        Bytes.shortNameFromWord s word = .ok (shortName p).value) ∧
      (s ≠ [] → ∀ rest,
        Bytes.shortNameUpTo (p ++ rest) (min index (byteLength s - 1)) = .ok (shortName p).value)) ∧
    (∀ s, (shortName s).value = s ∨ ∃ u, s = u ++ '.' :: (shortName s).value) ∧
    (∀ s, shortName (shortName s).value = shortName s) ∧
    ∀ (b : Bracket) w t, b.Paired w → IsSegment t →
      shortName (w ++ b.closing :: t) = ⟨w ++ b.closing :: t, [.unbalancedGroup]⟩ := by
  refine ⟨fun s index => ?_, fun s => ?_, shortName_shortName, fun b w t => shortName_unpaired⟩
  · have hends : EndsAt s index (covering Char.utf8Size (index + 1) s) := endsAt_iff.mpr rfl
    have hbytes : Bytes.shortNameUpTo s index = .ok (shortName (covering Char.utf8Size (index + 1) s)).value := by
      rw [Bytes.shortNameUpTo_eq, shortNameUpTo_of_endsAt hends]
    refine ⟨_, fun q => endsAt_iff, shortNameUpTo_of_endsAt hends, hbytes, ?_, fun hs rest => ?_⟩
    · rintro word rfl hs
      rw [Bytes.shortNameFromWord_eq hs, hbytes]
    · rw [Bytes.shortNameUpTo_eq, shortNameUpTo_of_endsAt (hends.append hs rest)]
  · rcases value_shortName_cases s with ⟨owner, hcut⟩ | hwhole
    · exact .inr ⟨owner, eq_append_of_cut_dot hcut⟩
    · exact .inl hwhole

theorem shortName_of_arbitrary_text_two_bytes :
    let s := "Ns.Té.X".toList
    let w := "Ns.(A)<".toList
    let t := "é{.}".toList
    s ≠ [] ∧ (4 : UInt64).toNat = 4 ∧ byteLength s < UInt64.size ∧
      Bytes.shortNameFromWord s 4 = .ok "Té".toList ∧
      Bytes.shortNameUpTo ("Ns.Té".toList ++ ">)".toList) 4 = .ok "Té".toList ∧
      Bracket.round.Paired w ∧ IsSegment t ∧
      shortName (w ++ ')' :: t) = ⟨w ++ ')' :: t, [.unbalancedGroup]⟩ := by
  intro s w t
  have hne : s ≠ [] := by decide
  have hsize : byteLength s < UInt64.size := by decide
  have hw : Bracket.round.Paired w := by decide
  have ht : IsSegment t := by decide
  obtain ⟨p, hends, -, -, hword, hrest⟩ := shortName_of_arbitrary_text.1 s 4
  obtain rfl : "Ns.Té".toList = p :=
    (hends _).mp (.inr ⟨"Ns.T".toList, 'é', ".X".toList, rfl, rfl, by decide, by decide⟩)
  have hname : shortName "Ns.Té".toList = pure "Té".toList :=
    shortName_append_dot "Ns".toList (t := "Té".toList) (by decide)
  refine ⟨hne, rfl, hsize, ?_, ?_, hw, ht, shortName_of_arbitrary_text.2.2.2 .round w t hw ht⟩
  · rw [hword 4 rfl hsize, hname]
    rfl
  · have hfound := hrest hne ">)".toList
    rw [hname] at hfound
    exact hfound

end TagTooltips.Signature
