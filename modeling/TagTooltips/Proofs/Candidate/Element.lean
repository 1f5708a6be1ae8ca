import TagTooltips.Proofs.Candidate.Completion
import TagTooltips.Proofs.Store.Enumeration

/-! There is one element candidate for each tag name, spelled as some descriptor spells it. It refers to all
types that apply to the tag in any case, so candidates that differ in case only say the same. -/

namespace TagTooltips

variable {s : Store} {tag type : String}

theorem Store.forTag_ne_nil_of_mem_tags (h : tag ∈ s.tags) : s.forTag tag ≠ [] := by
  rw [Store.tags_eq, mem_ascending, List.mem_flatMap] at h
  obtain ⟨d, hd, htag⟩ := h
  have happlies : Store.appliesTo tag d := Store.appliesTo_iff.mpr ⟨tag, htag, beq_self_eq_true _⟩
  exact List.ne_nil_of_mem (Store.mem_forTag_iff.mpr ⟨hd, happlies⟩)

theorem Store.WellFormed.pairwise_typesFor (h : s.WellFormed) (tag : String) :
    (s.typesFor tag).Pairwise (· < ·) := List.pairwise_map.mpr (h.pairwise_forTag tag)

theorem Store.WellFormed.mem_typesFor_iff (h : s.WellFormed) : type ∈ s.typesFor tag ↔
    ∃ d, s.lookup type = some d ∧ ∃ name ∈ d.tagNames, Text.sameIgnoringCase name tag := by
  rw [Store.typesFor, List.mem_map]
  constructor
  · rintro ⟨d, hd, rfl⟩
    exact ⟨d, h.mem_forTag_iff_lookup.mp hd⟩
  · rintro ⟨d, hlookup, hname⟩
    obtain rfl : d.typeName = type := h.typeName_of_lookup hlookup
    exact ⟨d, h.mem_forTag_iff_lookup.mpr ⟨hlookup, hname⟩, rfl⟩

namespace Candidate

theorem elements_eq (s : Store) : elements s = s.tags.mapM fun tag => ofTag (s.forTag tag) tag := by
  have hall : ∀ tag ∈ s.tags, !(s.forTag tag).isEmpty := by
    intro tag htag
    rw [Bool.not_eq_true', List.isEmpty_eq_false_iff]
    exact Store.forTag_ne_nil_of_mem_tags htag
  rw [elements, List.filter_eq_self.mpr hall]

theorem map_label_elements (s : Store) : (elements s).value.map (·.label) = s.tags := by
  have hlabel : ∀ tag ∈ s.tags, (ofTag (s.forTag tag) tag).value.label = tag := fun tag _ => by
    rw [value_ofTag]
  rw [elements_eq, Noted.value_mapM, List.map_map]
  exact (List.map_congr_left hlabel).trans (List.map_id' _)

/-- The element candidates are the tags, in strict order. Each refers to one type at least, without
documentation: to those types, in strict order, whose current descriptors apply to the tag up to case, and its
detail has their short names. So candidates that differ in case only refer to the same types. -/
theorem elements_of_tags {s : Store} (h : s.Reachable) :
    (∀ tag ∈ s.tags, s.forTag tag ≠ []) ∧
    (elements s).value.map (·.label) = s.tags ∧ ((elements s).value.map (·.label)).Pairwise (· < ·) ∧
    (∀ c ∈ (elements s).value, c.kind = .element ∧ ∃ types : List String, types ≠ [] ∧
      types.Pairwise (· < ·) ∧
      (∀ type, type ∈ types ↔
        ∃ d, s.lookup type = some d ∧ ∃ name ∈ d.tagNames, Text.sameIgnoringCase name c.label) ∧
      c.payload = .elements (types.map fun type => ⟨type, none⟩) ∧
      c.detail = ", ".intercalate (types.map fun type => (shortName type).value)) ∧
    ∀ c ∈ (elements s).value, ∀ other ∈ (elements s).value, Text.sameIgnoringCase c.label other.label →
      c.payload = other.payload ∧ c.detail = other.detail := by
  have hs : s.WellFormed := h.wellFormed
  refine ⟨fun tag => Store.forTag_ne_nil_of_mem_tags, map_label_elements s, ?_, ?_, ?_⟩
  · rw [map_label_elements]
    exact Store.pairwise_tags
  · intro c hc
    obtain ⟨hne, heq⟩ := eq_of_mem_elements hc
    rw [heq]
    exact ⟨rfl, s.typesFor c.label, hne, hs.pairwise_typesFor _, fun type => hs.mem_typesFor_iff, rfl, rfl⟩
  · intro c hc other hother hsame
    have htypes : s.typesFor c.label = s.typesFor other.label := by
      rw [Store.typesFor, Store.forTag_congr hsame, Store.typesFor]
    rw [(eq_of_mem_elements hc).2, (eq_of_mem_elements hother).2, htypes]
    exact ⟨rfl, rfl⟩

theorem elements_of_tags_two_cases :
    let both : Descriptor := ⟨"Ns.B", some "", ["a", "A"], []⟩
    let s := [Operation.upsert "p" [both, ⟨"Ns.A", none, ["a"], []⟩]].foldl Operation.run Store.empty
    s.Reachable ∧ ∃ c ∈ (elements s).value, ∃ other ∈ (elements s).value,
      c.label = "A" ∧ other.label = "a" ∧ Text.sameIgnoringCase c.label other.label ∧
      c.payload = other.payload ∧ c.detail = other.detail := by
  intro both s
  have hs : s.Reachable := Store.Reachable.empty.foldl_run _
  obtain ⟨-, hlabels, -, -, hsame⟩ := elements_of_tags hs
  have hboth : s.lookup both.typeName = some both := by decide
  have hoffered (tag : String) (htag : tag ∈ both.tagNames) : ∃ c ∈ (elements s).value, c.label = tag := by
    rw [← List.mem_map, hlabels, hs.wellFormed.mem_tags_iff]
    exact ⟨both, hboth, htag⟩
  obtain ⟨c, hc, hupper⟩ := hoffered "A" (by decide)
  obtain ⟨other, hother, hlower⟩ := hoffered "a" (by decide)
  have hcase : Text.sameIgnoringCase c.label other.label := by
    rw [hupper, hlower]
    decide
  exact ⟨hs, c, hc, other, hother, hupper, hlower, hcase, hsame c hc other hother hcase⟩

end Candidate

end TagTooltips
