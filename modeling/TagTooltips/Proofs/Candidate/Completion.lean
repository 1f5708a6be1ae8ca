import TagTooltips.Candidate.Completion
import TagTooltips.Proofs.Ascending
import TagTooltips.Proofs.Store.Query

/-! What is offered has something to describe: an element candidate refers to one type at least, without
documentation, and an attribute candidate holds one bound attribute at least. -/

namespace TagTooltips

def Store.typesFor (tag : String) (s : Store) : List String := (s.forTag tag).map (·.typeName)

namespace Candidate

variable {s : Store} {c : Candidate}

theorem value_ofTag (ds : List Descriptor) (tag : String) : (ofTag ds tag).value =
    ⟨tag, .element, ", ".intercalate ((ds.map (·.typeName)).map fun type => (shortName type).value),
      .elements ((ds.map (·.typeName)).map .named)⟩ := by
  rw [ofTag, Noted.value_bind, Noted.value_mapM, Noted.value_pure, List.map_map, List.map_map]
  rfl

theorem mem_elements_iff : c ∈ (elements s).value ↔
    ∃ tag ∈ s.tags, s.forTag tag ≠ [] ∧ (ofTag (s.forTag tag) tag).value = c := by
  simp only [elements, Noted.value_mapM, List.mem_map, List.mem_filter, Bool.not_eq_true',
    List.isEmpty_eq_false_iff, and_assoc]

theorem eq_of_mem_elements (h : c ∈ (elements s).value) : s.typesFor c.label ≠ [] ∧ c =
    ⟨c.label, .element, ", ".intercalate ((s.typesFor c.label).map fun type => (shortName type).value),
      .elements ((s.typesFor c.label).map .named)⟩ := by
  obtain ⟨tag, -, hne, rfl⟩ := mem_elements_iff.mp h
  rw [value_ofTag]
  exact ⟨fun hnil => hne (List.map_eq_nil_iff.mp hnil), rfl⟩

theorem of_mem_elements (h : c ∈ (elements s).value) :
    c.kind = .element ∧ ∃ types, types ≠ [] ∧ c.payload = .elements (types.map .named) := by
  obtain ⟨hne, hc⟩ := eq_of_mem_elements h
  rw [hc]
  exact ⟨rfl, s.typesFor c.label, hne, rfl⟩

theorem exists_label_iff {tag : String} :
    (∃ c ∈ (elements s).value, Text.sameIgnoringCase c.label tag) ↔ s.forTag tag ≠ [] := by
  constructor
  · rintro ⟨c, hc, hlabel⟩
    obtain ⟨name, -, hne, rfl⟩ := mem_elements_iff.mp hc
    have hsame : Text.sameIgnoringCase name tag := hlabel
    rwa [← Store.forTag_congr hsame]
  · intro hne
    obtain ⟨d, hd⟩ := List.exists_mem_of_ne_nil _ hne
    obtain ⟨hcurrent, happlies⟩ := Store.mem_forTag_iff.mp hd
    obtain ⟨name, hname, hsame⟩ := List.any_eq_true.mp happlies
    have htag : name ∈ s.tags := by
      rw [Store.tags, List.mem_mergeSort, List.mem_eraseDups]
      exact List.mem_flatMap.mpr ⟨d, hcurrent, hname⟩
    exact ⟨_, mem_elements_iff.mpr ⟨name, htag, by rwa [Store.forTag_congr hsame], rfl⟩, hsame⟩

theorem value_ofAttribute_cons (name : String) (e : AttributeEntry) (es : List AttributeEntry) :
    (ofAttribute name (e :: es)).value = ⟨name, .attribute, e.returnType.value, .attributes (e :: es)⟩ := rfl

theorem eq_of_mem_attributes {tag : String} (h : c ∈ (attributes tag s).value) : ∃ first rest,
    first :: rest = ((boundOn tag s).filter (·.name == c.label)).map .ofBound ∧
    c = ⟨c.label, .attribute, first.returnType.value, .attributes (first :: rest)⟩ := by
  rw [attributes, Noted.value_mapM] at h
  obtain ⟨name, hname, rfl⟩ := List.mem_map.mp h
  rw [List.mem_mergeSort, List.mem_eraseDups] at hname
  obtain ⟨a, ha, rfl⟩ := List.mem_map.mp hname
  have hmem : a ∈ (boundOn tag s).filter (·.name == a.name) :=
    List.mem_filter.mpr ⟨ha, beq_self_eq_true _⟩
  obtain ⟨first, rest, hentries⟩ :=
    List.exists_cons_of_ne_nil (List.ne_nil_of_mem (List.mem_map_of_mem (f := AttributeEntry.ofBound) hmem))
  rw [hentries, value_ofAttribute_cons]
  exact ⟨first, rest, hentries.symm, rfl⟩

theorem of_mem_attributes {tag : String} (h : c ∈ (attributes tag s).value) :
    c.kind = .attribute ∧ ∃ entries, entries ≠ [] ∧ c.payload = .attributes entries := by
  obtain ⟨first, rest, -, hc⟩ := eq_of_mem_attributes h
  rw [hc]
  exact ⟨rfl, first :: rest, List.cons_ne_nil _ _, rfl⟩

theorem exists_bound_of_mem_attributes {tag : String} {entries : List AttributeEntry}
    (h : c ∈ (attributes tag s).value) (hpayload : c.payload = .attributes entries) :
    ∀ e ∈ entries, ∃ d ∈ s.forTag tag, ∃ a ∈ d.boundAttributes, e = .ofBound a := by
  obtain ⟨first, rest, hentries, hc⟩ := eq_of_mem_attributes h
  obtain rfl : entries = first :: rest :=
    Payload.attributes.inj (hpayload.symm.trans (congrArg Candidate.payload hc))
  intro e he
  rw [hentries] at he
  obtain ⟨a, ha, rfl⟩ := List.mem_map.mp he
  obtain ⟨d, hd, hbound⟩ := List.mem_flatMap.mp (List.mem_filter.mp ha).1
  exact ⟨d, hd, a, hbound, rfl⟩

end Candidate

end TagTooltips
