import TagTooltips.Proofs.Store.Filing
import TagTooltips.Store.Query

/-! Queries by tag and look-ups by type agree: what a query finds is what a look-up of its type gives. -/

namespace TagTooltips.Store

variable {s : Store} {d : Descriptor} {tag other : String}

theorem WellFormed.mem_current_iff (h : WellFormed s) : d ∈ s.current ↔ s.lookup d.typeName = some d := by
  constructor
  · intro hd
    obtain ⟨⟨type, cs⟩, hentry, hlast⟩ := List.mem_filterMap.mp hd
    obtain ⟨c, hc, rfl⟩ := Option.map_eq_some_iff.mp hlast
    have htype : c.descriptor.typeName = type :=
      (h.filed (type, cs) hentry).typeName_eq c (List.mem_of_getLast? hc)
    rw [htype, Store.lookup, copies, lookup_of_mem h.types_nodup hentry]
    exact hlast
  · intro hd
    rw [Store.lookup, copies] at hd
    cases hentry : s.entries.lookup d.typeName with
    | none => simp [hentry] at hd
    | some cs =>
      rw [hentry] at hd
      exact List.mem_filterMap.mpr ⟨(d.typeName, cs), mem_of_lookup hentry, hd⟩

theorem mem_forTag_iff : d ∈ s.forTag tag ↔ d ∈ s.current ∧ appliesTo tag d := by
  rw [forTag, List.mem_mergeSort, List.mem_filter]

theorem WellFormed.lookup_of_mem_forTag (h : WellFormed s) (hd : d ∈ s.forTag tag) :
    s.lookup d.typeName = some d := h.mem_current_iff.mp (mem_forTag_iff.mp hd).1

theorem appliesTo_congr (h : Text.sameIgnoringCase tag other) : appliesTo tag d = appliesTo other d := by
  have hfold : Text.foldCase tag.toList = Text.foldCase other.toList := eq_of_beq h
  simp only [appliesTo, Text.sameIgnoringCase, hfold]

theorem forTag_congr (h : Text.sameIgnoringCase tag other) : s.forTag tag = s.forTag other := by
  rw [forTag, forTag, List.filter_congr fun d _ => appliesTo_congr h]

end TagTooltips.Store
