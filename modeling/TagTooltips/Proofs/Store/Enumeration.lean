import TagTooltips.Proofs.Ascending
import TagTooltips.Proofs.Store.Operation
import TagTooltips.Proofs.Store.Query

/-! The entries of a store come in no particular order, and the queries do not show it: no type has two current
descriptors, so there is but one way to put those that a query finds in the order of their names. -/

namespace TagTooltips.Store

variable {s : Store} {es : List (String × List Copy)} {tag name : String}

theorem WellFormed.map_typeName_current (h : s.WellFormed) : s.current.map (·.typeName) = s.types := by
  have hname : ∀ entry ∈ s.entries,
      (entry.2.getLast?.map (·.descriptor)).map (·.typeName) = some entry.1 := by
    intro entry hentry
    obtain ⟨hne, -, hnames⟩ := h.filed entry hentry
    rw [List.getLast?_eq_some_getLast hne, Option.map_some, Option.map_some,
      hnames _ (List.getLast_mem hne)]
  rw [current, List.map_filterMap, List.filterMap_congr hname]
  exact congrFun List.filterMap_eq_map s.entries

theorem WellFormed.nodup_current (h : s.WellFormed) : (s.current.map (·.typeName)).Nodup := by
  rw [h.map_typeName_current]
  exact h.types_nodup

theorem current_perm (hes : es.Perm s.entries) : (current ⟨es⟩).Perm s.current := hes.filterMap _

theorem WellFormed.nodup_matching (h : s.WellFormed) (tag : String) :
    ((s.current.filter (appliesTo tag)).map (·.typeName)).Nodup :=
  h.nodup_current.sublist (List.filter_sublist.map _)

theorem WellFormed.forTag_perm (h : s.WellFormed) (hes : es.Perm s.entries) :
    forTag tag ⟨es⟩ = s.forTag tag :=
  mergeSort_eq_of_perm ((current_perm hes).filter _) (h.nodup_matching tag)

theorem WellFormed.pairwise_forTag (h : s.WellFormed) (tag : String) :
    (s.forTag tag).Pairwise (·.typeName < ·.typeName) := pairwise_mergeSort_lt (h.nodup_matching tag)

theorem appliesTo_iff {d : Descriptor} :
    appliesTo tag d ↔ ∃ name ∈ d.tagNames, Text.sameIgnoringCase name tag := List.any_eq_true

theorem WellFormed.mem_forTag_iff_lookup (h : s.WellFormed) {d : Descriptor} : d ∈ s.forTag tag ↔
    s.lookup d.typeName = some d ∧ ∃ name ∈ d.tagNames, Text.sameIgnoringCase name tag := by
  rw [mem_forTag_iff, h.mem_current_iff, appliesTo_iff]

theorem tags_eq : s.tags = ascending (s.current.flatMap (·.tagNames)) := rfl

theorem pairwise_tags : s.tags.Pairwise (· < ·) := pairwise_ascending

theorem WellFormed.mem_tags_iff (h : s.WellFormed) : name ∈ s.tags ↔
    ∃ d, s.lookup d.typeName = some d ∧ name ∈ d.tagNames := by
  rw [tags_eq, mem_ascending, List.mem_flatMap]
  exact exists_congr fun d => and_congr_left fun _ => h.mem_current_iff

theorem tags_perm (hes : es.Perm s.entries) : tags ⟨es⟩ = s.tags :=
  ascending_congr fun _ => ((current_perm hes).flatMap_right _).mem_iff

theorem destutter_mergeSort_tagNames :
    ((s.current.flatMap (·.tagNames)).mergeSort fun a b => a ≤ b).destutter (· ≠ ·) = s.tags :=
  destutter_mergeSort

/-- In whatever order the entries of a store come, a query by tag gives the same descriptors in strict order of
their type names: those that are found under their type and apply to the tag, up to case. The tags are the
same as well, in strict order, and are those of the descriptors that are found. -/
theorem queries_of_enumeration {s : Store} (h : s.Reachable) {es : List (String × List Copy)}
    (hes : es.Perm s.entries) :
    (∀ tag, forTag tag ⟨es⟩ = s.forTag tag ∧
      (s.forTag tag).Pairwise (·.typeName < ·.typeName) ∧
      (∀ d, d ∈ s.forTag tag ↔
        s.lookup d.typeName = some d ∧ ∃ name ∈ d.tagNames, Text.sameIgnoringCase name tag) ∧
      ∀ other, Text.sameIgnoringCase tag other → s.forTag tag = s.forTag other) ∧
    tags ⟨es⟩ = s.tags ∧
    (((current ⟨es⟩).flatMap (·.tagNames)).mergeSort fun a b => a ≤ b).destutter (· ≠ ·) = s.tags ∧
    s.tags.Pairwise (· < ·) ∧
    ∀ name, name ∈ s.tags ↔ ∃ d, s.lookup d.typeName = some d ∧ name ∈ d.tagNames := by
  have hs : s.WellFormed := h.wellFormed
  refine ⟨fun tag => ⟨hs.forTag_perm hes, hs.pairwise_forTag tag, fun d => hs.mem_forTag_iff_lookup,
    fun other => forTag_congr⟩, tags_perm hes, ?_, pairwise_tags, fun name => hs.mem_tags_iff⟩
  rw [destutter_mergeSort_tagNames, tags_perm hes]

theorem queries_of_enumeration_shadowed :
    let older : Descriptor := ⟨"Ns.A", none, ["old", "input"], []⟩
    let newer : Descriptor := ⟨"Ns.A", none, ["Input"], []⟩
    let other : Descriptor := ⟨"Ns.B", none, ["form"], []⟩
    let s := [Operation.upsert "p" [other, older], .upsert "q" [newer]].foldl Operation.run Store.empty
    (s.Reachable ∧ s.entries.reverse.Perm s.entries ∧ Text.sameIgnoringCase "INPUT" "input") ∧
    (forTag "INPUT" ⟨s.entries.reverse⟩ = s.forTag "INPUT" ∧ s.forTag "INPUT" = s.forTag "input" ∧
      newer ∈ s.forTag "INPUT" ∧ older ∉ s.forTag "old") ∧
    tags ⟨s.entries.reverse⟩ = s.tags ∧ "Input" ∈ s.tags := by
  intro older newer other s
  have hs : s.Reachable := Reachable.empty.foldl_run _
  have hes : s.entries.reverse.Perm s.entries := List.reverse_perm _
  have hsame : Text.sameIgnoringCase "INPUT" "input" := by decide
  have hnewer : s.lookup newer.typeName = some newer := by decide
  obtain ⟨hqueries, htags, -, -, hmem⟩ := queries_of_enumeration hs hes
  obtain ⟨hperm, -, hfound, hcase⟩ := hqueries "INPUT"
  have holder : older ∉ s.forTag "old" := by
    rw [(hqueries "old").2.2.1]
    decide
  exact ⟨⟨hs, hes, hsame⟩, ⟨hperm, hcase _ hsame, (hfound newer).mpr ⟨hnewer, by decide⟩, holder⟩,
    htags, (hmem "Input").mpr ⟨newer, hnewer, by decide⟩⟩

end TagTooltips.Store
