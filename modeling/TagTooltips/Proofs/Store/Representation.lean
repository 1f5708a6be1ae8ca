import Mathlib.Data.Set.Card
import TagTooltips.Proofs.Store.Operation

/-! What the entries of a store say. Nothing is filed under a type without a copy, so a type is in the store
exactly if it can be looked up, and the entries count those types. -/

namespace TagTooltips.Store

variable {s : Store} {type : String} {cs : List Copy}

theorem WellFormed.copies_of_mem (h : s.WellFormed) (hentry : (type, cs) ∈ s.entries) :
    s.copies type = cs := by
  rw [copies, lookup_of_mem h.types_nodup hentry, Option.getD_some]

theorem WellFormed.lookup_entries (h : s.WellFormed) (type : String) :
    s.entries.lookup type = if s.copies type = [] then none else some (s.copies type) := by
  rw [copies]
  cases hlookup : s.entries.lookup type with
  | none => rfl
  | some cs =>
    have hne : cs ≠ [] := (h.filed (type, cs) (mem_of_lookup hlookup)).ne_nil
    rw [Option.getD_some, if_neg hne]

theorem WellFormed.mem_types_iff (h : s.WellFormed) : type ∈ s.types ↔ s.copies type ≠ [] := by
  constructor
  · intro htype
    obtain ⟨⟨_, cs⟩, hentry, rfl⟩ := List.mem_map.mp htype
    rw [h.copies_of_mem hentry]
    exact (h.filed _ hentry).ne_nil
  · intro hne
    by_contra htype
    exact hne (copies_eq_nil_of_notMem htype)

theorem lookup_eq_none_iff : s.lookup type = none ↔ s.copies type = [] := by
  rw [Store.lookup, Option.map_eq_none_iff, List.getLast?_eq_none_iff]

theorem WellFormed.isSome_lookup_iff (h : s.WellFormed) : (s.lookup type).isSome ↔ type ∈ s.types := by
  rw [Option.isSome_iff_ne_none, Ne, lookup_eq_none_iff, h.mem_types_iff]

theorem encard_of_nodup {names : List String} (h : names.Nodup) : {name | name ∈ names}.encard = names.length := by
  have hnames : {name | name ∈ names} = (names.toFinset : Set String) := by
    ext name
    rw [Set.mem_ofPred_eq, Finset.mem_coe, List.mem_toFinset]
  rw [hnames, Set.encard_coe_eq_coe_finsetCard, List.toFinset_card_of_nodup h]

theorem WellFormed.encard_visible (h : s.WellFormed) : {type | (s.lookup type).isSome}.encard = s.size := by
  have hvisible : {type | (s.lookup type).isSome} = {type | type ∈ s.types} := by
    ext type
    exact h.isSome_lookup_iff
  rw [hvisible, encard_of_nodup h.types_nodup, types, List.length_map, size]

theorem WellFormed.isEmpty_iff (h : s.WellFormed) : s.isEmpty ↔ ∀ type, s.lookup type = none := by
  constructor
  · intro hempty type
    have hentries : s.entries = [] := List.isEmpty_iff.mp hempty
    rw [lookup_eq_none_iff, copies, hentries]
    rfl
  · intro hnone
    refine List.isEmpty_iff.mpr (List.eq_nil_iff_forall_not_mem.mpr ?_)
    rintro ⟨type, cs⟩ hentry
    have htype : type ∈ s.types := List.mem_map_of_mem hentry
    exact h.mem_types_iff.mp htype (lookup_eq_none_iff.mp (hnone type))

/-- After any calls, no type is filed twice or without copies, no project has two copies of a type, and a
copy has the name of the type under which it is filed. So the size of the store is the number of types
that can be looked up, an empty store is one where none can, and a look-up gives a descriptor of its type. -/
theorem representation_foldl_run (ops : List Operation) :
    let s := ops.foldl Operation.run Store.empty
    (s.types.Nodup ∧ ∀ type cs, (type, cs) ∈ s.entries →
      cs ≠ [] ∧ (cs.map (·.project)).Nodup ∧ ∀ c ∈ cs, c.descriptor.typeName = type) ∧
    {type | (s.lookup type).isSome}.encard = s.size ∧
    (s.isEmpty ↔ ∀ type, s.lookup type = none) ∧
    ∀ type d, s.lookup type = some d → d.typeName = type := by
  intro s
  have h : s.WellFormed := (Reachable.empty.foldl_run ops).wellFormed
  refine ⟨⟨h.types_nodup, fun type cs hentry => ?_⟩, h.encard_visible, h.isEmpty_iff,
    fun type d => h.typeName_of_lookup⟩
  obtain ⟨hne, hprojects, hnames⟩ := h.filed (type, cs) hentry
  exact ⟨hne, hprojects, hnames⟩

end TagTooltips.Store
