import Mathlib.Data.List.Nodup
import TagTooltips.Proofs.Lookup
import TagTooltips.Store.Basic

/-! What is filed under each type. A step changes the copies of one type and leaves all others alone;
no type is filed twice or without copies, no project has two copies of a type, and a copy filed under a
type has its name. -/

namespace TagTooltips.Store

structure Filed (type : String) (cs : List Copy) : Prop where
  ne_nil : cs ≠ []
  projects_nodup : (cs.map (·.project)).Nodup
  typeName_eq : ∀ c ∈ cs, c.descriptor.typeName = type

structure WellFormed (s : Store) : Prop where
  types_nodup : s.types.Nodup
  filed : ∀ entry ∈ s.entries, Filed entry.1 entry.2

namespace Step

def type : Step → String
  | write d => d.typeName
  | retire type => type

def change (project : String) : Step → List Copy → List Copy
  | write d => Copy.set project d
  | retire _ => Copy.withdraw project

end Step

theorem step_eq (project : String) (s : Store) (st : Step) :
    step project s st = ⟨modify st.type (st.change project) s.entries⟩ := by
  cases st <;> rfl

section Modify

variable {type other : String} {f : List Copy → List Copy} {es : List (String × List Copy)}

theorem lookup_modify_of_ne (h : other ≠ type) :
    (modify type f es).lookup other = es.lookup other := by
  induction es with
  | nil =>
    rw [modify]
    split
    · rfl
    · rw [lookup_cons_eq_ite, if_neg h]
  | cons entry es ih =>
    obtain ⟨t, cs⟩ := entry
    rw [modify]
    by_cases ht : t = type
    · subst ht
      rw [if_pos rfl, lookup_cons_eq_ite, if_neg h]
      split
      · rfl
      · rw [lookup_cons_eq_ite, if_neg h]
    · rw [if_neg ht, lookup_cons_eq_ite, lookup_cons_eq_ite, ih]

theorem lookup_modify_self (h : (es.map (·.1)).Nodup) :
    ((modify type f es).lookup type).getD [] = f ((es.lookup type).getD []) := by
  induction es with
  | nil =>
    rw [modify]
    split <;> simp_all
  | cons entry es ih =>
    obtain ⟨t, cs⟩ := entry
    obtain ⟨hnew, hes⟩ := List.nodup_cons.mp h
    rw [modify]
    by_cases ht : t = type
    · subst ht
      rw [if_pos rfl, List.lookup_cons_self, Option.getD_some]
      split
      · rename_i hempty
        rw [lookup_eq_none_of_notMem hnew, List.isEmpty_iff.mp hempty, Option.getD_none]
      · rw [List.lookup_cons_self, Option.getD_some]
    · rw [if_neg ht, lookup_cons_eq_ite, lookup_cons_eq_ite, if_neg (Ne.symm ht), if_neg (Ne.symm ht),
        ih hes]

theorem mem_modify {entry : String × List Copy} (h : entry ∈ modify type f es) :
    entry ∈ es ∨ ∃ cs, (cs = [] ∨ (type, cs) ∈ es) ∧ f cs ≠ [] ∧ entry = (type, f cs) := by
  induction es with
  | nil =>
    rw [modify] at h
    split at h
    · cases h
    · rename_i hne
      exact .inr ⟨[], .inl rfl, by simpa using hne, List.mem_singleton.mp h⟩
  | cons first es ih =>
    rw [modify] at h
    split at h
    · rename_i ht
      split at h
      · exact .inl (List.mem_cons_of_mem _ h)
      · rename_i hne
        rcases List.mem_cons.mp h with h | h
        · refine .inr ⟨first.2, .inr ?_, by simpa using hne, ?_⟩
          · exact ht ▸ List.mem_cons_self
          · rw [h, ht]
        · exact .inl (List.mem_cons_of_mem _ h)
    · rcases List.mem_cons.mp h with rfl | h
      · exact .inl List.mem_cons_self
      · refine (ih h).imp (List.mem_cons_of_mem _) ?_
        rintro ⟨cs, hcs, hrest⟩
        exact ⟨cs, hcs.imp_right (List.mem_cons_of_mem _), hrest⟩

theorem mem_types_of_mem_modify (h : other ∈ (modify type f es).map (·.1)) :
    other ∈ es.map (·.1) ∨ other = type := by
  obtain ⟨entry, hentry, rfl⟩ := List.mem_map.mp h
  rcases mem_modify hentry with hold | ⟨_, _, _, rfl⟩
  · exact .inl (List.mem_map_of_mem hold)
  · exact .inr rfl

theorem nodup_map_modify (h : (es.map (·.1)).Nodup) : ((modify type f es).map (·.1)).Nodup := by
  induction es with
  | nil =>
    rw [modify]
    split <;> simp
  | cons entry es ih =>
    obtain ⟨hnew, hes⟩ := List.nodup_cons.mp h
    rw [modify]
    split
    · split
      · exact hes
      · exact h
    · rename_i hne
      refine List.nodup_cons.mpr ⟨fun hmem => ?_, ih hes⟩
      exact (mem_types_of_mem_modify hmem).elim hnew hne

end Modify

theorem wellFormed_empty : WellFormed empty := ⟨List.nodup_nil, by simp [empty]⟩

variable {project : String} {s : Store}

theorem WellFormed.copies_step (h : WellFormed s) (st : Step) (type : String) :
    (step project s st).copies type =
      if type = st.type then st.change project (s.copies type) else s.copies type := by
  rw [step_eq, copies, copies]
  split
  · rename_i htype
    rw [htype, lookup_modify_self h.types_nodup]
  · rename_i htype
    rw [lookup_modify_of_ne htype]

theorem nodup_projects_withdraw {cs : List Copy} (h : (cs.map (·.project)).Nodup) :
    ((Copy.withdraw project cs).map (·.project)).Nodup :=
  h.sublist (List.filter_sublist.map _)

theorem filed_change (st : Step) {cs : List Copy} (hne : st.change project cs ≠ [])
    (hcs : cs = [] ∨ Filed st.type cs) : Filed st.type (st.change project cs) := by
  have hprojects : (cs.map (·.project)).Nodup := hcs.elim (by simp +contextual) (·.projects_nodup)
  have hnames : ∀ c ∈ cs, c.descriptor.typeName = st.type :=
    hcs.elim (by simp +contextual) (·.typeName_eq)
  refine ⟨hne, ?_, ?_⟩
  · cases st with
    | write d =>
      rw [Step.change, Copy.set, List.map_append, List.map_singleton, List.nodup_append]
      refine ⟨nodup_projects_withdraw hprojects, List.nodup_singleton _, ?_⟩
      rintro a ha b hb rfl
      obtain ⟨c, hc, rfl⟩ := List.mem_map.mp ha
      have hother := (List.mem_filter.mp hc).2
      simp [List.mem_singleton.mp hb] at hother
    | retire type => exact nodup_projects_withdraw hprojects
  · intro c hc
    cases st with
    | write d =>
      rcases List.mem_append.mp hc with hc | hc
      · exact hnames c (List.mem_of_mem_filter hc)
      · rw [List.mem_singleton.mp hc]
        rfl
    | retire type => exact hnames c (List.mem_of_mem_filter hc)

theorem WellFormed.step (h : WellFormed s) (st : Step) : WellFormed (step project s st) := by
  rw [step_eq]
  refine ⟨nodup_map_modify h.types_nodup, fun entry hentry => ?_⟩
  rcases mem_modify hentry with hold | ⟨cs, hcs, hne, rfl⟩
  · exact h.filed entry hold
  · exact filed_change st hne (hcs.imp_right (h.filed _))

theorem WellFormed.steps (h : WellFormed s) (steps : List Step) :
    WellFormed (steps.foldl (Store.step project) s) := by
  induction steps generalizing s with
  | nil => exact h
  | cons st steps ih => exact ih (h.step st)

theorem WellFormed.provide (h : WellFormed s) (batch : List Descriptor) :
    WellFormed (s.provide project batch) := h.steps _

theorem WellFormed.withdraw (h : WellFormed s) : WellFormed (s.withdraw project) := h.steps _

theorem WellFormed.apply (h : WellFormed s) (u : Update) : WellFormed (u.apply s) := by
  cases u with
  | provide project batch => exact h.provide batch
  | withdraw project => exact h.withdraw

theorem copies_eq_nil_of_notMem {type : String} (h : type ∉ s.types) : s.copies type = [] := by
  rw [copies, lookup_eq_none_of_notMem h, Option.getD_none]

theorem WellFormed.typeName_of_mem_copies (h : WellFormed s) {type : String} {c : Copy}
    (hc : c ∈ s.copies type) : c.descriptor.typeName = type := by
  rw [copies] at hc
  cases hlookup : s.entries.lookup type with
  | none => simp [hlookup] at hc
  | some cs =>
    rw [hlookup, Option.getD_some] at hc
    exact (h.filed (type, cs) (mem_of_lookup hlookup)).typeName_eq c hc

theorem WellFormed.typeName_of_lookup (h : WellFormed s) {type : String} {d : Descriptor}
    (hd : s.lookup type = some d) : d.typeName = type := by
  obtain ⟨c, hc, rfl⟩ := Option.map_eq_some_iff.mp hd
  exact h.typeName_of_mem_copies (List.mem_of_getLast? hc)

end TagTooltips.Store
