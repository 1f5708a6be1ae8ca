import TagTooltips.Proofs.Store.Filing

/-! What an update makes of the copies of one type: the copy of its project goes, and the last descriptor
of that name in a batch is put behind those of the other projects. -/

namespace TagTooltips

section

variable {type project : String} {d d' : Descriptor} {batch : List Descriptor} {cs : List Copy}

/-- The descriptor of a type in a batch; of several the last one counts. -/
def lastNamed (type : String) (batch : List Descriptor) : Option Descriptor :=
  (batch.filter (·.typeName == type)).getLast?

theorem lastNamed_cons_self : lastNamed d.typeName (d :: batch) = (lastNamed d.typeName batch).or (some d) := by
  rw [lastNamed, List.filter_cons_of_pos (by simp), List.getLast?_cons, lastNamed]
  cases (batch.filter (·.typeName == d.typeName)).getLast? <;> rfl

theorem lastNamed_cons_of_ne (h : d.typeName ≠ type) : lastNamed type (d :: batch) = lastNamed type batch := by
  rw [lastNamed, List.filter_cons_of_neg (by simpa using h), lastNamed]

theorem lastNamed_eq_none_iff : lastNamed type batch = none ↔ type ∉ batch.map (·.typeName) := by
  simp [lastNamed]

theorem of_lastNamed (h : lastNamed type batch = some d) : d ∈ batch ∧ d.typeName = type := by
  have hmem := List.mem_filter.mp (List.mem_of_getLast? h)
  exact ⟨hmem.1, by simpa using hmem.2⟩

namespace Copy

theorem withdraw_withdraw : withdraw project (withdraw project cs) = withdraw project cs := by
  simp [withdraw]

theorem withdraw_set : withdraw project (set project d cs) = withdraw project cs := by
  simp [withdraw, set]

theorem set_set : set project d' (set project d cs) = set project d' cs :=
  congrArg (· ++ [Copy.mk project d']) withdraw_set

end Copy

namespace Store

variable {s : Store}

theorem WellFormed.copies_step_write (h : WellFormed s) (d : Descriptor) (type : String) :
    (Store.step project s (.write d)).copies type =
      if type = d.typeName then Copy.set project d (s.copies type) else s.copies type :=
  h.copies_step (.write d) type

theorem WellFormed.copies_step_retire (h : WellFormed s) (retired type : String) :
    (Store.step project s (.retire retired)).copies type =
      if type = retired then Copy.withdraw project (s.copies type) else s.copies type :=
  h.copies_step (.retire retired) type

theorem WellFormed.copies_writes (h : WellFormed s) (batch : List Descriptor) (type : String) :
    ((writes batch).foldl (Store.step project) s).copies type =
      (lastNamed type batch).elim (s.copies type) fun d => Copy.set project d (s.copies type) := by
  induction batch generalizing s with
  | nil => rfl
  | cons d batch ih =>
    rw [writes, List.map_cons, List.foldl_cons, ← writes, ih (h.step _), h.copies_step_write]
    by_cases hd : d.typeName = type
    · subst hd
      rw [if_pos rfl, lastNamed_cons_self]
      cases lastNamed d.typeName batch with
      | none => rfl
      | some d' => exact Copy.set_set
    · rw [lastNamed_cons_of_ne hd, if_neg (Ne.symm hd)]

theorem WellFormed.copies_retire (h : WellFormed s) (types : List String) (type : String) :
    ((types.map Step.retire).foldl (Store.step project) s).copies type =
      if type ∈ types then Copy.withdraw project (s.copies type) else s.copies type := by
  induction types generalizing s with
  | nil => rfl
  | cons t types ih =>
    rw [List.map_cons, List.foldl_cons, ih (h.step _), h.copies_step_retire]
    by_cases ht : type = t
    · subst ht
      rw [if_pos rfl, if_pos List.mem_cons_self]
      split
      · exact Copy.withdraw_withdraw
      · rfl
    · rw [if_neg ht]
      simp [ht]

theorem WellFormed.copies_cleanup (h : WellFormed s) (batch : List Descriptor) {types : List String}
    (htypes : ∀ t ∈ s.types, t ∈ types) (type : String) :
    ((cleanup batch types).foldl (Store.step project) s).copies type =
      if type ∈ batch.map (·.typeName) then s.copies type
      else Copy.withdraw project (s.copies type) := by
  have hmem : type ∈ types.filter (fun t => !(batch.map (·.typeName)).contains t) ↔
      type ∈ types ∧ type ∉ batch.map (·.typeName) := by
    simp only [List.mem_filter, Bool.not_eq_true', List.contains_eq_mem, decide_eq_false_iff_not]
  rw [cleanup, h.copies_retire]
  by_cases hvisited : type ∈ types
  · by_cases hbatch : type ∈ batch.map (·.typeName)
    · rw [if_pos hbatch, if_neg fun hboth => (hmem.mp hboth).2 hbatch]
    · rw [if_neg hbatch, if_pos (hmem.mpr ⟨hvisited, hbatch⟩)]
  · -- A type that is not in the store has no copies, with or without the clean-up.
    have hnone : Copy.withdraw project (s.copies type) = s.copies type := by
      rw [copies_eq_nil_of_notMem (mt (htypes type) hvisited)]
      rfl
    rw [hnone, ite_self, ite_self]

theorem WellFormed.copies_refresh (h : WellFormed s) (batch : List Descriptor)
    {order : List String → List String} (horder : ∀ types, ∀ t ∈ types, t ∈ order types) (type : String) :
    ((s.refresh project batch order).foldl (Store.step project) s).copies type =
      Copy.withdraw project (s.copies type) ++ ((lastNamed type batch).map (Copy.mk project)).toList := by
  rw [refresh, List.foldl_append, WellFormed.copies_cleanup (h.steps _) _ (horder _), h.copies_writes]
  cases hlast : lastNamed type batch with
  | none =>
    rw [if_neg (lastNamed_eq_none_iff.mp hlast)]
    simp
  | some d =>
    have hmem : type ∈ batch.map (·.typeName) := by
      by_contra hnot
      rw [lastNamed_eq_none_iff.mpr hnot] at hlast
      cases hlast
    rw [if_pos hmem]
    rfl

theorem WellFormed.copies_provide (h : WellFormed s) (batch : List Descriptor) (type : String) :
    (s.provide project batch).copies type =
      Copy.withdraw project (s.copies type) ++ ((lastNamed type batch).map (Copy.mk project)).toList :=
  h.copies_refresh batch (fun _ _ => id) type

theorem WellFormed.copies_withdraw (h : WellFormed s) (type : String) :
    (s.withdraw project).copies type = Copy.withdraw project (s.copies type) := by
  rw [Store.withdraw, h.copies_cleanup _ fun _ => id, if_neg (by simp)]

end Store

end

namespace Update

def project : Update → String
  | provide project _ => project
  | withdraw project => project

def offer? (type : String) : Update → Option Copy
  | provide project batch => (lastNamed type batch).map (Copy.mk project)
  | withdraw _ => none

end Update

theorem Store.WellFormed.copies_apply {s : Store} (h : s.WellFormed) (u : Update) (type : String) :
    (u.apply s).copies type =
      Copy.withdraw u.project (s.copies type) ++ (u.offer? type).toList := by
  cases u with
  | provide project batch => exact h.copies_provide batch type
  | withdraw project =>
    rw [Update.apply, h.copies_withdraw]
    exact (List.append_nil _).symm

end TagTooltips
