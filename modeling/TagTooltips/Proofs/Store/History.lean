import TagTooltips.Proofs.Store.Contribution
import TagTooltips.Proofs.Store.Operation

/-! A store answers for its history. After any calls, the copies of a type are those in the batches that
still stand, the oldest first, and the current descriptor is the one in the latest of them. -/

namespace TagTooltips

namespace Update

variable {type project : String} {us newer : List Update} {u : Update} {batch : List Descriptor}

/-- The copies of a type that still stand after a history, the oldest first: of each project that of its
last update. -/
def standing (type : String) : List Update → List Copy
  | [] => []
  | u :: us =>
    ((u.offer? type).filter fun c => us.all (·.project != c.project)).toList ++ standing type us

/-- The project sent the batch, and of the updates after that, `newer`, none comes from it. -/
def Stands (us newer : List Update) (project : String) (batch : List Descriptor) : Prop :=
  (∃ older, us = older ++ provide project batch :: newer) ∧ ∀ u ∈ newer, u.project ≠ project

/-- A project provides a type by a batch of its own that still stands. -/
def Provides (type : String) (us newer : List Update) (project : String) (batch : List Descriptor) :
    Prop :=
  Stands us newer project batch ∧ ∃ d ∈ batch, d.typeName = type

theorem stands_cons_iff : Stands (u :: us) newer project batch ↔
    (u = provide project batch ∧ newer = us ∧ ∀ v ∈ us, v.project ≠ project) ∨
      Stands us newer project batch := by
  constructor
  · rintro ⟨⟨older, hsplit⟩, hnewer⟩
    cases older with
    | nil =>
      obtain ⟨rfl, rfl⟩ := List.cons.inj hsplit
      exact .inl ⟨rfl, rfl, hnewer⟩
    | cons v older => exact .inr ⟨⟨older, (List.cons.inj hsplit).2⟩, hnewer⟩
  · rintro (⟨rfl, rfl, hnewer⟩ | ⟨⟨older, rfl⟩, hnewer⟩)
    · exact ⟨⟨[], rfl⟩, hnewer⟩
    · exact ⟨⟨u :: older, rfl⟩, hnewer⟩

theorem Stands.length_lt (h : Stands us newer project batch) : newer.length < us.length := by
  obtain ⟨⟨older, rfl⟩, -⟩ := h
  simp only [List.length_append, List.length_cons]
  omega

theorem Stands.append_left (older : List Update) (h : Stands us newer project batch) :
    Stands (older ++ us) newer project batch := by
  obtain ⟨⟨before, rfl⟩, hnewer⟩ := h
  exact ⟨⟨older ++ before, by rw [List.append_assoc]⟩, hnewer⟩

theorem Stands.of_append {older : List Update} (h : Stands (older ++ us) newer project batch)
    (hlen : newer.length < us.length) : Stands us newer project batch := by
  obtain ⟨⟨before, hsplit⟩, hnewer⟩ := h
  rcases List.append_eq_append_iff.mp hsplit with ⟨between, -, rfl⟩ | ⟨between, -, hrest⟩
  · exact ⟨⟨between, rfl⟩, hnewer⟩
  · have hcount := congrArg List.length hrest
    simp only [List.length_cons, List.length_append] at hcount
    obtain rfl : between = [] := List.length_eq_zero_iff.mp (by omega)
    exact ⟨⟨[], hrest.symm⟩, hnewer⟩

end Update

open Update

theorem Store.WellFormed.copies_foldl_apply {s : Store} (h : s.WellFormed) (us : List Update)
    (type : String) : (us.foldl Update.apply s).copies type =
      (s.copies type).filter (fun c => us.all (·.project != c.project)) ++ standing type us := by
  induction us generalizing s with
  | nil => simp [standing]
  | cons u us ih =>
    have hboth : (s.copies type).filter
        (fun c => us.all (·.project != c.project) && c.project != u.project) =
        (s.copies type).filter fun c => (u :: us).all (·.project != c.project) := by
      refine List.filter_congr fun c _ => ?_
      rw [List.all_cons, Bool.and_comm, bne_comm]
    rw [List.foldl_cons, ih (h.apply u), h.copies_apply, List.filter_append, Copy.withdraw,
      List.filter_filter, hboth, ← Option.toList_filter, List.append_assoc, standing]

theorem Store.copies_history (us : List Update) (type : String) :
    (us.foldl Update.apply Store.empty).copies type = standing type us := by
  rw [wellFormed_empty.copies_foldl_apply]
  rfl

namespace Update

variable {type project : String} {us newer : List Update} {u : Update} {batch : List Descriptor}
  {c : Copy}

theorem offer?_eq_some_iff : u.offer? type = some c ↔
    ∃ batch, u = provide c.project batch ∧ lastNamed type batch = some c.descriptor := by
  obtain ⟨p, d⟩ := c
  cases u with
  | withdraw project => simp [offer?]
  | provide project batch => simp [offer?, and_comm, eq_comm]

theorem stands_offer?_iff :
    (u.offer? type).filter (fun c => us.all (·.project != c.project)) = some c ↔
      ∃ batch, u = provide c.project batch ∧ (∀ v ∈ us, v.project ≠ c.project) ∧
        lastNamed type batch = some c.descriptor := by
  rw [Option.filter_eq_some_iff, offer?_eq_some_iff, List.all_eq_true]
  constructor
  · rintro ⟨⟨batch, hu, hlast⟩, hfresh⟩
    exact ⟨batch, hu, by simpa using hfresh, hlast⟩
  · rintro ⟨batch, hu, hfresh, hlast⟩
    exact ⟨⟨batch, hu, hlast⟩, by simpa using hfresh⟩

theorem mem_standing_iff : c ∈ standing type us ↔
    ∃ newer batch, Stands us newer c.project batch ∧ lastNamed type batch = some c.descriptor := by
  induction us with
  | nil => simp [standing, Stands]
  | cons u us ih =>
    simp only [standing, List.mem_append, Option.mem_toList, stands_offer?_iff, ih,
      stands_cons_iff]
    constructor
    · rintro (⟨batch, hu, hfresh, hlast⟩ | ⟨newer, batch, hstands, hlast⟩)
      · exact ⟨us, batch, .inl ⟨hu, rfl, hfresh⟩, hlast⟩
      · exact ⟨newer, batch, .inr hstands, hlast⟩
    · rintro ⟨newer, batch, ⟨hu, rfl, hfresh⟩ | hstands, hlast⟩
      · exact .inl ⟨batch, hu, hfresh, hlast⟩
      · exact .inr ⟨newer, batch, hstands, hlast⟩

theorem standing_eq_nil_iff : standing type us = [] ↔
    ∀ newer project batch, ¬ Provides type us newer project batch := by
  rw [List.eq_nil_iff_forall_not_mem]
  constructor
  · rintro h newer project batch ⟨hstands, d, hd, rfl⟩
    cases hlast : lastNamed d.typeName batch with
    | none => exact lastNamed_eq_none_iff.mp hlast (List.mem_map_of_mem hd)
    | some d' => exact h ⟨project, d'⟩ (mem_standing_iff.mpr ⟨newer, batch, hstands, hlast⟩)
  · rintro h c hc
    obtain ⟨newer, batch, hstands, hlast⟩ := mem_standing_iff.mp hc
    exact h newer c.project batch ⟨hstands, c.descriptor, of_lastNamed hlast⟩

theorem getLast?_standing_iff : (standing type us).getLast? = some c ↔
    ∃ newer batch, Stands us newer c.project batch ∧ lastNamed type batch = some c.descriptor ∧
      standing type newer = [] := by
  induction us with
  | nil => simp [standing, Stands]
  | cons u us ih =>
    have hsingle (o : Option Copy) : o.toList.getLast? = o := by cases o <;> rfl
    -- The last copy is that of the rest, or that of `u` if nothing stands behind it.
    rw [standing, List.getLast?_append, hsingle, Option.or_eq_some_iff, ih, List.getLast?_eq_none_iff,
      stands_offer?_iff]
    simp only [stands_cons_iff]
    constructor
    · rintro (⟨newer, batch, hstands, hrest⟩ | ⟨hnil, batch, hu, hfresh, hlast⟩)
      · exact ⟨newer, batch, .inr hstands, hrest⟩
      · exact ⟨us, batch, .inl ⟨hu, rfl, hfresh⟩, hlast, hnil⟩
    · rintro ⟨newer, batch, ⟨hu, rfl, hfresh⟩ | hstands, hrest⟩
      · exact .inr ⟨hrest.2, batch, hu, hfresh, hrest.1⟩
      · exact .inl ⟨newer, batch, hstands, hrest⟩

theorem Stands.standing_eq_nil_iff (h : Stands us newer project batch) : standing type newer = [] ↔
    ∀ newer' project' batch', Provides type us newer' project' batch' → newer.length ≤ newer'.length := by
  obtain ⟨⟨older, rfl⟩, -⟩ := h
  rw [Update.standing_eq_nil_iff]
  constructor
  · intro hnone newer' project' batch' hprovides
    by_contra hlen
    rw [List.append_cons] at hprovides
    exact hnone _ _ _ ⟨hprovides.1.of_append (Nat.lt_of_not_le hlen), hprovides.2⟩
  · intro hall newer' project' batch' hprovides
    have hstands := hprovides.1.append_left (older ++ [.provide project batch])
    rw [← List.append_cons] at hstands
    exact Nat.not_lt.mpr (hall _ _ _ ⟨hstands, hprovides.2⟩) hprovides.1.length_lt

end Update

/-- A type can be looked up if some project provides it, and the descriptor is then the last of its name
in the batch of the provider that was updated last. -/
theorem lookup_foldl_run (ops : List Operation) (type : String) :
    let us := Operation.history ops
    let s := ops.foldl Operation.run Store.empty
    (s.lookup type = none ↔ ∀ newer project batch, ¬ Provides type us newer project batch) ∧
    ∀ d, s.lookup type = some d ↔ ∃ newer project batch, Provides type us newer project batch ∧
      (∀ newer' project' batch', Provides type us newer' project' batch' →
        newer.length ≤ newer'.length) ∧
      (batch.filter (·.typeName == type)).getLast? = some d := by
  intro us s
  have hcopies : s.copies type = standing type us := by
    rw [← Store.copies_history, ← Operation.foldl_run]
  refine ⟨?_, fun d => ?_⟩
  · rw [Store.lookup, hcopies, Option.map_eq_none_iff, List.getLast?_eq_none_iff, standing_eq_nil_iff]
  · rw [Store.lookup, hcopies, Option.map_eq_some_iff]
    constructor
    · rintro ⟨c, hc, rfl⟩
      obtain ⟨newer, batch, hstands, hlast, hnil⟩ := getLast?_standing_iff.mp hc
      exact ⟨newer, c.project, batch, ⟨hstands, c.descriptor, of_lastNamed hlast⟩,
        hstands.standing_eq_nil_iff.mp hnil, hlast⟩
    · rintro ⟨newer, project, batch, hprovides, hlatest, hlast⟩
      exact ⟨⟨project, d⟩, getLast?_standing_iff.mpr ⟨newer, batch, hprovides.1, hlast,
        hprovides.1.standing_eq_nil_iff.mpr hlatest⟩, rfl⟩

/-- An older copy is back when the project with the newer one goes. -/
example : ([Operation.upsert "p" [⟨"T", some "first", [], []⟩, ⟨"T", some "last", [], []⟩],
    .upsert "q" [⟨"T", none, [], []⟩], .remove "q"].foldl Operation.run Store.empty).lookup "T" =
    some ⟨"T", some "last", [], []⟩ := by decide

end TagTooltips
