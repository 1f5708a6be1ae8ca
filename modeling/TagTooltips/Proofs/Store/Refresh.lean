import TagTooltips.Proofs.Store.Exchange

/-! A batch on its way into a store. The stores that it leads through are those after some of its steps: a type
that stays can be looked up in each of them, since nothing is cleared of it before it is written. -/

namespace TagTooltips.Store

variable {s : Store} {project type : String} {batch : List Descriptor}
  {order : List String → List String}

theorem take_refresh (project : String) (batch : List Descriptor) (order : List String → List String)
    (s : Store) (n : Nat) : ∃ retired : List String, (∀ t ∈ retired, t ∉ batch.map (·.typeName)) ∧
      (s.refresh project batch order).take n = writes (batch.take n) ++ retired.map .retire := by
  let types := order ((writes batch).foldl (step project) s).types
  let stale := types.filter fun t => !(batch.map (·.typeName)).contains t
  refine ⟨stale.take (n - (writes batch).length), fun t ht => ?_, ?_⟩
  · have hstale := (List.mem_filter.mp (List.mem_of_mem_take ht)).2
    simpa using hstale
  · rw [refresh, List.take_append, cleanup, ← List.map_take, writes, ← List.map_take]
    rfl

theorem WellFormed.copies_midway_of_mem (h : s.WellFormed) (hmem : type ∈ batch.map (·.typeName)) (n : Nat) :
    (((s.refresh project batch order).take n).foldl (Store.step project) s).copies type =
      (lastNamed type (batch.take n)).elim (s.copies type) fun d => Copy.set project d (s.copies type) := by
  obtain ⟨retired, hretired, htake⟩ := take_refresh project batch order s n
  rw [htake, List.foldl_append, WellFormed.copies_retire (h.steps _), if_neg fun hin => hretired _ hin hmem,
    h.copies_writes]

theorem WellFormed.copies_midway_of_notMem (h : s.WellFormed) (order : List String → List String)
    (hmem : type ∉ batch.map (·.typeName)) (n : Nat) :
    let midway := ((s.refresh project batch order).take n).foldl (Store.step project) s
    midway.copies type = s.copies type ∨ midway.copies type = Copy.withdraw project (s.copies type) := by
  intro midway
  obtain ⟨retired, -, htake⟩ := take_refresh project batch order s n
  have hnone : lastNamed type (batch.take n) = none := by
    rw [lastNamed_eq_none_iff, List.map_take]
    exact fun htaken => hmem (List.mem_of_mem_take htaken)
  have hmidway : midway.copies type =
      if type ∈ retired then Copy.withdraw project (s.copies type) else s.copies type := by
    simp only [midway, htake]
    rw [List.foldl_append, WellFormed.copies_retire (h.steps _), h.copies_writes, hnone, Option.elim_none]
  rw [hmidway]
  split
  · exact .inr rfl
  · exact .inl rfl

theorem lookup_of_copies_set {s' : Store} {d : Descriptor} {cs : List Copy}
    (h : s'.copies type = Copy.set project d cs) : s'.lookup type = some d := by
  rw [Store.lookup, h, Copy.set, List.getLast?_concat, Option.map_some]

theorem lookup_congr {s' : Store} (h : s'.copies type = s.copies type) : s'.lookup type = s.lookup type := by
  rw [Store.lookup, h, Store.lookup]

theorem WellFormed.lookup_midway_of_mem (h : s.WellFormed) (hmem : type ∈ batch.map (·.typeName)) (n : Nat) :
    let midway := ((s.refresh project batch order).take n).foldl (Store.step project) s
    midway.lookup type = s.lookup type ∨
      ∃ d ∈ batch, d.typeName = type ∧ midway.lookup type = some d := by
  intro midway
  have hcopies : midway.copies type = _ := h.copies_midway_of_mem hmem n
  cases hlast : lastNamed type (batch.take n) with
  | none =>
    rw [hlast, Option.elim_none] at hcopies
    exact .inl (lookup_congr hcopies)
  | some d =>
    rw [hlast, Option.elim_some] at hcopies
    obtain ⟨htaken, hname⟩ := of_lastNamed hlast
    exact .inr ⟨d, List.mem_of_mem_take htaken, hname, lookup_of_copies_set hcopies⟩

theorem WellFormed.isSome_lookup_midway_of_notMem (h : s.WellFormed)
    (hmem : type ∉ batch.map (·.typeName)) (hother : ∃ c ∈ s.copies type, c.project ≠ project) (n : Nat) :
    ((((s.refresh project batch order).take n).foldl (Store.step project) s).lookup type).isSome := by
  obtain ⟨c, hc, hproject⟩ := hother
  rw [Option.isSome_iff_ne_none, Ne, lookup_eq_none_iff]
  rcases h.copies_midway_of_notMem order hmem n with hcopies | hcopies
  · rw [hcopies]
    exact List.ne_nil_of_mem hc
  · have hstays : c ∈ Copy.withdraw project (s.copies type) :=
      List.mem_filter.mpr ⟨hc, bne_iff_ne.mpr hproject⟩
    rw [hcopies]
    exact List.ne_nil_of_mem hstays

theorem WellFormed.same_refresh (h : s.WellFormed) (horder : ∀ types, (order types).Perm types) :
    Same ((s.refresh project batch order).foldl (Store.step project) s) (s.provide project batch) := by
  refine ((h.steps _).same_iff (h.provide batch)).mpr fun type => ?_
  rw [h.copies_refresh batch fun types t ht => (horder types).mem_iff.mpr ht, h.copies_provide]

section

variable {first : List String}

theorem WellFormed.copies_cleanup_first (h : s.WellFormed) (hfirst : first.Perm s.types) (type : String) :
    ((cleanup [] first).foldl (Store.step project) s).copies type = Copy.withdraw project (s.copies type) := by
  rw [h.copies_cleanup [] fun t ht => hfirst.mem_iff.mpr ht, if_neg (by simp)]

theorem WellFormed.same_cleanup_first (h : s.WellFormed) (hfirst : first.Perm s.types) :
    Same ((cleanup [] first ++ writes batch).foldl (Store.step project) s) (s.provide project batch) := by
  refine ((h.steps _).same_iff (h.provide batch)).mpr fun type => ?_
  rw [List.foldl_append, WellFormed.copies_writes (h.steps _), h.copies_cleanup_first hfirst, h.copies_provide]
  cases lastNamed type batch with
  | none => exact (List.append_nil _).symm
  | some d => exact congrArg (· ++ [Copy.mk project d]) Copy.withdraw_withdraw

end

/-- To provide a batch is to take the steps of `refresh`. After any number of them, in whatever order they visit
the types, a type that was visible stays visible if the batch has it or another project provides it; for a
type of the batch the descriptor from before is found, or one of the batch. In the end the order of the
visits does not show. Nor would it show if all were cleared first and then written, but then every type that
only this project provides is gone in between. -/
theorem lookup_during_refresh {s : Store} (h : s.Reachable) (project : String) (batch : List Descriptor)
    {order : List String → List String} (horder : ∀ types, (order types).Perm types) (type : String) :
    let steps := s.refresh project batch order
    s.provide project batch = (s.refresh project batch id).foldl (step project) s ∧
    (∀ n, let midway := (steps.take n).foldl (step project) s
      ((s.lookup type).isSome →
        (type ∈ batch.map (·.typeName) ∨ ∃ c ∈ s.copies type, c.project ≠ project) →
        (midway.lookup type).isSome) ∧
      (type ∈ batch.map (·.typeName) → ∀ d, midway.lookup type = some d →
        s.lookup type = some d ∨ (d ∈ batch ∧ d.typeName = type))) ∧
    Same (steps.foldl (step project) s) (s.provide project batch) ∧
    ∀ first : List String, first.Perm s.types →
      let wrong := cleanup [] first ++ writes batch
      Same (wrong.foldl (step project) s) (s.provide project batch) ∧
      ((∀ c ∈ s.copies type, c.project = project) → ∃ n,
        ((wrong.take n).foldl (step project) s).lookup type = none) := by
  have hs : s.WellFormed := h.wellFormed
  refine ⟨rfl, fun n => ⟨?_, ?_⟩, hs.same_refresh horder, fun first hfirst =>
    ⟨hs.same_cleanup_first hfirst, ?_⟩⟩
  · intro hvisible hstays
    by_cases hmem : type ∈ batch.map (·.typeName)
    · rcases hs.lookup_midway_of_mem hmem n with hold | ⟨d, -, -, hnew⟩
      · rwa [hold]
      · rw [hnew]
        exact Option.isSome_some
    · exact hs.isSome_lookup_midway_of_notMem hmem (hstays.resolve_left hmem) n
  · intro hmem d hd
    rcases hs.lookup_midway_of_mem hmem n with hold | ⟨d', hd', hname, hnew⟩
    · exact .inl (hold ▸ hd)
    · obtain rfl : d' = d := Option.some.inj (hnew.symm.trans hd)
      exact .inr ⟨hd', hname⟩
  · intro halone
    refine ⟨(cleanup [] first).length, ?_⟩
    rw [List.take_left, lookup_eq_none_iff, hs.copies_cleanup_first hfirst]
    exact Copy.withdraw_eq_nil halone

/-- A batch with `Mine` twice: when the first of the two is written and when another project's `Shared` has
lost its copy, both are visible, while `Mine` is missed for a moment if it is cleared first. -/
theorem lookup_during_refresh_repeated :
    let shared : Descriptor := ⟨"Shared", none, [], []⟩
    let mine (text : String) : Descriptor := ⟨"Mine", some text, [], []⟩
    let s := [Operation.upsert "q" [shared], .upsert "p" [mine "old", shared]].foldl Operation.run Store.empty
    let batch := [mine "new", ⟨"New", none, [], []⟩, mine "newer"]
    let steps := s.refresh "p" batch List.reverse
    let midway (n : Nat) := (steps.take n).foldl (step "p") s
    (s.Reachable ∧ (∀ types : List String, types.reverse.Perm types) ∧ s.types.Perm s.types) ∧
    ((s.lookup "Mine").isSome ∧ "Mine" ∈ batch.map (·.typeName) ∧ ((midway 1).lookup "Mine").isSome ∧
      (midway 1).lookup "Mine" = some (mine "new") ∧ mine "new" ∈ batch) ∧
    ((s.lookup "Shared").isSome ∧ (∃ c ∈ s.copies "Shared", c.project ≠ "p") ∧
      ((midway 4).lookup "Shared").isSome ∧ steps.drop 3 = [.retire "Shared"]) ∧
    ((∀ c ∈ s.copies "Mine", c.project = "p") ∧ ∃ n,
      (((cleanup [] s.types ++ writes batch).take n).foldl (step "p") s).lookup "Mine" = none) := by
  intro shared mine s batch steps midway
  have hs : s.Reachable := Reachable.empty.foldl_run _
  have horder (types : List String) : types.reverse.Perm types := List.reverse_perm types
  have hmine := lookup_during_refresh hs "p" batch horder "Mine"
  have hshared := lookup_during_refresh hs "p" batch horder "Shared"
  have hvisible : (s.lookup "Mine").isSome := by decide
  have hbatch : "Mine" ∈ batch.map (·.typeName) := by decide
  have halone : ∀ c ∈ s.copies "Mine", c.project = "p" := by decide
  have hother : ∃ c ∈ s.copies "Shared", c.project ≠ "p" := by decide
  have hfound : (midway 1).lookup "Mine" = some (mine "new") := by decide
  have hnew : mine "new" ∈ batch :=
    (((hmine.2.1 1).2 hbatch _ hfound).resolve_left (by decide)).1
  exact ⟨⟨hs, horder, .refl _⟩, ⟨hvisible, hbatch, (hmine.2.1 1).1 hvisible (.inl hbatch), hfound, hnew⟩,
    ⟨by decide, hother, (hshared.2.1 4).1 (by decide) (.inr hother), by decide⟩,
    ⟨halone, (hmine.2.2.2 _ (.refl _)).2 halone⟩⟩

end TagTooltips.Store
