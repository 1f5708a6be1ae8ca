import TagTooltips.Proofs.Ascending
import TagTooltips.Proofs.Store.Exchange
import TagTooltips.Proofs.Store.History
import TagTooltips.Proofs.Store.Loading

/-! The numbers that calls return. A batch leaves a copy of its project under each type that it names, and calls
of other projects touch none of these. So a withdrawal, which counts copies one by one as it drops them,
comes to the number that the last batch of the project came to. -/

namespace TagTooltips

namespace Store

variable {s : Store} {project type : String} {batch : List Descriptor} {order : List String} {u : Update}

def contributed (project : String) (s : Store) : Set String := {type | ∃ c ∈ s.copies type, c.project = project}

theorem mem_contributed_iff : type ∈ s.contributed project ↔ ∃ c ∈ s.copies type, c.project = project := Iff.rfl

theorem WellFormed.mem_providedBy_iff (h : s.WellFormed) :
    type ∈ s.providedBy project ↔ type ∈ s.contributed project := by
  rw [providedBy, List.mem_filter, List.any_eq_true, h.mem_types_iff, mem_contributed_iff]
  simp only [beq_iff_eq]
  refine and_iff_right_of_imp ?_
  rintro ⟨c, hc, -⟩
  exact List.ne_nil_of_mem hc

theorem WellFormed.encard_contributed (h : s.WellFormed) (project : String) :
    (s.contributed project).encard = (s.providedBy project).length := by
  have hsame : s.contributed project = {type | type ∈ s.providedBy project} := by
    ext type
    exact h.mem_providedBy_iff.symm
  have hnodup : (s.providedBy project).Nodup := h.types_nodup.filter _
  rw [hsame, encard_of_nodup hnodup]

theorem encard_named (batch : List Descriptor) :
    {type | ∃ d ∈ batch, d.typeName = type}.encard = (batch.map (·.typeName)).eraseDups.length := by
  have hsame : {type | ∃ d ∈ batch, d.typeName = type} = {type | type ∈ (batch.map (·.typeName)).eraseDups} := by
    ext type
    exact List.mem_map.symm.trans List.mem_eraseDups.symm
  rw [hsame, encard_of_nodup (nodup_eraseDups _)]

theorem WellFormed.withdraw_copies_apply (h : s.WellFormed) (u : Update) (type : String) :
    Copy.withdraw u.project ((u.apply s).copies type) = Copy.withdraw u.project (s.copies type) := by
  have hoffer : Copy.withdraw u.project (u.offer? type).toList = [] :=
    Copy.withdraw_eq_nil fun c hc => Update.project_of_mem_offer? hc
  rw [h.copies_apply, Copy.withdraw_append, Copy.withdraw_withdraw, hoffer, List.append_nil]

theorem WellFormed.contributed_apply_of_ne (h : s.WellFormed) (hp : u.project ≠ project) :
    (u.apply s).contributed project = s.contributed project := by
  have hkept (cs : List Copy) :
      (∃ c ∈ cs, c.project = project) ↔ ∃ c ∈ Copy.withdraw u.project cs, c.project = project := by
    refine exists_congr fun c => and_congr_left fun hc => ?_
    rw [Copy.withdraw, List.mem_filter, bne_iff_ne]
    exact (and_iff_left (hc ▸ Ne.symm hp)).symm
  ext type
  rw [mem_contributed_iff, mem_contributed_iff, hkept, h.withdraw_copies_apply, ← hkept]

theorem WellFormed.contributed_provide (h : s.WellFormed) (project : String) (batch : List Descriptor) :
    (s.provide project batch).contributed project = {type | ∃ d ∈ batch, d.typeName = type} := by
  ext type
  have hnamed : (∃ d ∈ batch, d.typeName = type) ↔ type ∈ batch.map (·.typeName) := List.mem_map.symm
  rw [mem_contributed_iff, h.copies_provide, Set.mem_ofPred_eq, hnamed]
  constructor
  · rintro ⟨c, hc, rfl⟩
    rcases List.mem_append.mp hc with hold | hnew
    · simp [Copy.withdraw] at hold
    · obtain ⟨d, hlast, -⟩ := Option.map_eq_some_iff.mp (Option.mem_toList.mp hnew)
      obtain ⟨hd, rfl⟩ := of_lastNamed hlast
      exact List.mem_map_of_mem hd
  · intro hmem
    obtain ⟨d, hlast⟩ := Option.ne_none_iff_exists'.mp (mt lastNamed_eq_none_iff.mp (not_not.mpr hmem))
    exact ⟨⟨project, d⟩, List.mem_append_right _ (by simp [hlast]), rfl⟩

/-- A visit that counts: one more if the type has lost a copy by it. -/
def tally (project : String) (state : Store × Nat) (type : String) : Store × Nat :=
  let cs := state.1.copies type
  (step project state.1 (.retire type),
    if (Copy.withdraw project cs).length = cs.length then state.2 else state.2 + 1)

theorem length_withdraw_eq_iff {cs : List Copy} :
    (Copy.withdraw project cs).length = cs.length ↔ cs.any (·.project == project) = false := by
  rw [Copy.withdraw, List.length_filter_eq_length_iff, List.any_eq_false]
  simp only [bne_iff_ne, beq_iff_eq, ne_eq]

theorem tally_eq (project type : String) (s : Store) (n : Nat) : tally project (s, n) type =
    (step project s (.retire type), n + if (s.copies type).any (·.project == project) then 1 else 0) := by
  rw [tally]
  simp only [length_withdraw_eq_iff]
  cases (s.copies type).any (·.project == project) <;> rfl

theorem WellFormed.foldl_tally (h : s.WellFormed) (horder : order.Nodup) (n : Nat) :
    order.foldl (tally project) (s, n) = ((order.map Step.retire).foldl (Store.step project) s,
      n + (order.filter fun type => (s.copies type).any (·.project == project)).length) := by
  induction order generalizing s n with
  | nil => rfl
  | cons type order ih =>
    obtain ⟨hnew, horder⟩ := List.nodup_cons.mp horder
    -- The visits to come find what they would have found before this one.
    have hrest : order.filter (fun t => ((Store.step project s (.retire type)).copies t).any (·.project == project)) =
        order.filter fun t => (s.copies t).any (·.project == project) := by
      refine List.filter_congr fun t ht => ?_
      rw [h.copies_step_retire, if_neg (ne_of_mem_of_not_mem ht hnew)]
    rw [List.foldl_cons, tally_eq, ih (h.step _) horder, hrest, List.filter_cons, Nat.add_assoc]
    cases (s.copies type).any (·.project == project)
    · rw [if_neg Bool.false_ne_true, if_neg Bool.false_ne_true, Nat.zero_add]
      rfl
    · rw [if_pos rfl, if_pos rfl, List.length_cons, Nat.add_comm 1]
      rfl

theorem WellFormed.same_visited (h : s.WellFormed) (horder : order.Perm s.types) :
    Same ((order.map Step.retire).foldl (Store.step project) s) (s.withdraw project) := by
  refine ((h.steps _).same_iff h.withdraw).mpr fun type => ?_
  have hall : order.map Step.retire = cleanup [] order := by simp [cleanup]
  rw [hall, h.copies_cleanup [] fun t ht => horder.mem_iff.mpr ht, if_neg (by simp), h.copies_withdraw]

theorem WellFormed.count_tally (h : s.WellFormed) (horder : order.Perm s.types) :
    (order.foldl (tally project) (s, 0)).2 = (s.providedBy project).length := by
  rw [h.foldl_tally (horder.nodup_iff.mpr h.types_nodup), Nat.zero_add, providedBy]
  exact (horder.filter _).length_eq

end Store

namespace Operation

open Store

variable {s : Store} {project : String} {batch : List Descriptor} {u : Update} {op : Operation}
  {ops newer : List Operation}

def count? (s : Store) : Operation → Option Nat
  | upsert project batch => some ((Update.provide project batch).perform s).value.2
  | change snapshot => some ((Update.ofChange snapshot).perform s).value.2
  | load read path => (s.load read path).value.toOption.map (·.2)
  | remove project => some ((Update.withdraw project).perform s).value.2

theorem count?_eq (s : Store) (op : Operation) : op.count? s = op.update?.map fun u => u.count s := by
  cases op with
  | load read path =>
    rw [count?, Store.load, update?]
    cases Update.ofFile read path <;> rfl
  | _ => rfl

theorem run_of_update? (hop : op.update? = some u) : op.run s = u.apply s := by
  rw [run_eq, hop, Option.elim_some]

theorem count?_of_update? (hop : op.update? = some u) : op.count? s = some (u.count s) := by
  rw [count?_eq, hop, Option.map_some]

theorem contributed_run_of_ne (h : s.WellFormed) (hop : ∀ u, op.update? = some u → u.project ≠ project) :
    (op.run s).contributed project = s.contributed project := by
  rw [run_eq]
  cases hupdate : op.update? with
  | none => rfl
  | some u => exact h.contributed_apply_of_ne (hop u hupdate)

theorem contributed_foldl_run_of_ne (h : s.WellFormed)
    (hops : ∀ op ∈ ops, ∀ u, op.update? = some u → u.project ≠ project) :
    (ops.foldl run s).contributed project = s.contributed project := by
  induction ops generalizing s with
  | nil => rfl
  | cons op ops ih =>
    obtain ⟨hop, hops⟩ := List.forall_mem_cons.mp hops
    rw [List.foldl_cons, ih (wellFormed_run h op) hops, contributed_run_of_ne h hop]

theorem encard_contributed_of_provide (h : s.WellFormed) (hop : op.update? = some (.provide project batch)) :
    ((op.run s).contributed project).encard = ((Update.provide project batch).count s : Nat) := by
  rw [run_of_update? hop, Update.apply, h.contributed_provide, encard_named, Update.count]

theorem encard_contributed_of_last {older : List Operation} (hop : op.update? = some (.provide project batch))
    (hnewer : ∀ later ∈ newer, ∀ u, later.update? = some u → u.project ≠ project) :
    (((older ++ op :: newer).foldl run Store.empty).contributed project).encard =
      ((Update.provide project batch).count (older.foldl run Store.empty) : Nat) := by
  have holder : (older.foldl run Store.empty).WellFormed := (Reachable.empty.foldl_run older).wellFormed
  rw [List.foldl_append, List.foldl_cons, contributed_foldl_run_of_ne (wellFormed_run holder op) hnewer,
    encard_contributed_of_provide holder hop]

theorem exists_call_of_history {older newer : List Update} (h : history ops = older ++ u :: newer) :
    ∃ before op behind, ops = before ++ op :: behind ∧ op.update? = some u ∧ history behind = newer := by
  obtain ⟨before, rest, rfl, -, hrest⟩ := List.filterMap_eq_append_iff.mp h
  obtain ⟨silent, op, behind, rfl, -, hop, hbehind⟩ := List.filterMap_eq_cons_iff.mp hrest
  exact ⟨before ++ silent, op, behind, by rw [List.append_assoc], hop, hbehind⟩

theorem contributed_eq_empty
    (hremoved : ∀ older op newer batch, ops = older ++ op :: newer →
      op.update? = some (.provide project batch) → remove project ∈ newer) :
    (ops.foldl run Store.empty).contributed project = ∅ := by
  rw [Set.eq_empty_iff_forall_notMem]
  rintro type ⟨c, hc, rfl⟩
  rw [foldl_run, Store.copies_history] at hc
  obtain ⟨newer, batch, ⟨⟨older, hsplit⟩, hnewer⟩, -⟩ := Update.mem_standing_iff.mp hc
  obtain ⟨before, op, behind, rfl, hop, rfl⟩ := exists_call_of_history hsplit
  have hmem : Update.withdraw c.project ∈ history behind :=
    List.mem_filterMap.mpr ⟨remove c.project, hremoved before op behind batch rfl hop, rfl⟩
  exact hnewer _ hmem rfl

/-- After any calls, a batch is answered with the number of types that it names, and its project contributes to
as many from then on. A removal is answered with the number of types to which the project contributed so far,
in whatever order they are visited and counted. That is what its last batch was answered with, whatever other
projects did since, and zero if it was removed after every batch. No call changes what others contribute. -/
theorem counts_foldl_run (ops : List Operation) :
    let s := ops.foldl run Store.empty
    (∀ (op : Operation) (project : String) (batch : List Descriptor),
      op.update? = some (.provide project batch) → ∃ n : Nat, op.count? s = some n ∧
      {type | ∃ d ∈ batch, d.typeName = type}.encard = n ∧
      {type | ∃ c ∈ (op.run s).copies type, c.project = project}.encard = n) ∧
    (∀ project : String, ∃ n : Nat, (remove project).count? s = some n ∧
      {type | ∃ c ∈ s.copies type, c.project = project}.encard = n ∧
      (∀ order : List String, order.Perm s.types →
        Same (order.foldl (tally project) (s, 0)).1 ((remove project).run s) ∧
        (order.foldl (tally project) (s, 0)).2 = n) ∧
      (∀ older op newer batch, ops = older ++ op :: newer → op.update? = some (.provide project batch) →
        (∀ later ∈ newer, ∀ u, later.update? = some u → u.project ≠ project) →
        op.count? (older.foldl run Store.empty) = some n) ∧
      ((∀ older op newer batch, ops = older ++ op :: newer → op.update? = some (.provide project batch) →
        remove project ∈ newer) → n = 0)) ∧
    ∀ (op : Operation) (u : Update) (type : String), op.update? = some u →
      Copy.withdraw u.project ((op.run s).copies type) = Copy.withdraw u.project (s.copies type) := by
  intro s
  have hs : s.WellFormed := (Reachable.empty.foldl_run ops).wellFormed
  refine ⟨fun op project batch hop => ?_, fun project => ?_, fun op u type hop => ?_⟩
  · exact ⟨_, count?_of_update? hop, encard_named batch, encard_contributed_of_provide hs hop⟩
  · have hcontributed : (s.contributed project).encard = (s.providedBy project).length :=
      hs.encard_contributed project
    refine ⟨(s.providedBy project).length, rfl, hcontributed, fun order horder => ⟨?_, hs.count_tally horder⟩,
      ?_, fun hremoved => ?_⟩
    · rw [hs.foldl_tally (horder.nodup_iff.mpr hs.types_nodup)]
      exact hs.same_visited horder
    · rintro older op newer batch rfl hop hnewer
      rw [count?_of_update? hop]
      rw [encard_contributed_of_last hop hnewer] at hcontributed
      exact congrArg some (Nat.cast_injective hcontributed)
    · rw [contributed_eq_empty hremoved, Set.encard_empty] at hcontributed
      exact (Nat.cast_injective hcontributed).symm
  · rw [run_of_update? hop]
    exact hs.withdraw_copies_apply u type

theorem counts_foldl_run_shared :
    let batch : List Descriptor := [⟨"T", none, [], []⟩, ⟨"U", none, [], []⟩, ⟨"T", some "", [], []⟩]
    let text := String.ofList (Json.array (batch.map Descriptor.toJson)).render
    let read : Reader := ⟨fun _ => .ok text, fun _ => "no descriptors"⟩
    let older : List Operation := [.upsert "q" [⟨"U", none, [], []⟩], .remove "q"]
    let sent := Operation.load read "p"
    let newer : List Operation := [.upsert "r" [⟨"T", none, [], []⟩], .change ⟨"r", []⟩]
    let s := (older ++ sent :: newer).foldl run Store.empty
    (sent.update? = some (.provide "p" batch) ∧ sent.count? s = some 2 ∧
      {type | ∃ c ∈ (sent.run s).copies type, c.project = "p"}.encard = 2) ∧
    (s.types.reverse.Perm s.types ∧ (s.types.reverse.foldl (tally "p") (s, 0)).2 = 2 ∧
      (remove "p").count? s = some 2) ∧
    (remove "q").count? s = some 0 ∧
    Copy.withdraw "r" (((remove "r").run s).copies "T") = Copy.withdraw "r" (s.copies "T") := by
  intro batch text read older sent newer s
  have hholds : read.Holds "p" (.array (batch.map Descriptor.toJson)) :=
    Reader.holds_render (Json.legible_map Descriptor.legible_toJson batch) rfl
  have hsent : (Operation.load read "p").update? = some (.provide "p" batch) := by
    rw [update?, Update.ofFile_list hholds]
    rfl
  have hnewer : ∀ later ∈ newer, ∀ u, later.update? = some u → u.project ≠ "p" := by
    simp [newer, update?, Update.ofChange, Update.project]
  have hgone : ∀ before op behind batch, older ++ sent :: newer = before ++ op :: behind →
      op.update? = some (.provide "q" batch) → remove "q" ∈ behind := by
    rintro (_ | ⟨_, before⟩) op behind other hsplit hop
    · obtain ⟨-, rfl⟩ := List.cons.inj hsplit
      exact List.mem_cons_self
    · -- No other call is a batch of `q`.
      have hrest : remove "q" :: sent :: newer = before ++ op :: behind := (List.cons.inj hsplit).2
      have hmem : op ∈ remove "q" :: sent :: newer := hrest ▸ List.mem_append_right _ List.mem_cons_self
      simp only [newer, List.mem_cons, List.not_mem_nil, or_false] at hmem
      rcases hmem with rfl | rfl | rfl | rfl
      · cases hop
      · simp [sent, hsent] at hop
      · simp [update?] at hop
      · simp [update?, Update.ofChange] at hop
  obtain ⟨hprovided, hremoved, hothers⟩ := counts_foldl_run (older ++ sent :: newer)
  obtain ⟨n, hn, -, hafter⟩ := hprovided sent "p" batch hsent
  obtain rfl : n = 2 := Option.some.inj (hn.symm.trans (count?_of_update? hsent))
  obtain ⟨m, hm, -, horders, hlast, -⟩ := hremoved "p"
  obtain rfl : m = 2 :=
    Option.some.inj ((hlast older sent newer batch rfl hsent hnewer).symm.trans (count?_of_update? hsent))
  obtain ⟨k, hk, -, -, -, hzero⟩ := hremoved "q"
  obtain rfl : k = 0 := hzero hgone
  have horder : s.types.reverse.Perm s.types := List.reverse_perm _
  have hothers := hothers (remove "r") (.withdraw "r") "T" rfl
  exact ⟨⟨hsent, hn, hafter⟩, ⟨horder, (horders _ horder).2, hm⟩, hk, hothers⟩

end Operation

end TagTooltips
