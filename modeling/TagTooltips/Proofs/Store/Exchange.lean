import TagTooltips.Proofs.Store.Contribution
import TagTooltips.Proofs.Store.Representation

/-! Which updates may change places. Each update drops the copies of its project and puts those that it
offers last. So a later update of a project absorbs its earlier ones, and updates of two projects can be
exchanged unless both offer a copy of one type: then the later one is current. -/

namespace TagTooltips

namespace Copy

variable {p q : String} {cs cs' : List Copy}

theorem withdraw_append : withdraw p (cs ++ cs') = withdraw p cs ++ withdraw p cs' :=
  List.filter_append ..

theorem withdraw_comm : withdraw p (withdraw q cs) = withdraw q (withdraw p cs) :=
  List.filter_comm ..

theorem withdraw_of_forall_ne (h : ∀ c ∈ cs, c.project ≠ p) : withdraw p cs = cs :=
  List.filter_eq_self.mpr fun c hc => bne_iff_ne.mpr (h c hc)

theorem withdraw_eq_nil (h : ∀ c ∈ cs, c.project = p) : withdraw p cs = [] :=
  List.filter_eq_nil_iff.mpr fun c hc => by simp [h c hc]

end Copy

namespace Store

/-- Two stores file the same copies under the same types; where an entry stands does not matter. -/
def Same (s s' : Store) : Prop := ∀ type, s.entries.lookup type = s'.entries.lookup type

theorem WellFormed.same_iff {s s' : Store} (h : s.WellFormed) (h' : s'.WellFormed) :
    Same s s' ↔ ∀ type, s.copies type = s'.copies type := by
  constructor
  · intro hsame type
    rw [copies, copies, hsame type]
  · intro hcopies type
    rw [h.lookup_entries, h'.lookup_entries, hcopies type]

end Store

namespace Update

open Store

variable {s : Store} {u v : Update} {type : String}

theorem project_of_mem_offer? {c : Copy} (h : c ∈ (u.offer? type).toList) : c.project = u.project := by
  cases u with
  | provide project batch =>
    obtain ⟨d, -, rfl⟩ := Option.map_eq_some_iff.mp (Option.mem_toList.mp h)
    rfl
  | withdraw project => simp [offer?] at h

theorem offer?_provide_eq_none_iff {project : String} {batch : List Descriptor} :
    (provide project batch).offer? type = none ↔ type ∉ batch.map (·.typeName) := by
  rw [offer?, Option.map_eq_none_iff, lastNamed_eq_none_iff]

theorem copies_apply_apply_of_eq (h : s.WellFormed) (hp : u.project = v.project) :
    (v.apply (u.apply s)).copies type = (v.apply s).copies type := by
  have hoffer : Copy.withdraw v.project (u.offer? type).toList = [] :=
    Copy.withdraw_eq_nil fun c hc => (project_of_mem_offer? hc).trans hp
  rw [(h.apply u).copies_apply, h.copies_apply, h.copies_apply, hp, Copy.withdraw_append,
    Copy.withdraw_withdraw, hoffer, List.append_nil]

theorem copies_apply_apply_of_ne (h : s.WellFormed) (hp : u.project ≠ v.project) :
    (v.apply (u.apply s)).copies type =
      Copy.withdraw v.project (Copy.withdraw u.project (s.copies type)) ++
        ((u.offer? type).toList ++ (v.offer? type).toList) := by
  have hoffer : Copy.withdraw v.project (u.offer? type).toList = (u.offer? type).toList :=
    Copy.withdraw_of_forall_ne fun c hc => by rwa [project_of_mem_offer? hc]
  rw [(h.apply u).copies_apply, h.copies_apply, Copy.withdraw_append, hoffer, List.append_assoc]

theorem offers_comm_iff (hp : u.project ≠ v.project) :
    (u.offer? type).toList ++ (v.offer? type).toList = (v.offer? type).toList ++ (u.offer? type).toList ↔
      u.offer? type = none ∨ v.offer? type = none := by
  cases hu : u.offer? type with
  | none => simp
  | some c =>
    cases hv : v.offer? type with
    | none => simp
    | some c' =>
      have hc : c.project = u.project := project_of_mem_offer? (Option.mem_toList.mpr hu)
      have hc' : c'.project = v.project := project_of_mem_offer? (Option.mem_toList.mpr hv)
      have hne : c ≠ c' := by
        rintro rfl
        exact hp (hc.symm.trans hc')
      simp [hne]

theorem same_absorb (h : s.WellFormed) (hp : u.project = v.project) :
    Same (v.apply (u.apply s)) (v.apply s) :=
  (((h.apply u).apply v).same_iff (h.apply v)).mpr fun _ => copies_apply_apply_of_eq h hp

theorem same_exchange_iff (h : s.WellFormed) (hp : u.project ≠ v.project) :
    Same (v.apply (u.apply s)) (u.apply (v.apply s)) ↔
      ∀ type, u.offer? type = none ∨ v.offer? type = none := by
  rw [((h.apply u).apply v).same_iff ((h.apply v).apply u)]
  refine forall_congr' fun type => ?_
  rw [copies_apply_apply_of_ne h hp, copies_apply_apply_of_ne h (Ne.symm hp), Copy.withdraw_comm,
    List.append_cancel_left_eq, offers_comm_iff hp]

theorem same_of_offers (h : s.WellFormed) (hp : u.project = v.project)
    (hoffers : ∀ type, u.offer? type = v.offer? type) : Same (u.apply s) (v.apply s) :=
  ((h.apply u).same_iff (h.apply v)).mpr fun type => by
    rw [h.copies_apply, h.copies_apply, hp, hoffers type]

end Update

namespace Store

open Update

/-- In any store that calls can make, taking a project out can be exchanged with any update of another
project, and the batches of two projects can be exchanged exactly if they share no type. What a project
sent or withdrew counts no more after its next batch or withdrawal, and an empty batch withdraws. -/
theorem same_of_exchanged_or_absorbed {s : Store} (h : s.Reachable) {p q : String} (hpq : p ≠ q)
    (a b : List Descriptor) :
    Same ((s.provide q b).withdraw p) ((s.withdraw p).provide q b) ∧
    Same ((s.withdraw q).withdraw p) ((s.withdraw p).withdraw q) ∧
    (Same ((s.provide p a).provide q b) ((s.provide q b).provide p a) ↔
      ∀ type ∈ a.map (·.typeName), type ∉ b.map (·.typeName)) ∧
    Same ((s.provide p a).provide p b) (s.provide p b) ∧
    Same ((s.provide p a).withdraw p) (s.withdraw p) ∧
    Same (s.provide p []) (s.withdraw p) := by
  have hs : s.WellFormed := h.wellFormed
  have hbatches :
      (∀ type, (Update.provide p a).offer? type = none ∨ (Update.provide q b).offer? type = none) ↔
      ∀ type ∈ a.map (·.typeName), type ∉ b.map (·.typeName) := by
    refine forall_congr' fun type => ?_
    rw [offer?_provide_eq_none_iff, offer?_provide_eq_none_iff, ← imp_iff_not_or]
  refine ⟨?_, ?_, ?_, ?_, ?_, ?_⟩
  · exact (same_exchange_iff (u := .provide q b) (v := .withdraw p) hs hpq.symm).mpr fun _ => .inr rfl
  · exact (same_exchange_iff (u := .withdraw q) (v := .withdraw p) hs hpq.symm).mpr fun _ => .inr rfl
  · exact (same_exchange_iff (u := .provide p a) (v := .provide q b) hs hpq).trans hbatches
  · exact same_absorb (u := .provide p a) (v := .provide p b) hs rfl
  · exact same_absorb (u := .provide p a) (v := .withdraw p) hs rfl
  · exact same_of_offers (u := .provide p []) (v := .withdraw p) hs rfl fun _ => rfl

theorem same_of_exchanged_or_absorbed_shared :
    let shared : Descriptor := ⟨"Shared", none, [], []⟩
    let other : Descriptor := ⟨"Other", some "", ["p"], []⟩
    let s := [Operation.upsert "q" [shared], .upsert "p" [shared, other]].foldl Operation.run Store.empty
    s.Reachable ∧ "p" ≠ "q" ∧
    ¬ Same ((s.provide "p" [shared]).provide "q" [other, shared])
      ((s.provide "q" [other, shared]).provide "p" [shared]) ∧
    Same ((s.provide "p" [shared]).provide "q" [other]) ((s.provide "q" [other]).provide "p" [shared]) ∧
    Same ((s.provide "q" [other]).withdraw "p") ((s.withdraw "p").provide "q" [other]) := by
  intro shared other s
  have hs : s.Reachable := Reachable.empty.foldl_run _
  have hpq : "p" ≠ "q" := by decide
  refine ⟨hs, hpq, ?_, ?_, (same_of_exchanged_or_absorbed hs hpq [] [other]).1⟩
  · rw [(same_of_exchanged_or_absorbed hs hpq [shared] [other, shared]).2.2.1]
    decide
  · rw [(same_of_exchanged_or_absorbed hs hpq [shared] [other]).2.2.1]
    decide

end Store

end TagTooltips
