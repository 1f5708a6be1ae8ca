import Mathlib.Algebra.Ring.Nat
import TagTooltips.Proofs.Candidate.Completion
import TagTooltips.Proofs.Lookup

/-! The attributes bound on a tag are shared out among the candidates by name: none is lost, none is shown
twice, and under each name they keep their order. The candidates can be collected in one pass, which files
each attribute behind those of its name. -/

namespace TagTooltips

abbrev Groups := List (String × List AttributeEntry)

namespace Groups

variable {groups : Groups} {a : BoundAttribute} {as : List BoundAttribute} {name : String}

def add (groups : Groups) (a : BoundAttribute) : Groups :=
  match groups with
  | [] => [(a.name, [.ofBound a])]
  | (name, es) :: rest =>
    if a.name < name then (a.name, [.ofBound a]) :: (name, es) :: rest
    else if a.name = name then (name, es ++ [.ofBound a]) :: rest
    else (name, es) :: add rest a

def collect (ds : List Descriptor) : Groups :=
  ds.foldl (fun groups d => d.boundAttributes.foldl add groups) []

theorem collect_eq (ds : List Descriptor) : collect ds = (ds.flatMap (·.boundAttributes)).foldl add [] :=
  List.foldl_flatMap.symm

def names (groups : Groups) : List String := groups.map (·.1)

def under (groups : Groups) (name : String) : List AttributeEntry := (groups.lookup name).getD []

theorem mem_names_add : name ∈ names (add groups a) ↔ name = a.name ∨ name ∈ names groups := by
  induction groups with
  | nil => simp [add, names]
  | cons group rest ih =>
    obtain ⟨first, es⟩ := group
    simp only [names, List.map_cons, List.mem_cons] at ih ⊢
    rw [add]
    split
    · simp only [List.map_cons, List.mem_cons]
    · split
      · rename_i hsame
        simp only [List.map_cons, List.mem_cons, hsame, or_self_left]
      · rw [List.map_cons, List.mem_cons, ih, or_left_comm]

theorem pairwise_names_add (h : (names groups).Pairwise (· < ·)) :
    (names (add groups a)).Pairwise (· < ·) := by
  induction groups with
  | nil => exact List.pairwise_singleton ..
  | cons group rest ih =>
    obtain ⟨first, es⟩ := group
    obtain ⟨hfirst, hrest⟩ := List.pairwise_cons.mp h
    rw [add]
    split
    · rename_i hbefore
      refine List.pairwise_cons.mpr ⟨fun other hother => ?_, h⟩
      rcases List.mem_cons.mp hother with rfl | hother
      · exact hbefore
      · exact hbefore.trans (hfirst other hother)
    · rename_i hbefore
      split
      · exact h
      · rename_i hne
        have hbehind : first < a.name := lt_of_le_of_ne (not_lt.mp hbefore) (Ne.symm hne)
        refine List.pairwise_cons.mpr ⟨fun other hother => ?_, ih hrest⟩
        rcases mem_names_add.mp hother with rfl | hother
        · exact hbehind
        · exact hfirst other hother

theorem under_cons {first : String} {es : List AttributeEntry} {rest : Groups} :
    under ((first, es) :: rest) name = if name = first then es else under rest name := by
  rw [under, lookup_cons_eq_ite]
  split <;> rfl

theorem under_eq_nil (h : name ∉ names groups) : under groups name = [] := by
  rw [under, lookup_eq_none_of_notMem h, Option.getD_none]

theorem under_add (h : (names groups).Pairwise (· < ·)) : under (add groups a) name =
    if name = a.name then under groups name ++ [.ofBound a] else under groups name := by
  induction groups with
  | nil => exact under_cons
  | cons group rest ih =>
    obtain ⟨first, es⟩ := group
    obtain ⟨hfirst, hrest⟩ := List.pairwise_cons.mp h
    rw [add]
    split
    · -- All names there are come after the new one, so nothing is filed under it yet.
      rename_i hbefore
      have hnew : a.name ∉ names ((first, es) :: rest) := by
        intro hmem
        rcases List.mem_cons.mp hmem with hsame | hmem
        · exact hbefore.ne hsame
        · exact lt_asymm hbefore (hfirst _ hmem)
      rw [under_cons]
      split
      · rename_i hname
        rw [hname, under_eq_nil hnew, List.nil_append]
      · rfl
    · split
      · rename_i hsame
        rw [under_cons, under_cons, hsame]
        split <;> rfl
      · rename_i hne
        rw [under_cons, under_cons, ih hrest]
        by_cases hname : name = first
        · rw [if_pos hname, if_pos hname, if_neg fun hown => hne (hown.symm.trans hname)]
        · rw [if_neg hname, if_neg hname]

theorem mem_names_foldl_add : name ∈ names (as.foldl add groups) ↔
    name ∈ as.map (·.name) ∨ name ∈ names groups := by
  induction as generalizing groups with
  | nil => simp
  | cons a as ih => rw [List.foldl_cons, ih, mem_names_add, List.map_cons, List.mem_cons, or_left_comm, or_assoc]

theorem pairwise_names_foldl_add (h : (names groups).Pairwise (· < ·)) :
    (names (as.foldl add groups)).Pairwise (· < ·) := by
  induction as generalizing groups with
  | nil => exact h
  | cons a as ih => exact ih (pairwise_names_add h)

theorem under_foldl_add (h : (names groups).Pairwise (· < ·)) : under (as.foldl add groups) name =
    under groups name ++ (as.filter (·.name == name)).map .ofBound := by
  induction as generalizing groups with
  | nil => exact (List.append_nil _).symm
  | cons a as ih =>
    rw [List.foldl_cons, ih (pairwise_names_add h), under_add h]
    by_cases hname : name = a.name
    · rw [if_pos hname, List.filter_cons_of_pos (by simpa using hname.symm), List.map_cons, List.append_assoc]
      rfl
    · rw [if_neg hname, List.filter_cons_of_neg (by simpa using Ne.symm hname)]

theorem eq_map_names (h : (names groups).Pairwise (· < ·)) :
    groups = (names groups).map fun name => (name, under groups name) := by
  have hgroup : ∀ group ∈ groups, (group.1, under groups group.1) = group := fun group hgroup => by
    rw [under, lookup_of_mem h.nodup hgroup, Option.getD_some]
  rw [names, List.map_map]
  exact ((List.map_congr_left hgroup).trans (List.map_id' _)).symm

theorem foldl_add_nil (as : List BoundAttribute) : as.foldl add [] =
    (ascending (as.map (·.name))).map fun name => (name, (as.filter (·.name == name)).map .ofBound) := by
  have hpairwise : (names (as.foldl add [])).Pairwise (· < ·) := pairwise_names_foldl_add List.Pairwise.nil
  have hnames : names (as.foldl add []) = ascending (as.map (·.name)) :=
    eq_ascending_iff.mpr ⟨hpairwise, fun name => mem_names_foldl_add.trans (or_iff_left List.not_mem_nil)⟩
  rw [eq_map_names hpairwise, hnames]
  exact List.map_congr_left fun name _ => congrArg (Prod.mk name) (under_foldl_add List.Pairwise.nil)

theorem flatMap_add_perm : ((add groups a).flatMap (·.2)).Perm (.ofBound a :: groups.flatMap (·.2)) := by
  induction groups with
  | nil => exact .refl _
  | cons group rest ih =>
    obtain ⟨first, es⟩ := group
    rw [add]
    split
    · exact .refl _
    · split
      · simp only [List.flatMap_cons, List.append_assoc]
        exact List.perm_middle
      · simp only [List.flatMap_cons]
        exact (ih.append_left es).trans List.perm_middle

theorem flatMap_foldl_add_perm : ((as.foldl add groups).flatMap (·.2)).Perm
    (as.map .ofBound ++ groups.flatMap (·.2)) := by
  induction as generalizing groups with
  | nil => exact .refl _
  | cons a as ih => exact ih.trans ((flatMap_add_perm.append_left _).trans List.perm_middle)

end Groups

def Payload.attributeEntries : Payload → List AttributeEntry
  | .attributes entries => entries
  | _ => []

namespace Candidate

variable {s : Store} {tag : String} {c : Candidate}

theorem attributes_eq (tag : String) (s : Store) : attributes tag s =
    (Groups.collect (s.forTag tag)).mapM fun group => ofAttribute group.1 group.2 := by
  rw [Groups.collect_eq, Groups.foldl_add_nil, List.mapM_map]
  rfl

theorem label_value_ofAttribute (name : String) (entries : List AttributeEntry) :
    (ofAttribute name entries).value.label = name := by
  cases entries <;> rfl

theorem payload_value_ofAttribute (name : String) (entries : List AttributeEntry) :
    (ofAttribute name entries).value.payload = .attributes entries := by
  cases entries <;> rfl

theorem map_label_attributes (tag : String) (s : Store) :
    (attributes tag s).value.map (·.label) = ascending ((boundOn tag s).map (·.name)) := by
  rw [attributes, Noted.value_mapM, List.map_map]
  exact (List.map_congr_left fun name _ => label_value_ofAttribute name _).trans (List.map_id' _)

theorem flatMap_attributeEntries_perm (tag : String) (s : Store) :
    ((attributes tag s).value.flatMap (·.payload.attributeEntries)).Perm ((boundOn tag s).map .ofBound) := by
  have hperm : ((Groups.collect (s.forTag tag)).flatMap (·.2)).Perm ((boundOn tag s).map .ofBound) := by
    rw [Groups.collect_eq, ← List.append_nil ((boundOn tag s).map AttributeEntry.ofBound)]
    exact Groups.flatMap_foldl_add_perm
  rw [attributes_eq, Noted.value_mapM, List.flatMap_map]
  simpa only [payload_value_ofAttribute, Payload.attributeEntries] using hperm

/-- The candidates for a tag, as they are collected in one pass over its tag helpers, have the names that are
bound on the tag, each once and in strict order. Under a name there are the attributes of that name, one at
least, in the order in which they are bound, and its detail is the return type of the first as it is shown.
All candidates together hold each bound attribute once. -/
theorem attributes_partition_bound (tag : String) (s : Store) :
    let bound := (s.forTag tag).flatMap (·.boundAttributes)
    let offered := (attributes tag s).value
    attributes tag s = (Groups.collect (s.forTag tag)).mapM (fun group => ofAttribute group.1 group.2) ∧
    (offered.map (·.label)).Pairwise (· < ·) ∧
    (∀ name, name ∈ offered.map (·.label) ↔ name ∈ bound.map (·.name)) ∧
    (∀ c ∈ offered, c.kind = .attribute ∧ ∃ first rest, c.payload = .attributes (first :: rest) ∧
      first :: rest = (bound.filter (·.name == c.label)).map (fun a =>
        ⟨a.typeName, a.displayName, a.propertyName, a.documentation⟩) ∧
      c.detail = first.returnType.value) ∧
    (offered.flatMap (·.payload.attributeEntries)).Perm (bound.map .ofBound) ∧
    (offered.map (·.payload.attributeEntries.length)).sum = bound.length := by
  intro bound offered
  have hlabels : offered.map (·.label) = ascending (bound.map (·.name)) := map_label_attributes tag s
  have hperm := flatMap_attributeEntries_perm tag s
  refine ⟨attributes_eq tag s, ?_, fun name => ?_, fun c hc => ?_, hperm, ?_⟩
  · rw [hlabels]
    exact pairwise_ascending
  · rw [hlabels, mem_ascending]
  · obtain ⟨first, rest, hentries, hc⟩ := eq_of_mem_attributes hc
    rw [hc]
    exact ⟨rfl, first, rest, rfl, hentries, rfl⟩
  · rw [← List.length_flatMap, hperm.length_eq, List.length_map]
    rfl

end Candidate

end TagTooltips
