import Mathlib.Data.List.Infix
import TagTooltips.Proofs.Signature.Walk

/-! Groups by counting. From a closing bracket a search goes left to the first place where as many brackets of the
family have been opened as closed. It finds none exactly if every opening bracket on the way has a closing one of
its own behind it. Well-nested text is balanced in each family. -/

namespace TagTooltips.Signature

namespace Bracket

variable {b : Bracket} {depth : Nat} {s t : List Char} {x : Char}

/-- Every opening bracket of a family in a text has a closing one of its own behind it. -/
def Paired (b : Bracket) (s : List Char) : Prop := ∀ v, v <:+ s → v.count b.opening ≤ v.count b.closing

/-- The contents of a group of a family, whatever the brackets of the other families in it do. -/
def Balanced (b : Bracket) (s : List Char) : Prop := b.Paired s ∧ s.count b.opening = s.count b.closing

/-- A family in a list read from right to left: `depth` groups are open to its right, and they are not closed off
in it. -/
def Open (b : Bracket) (depth : Nat) (left : List Char) : Prop :=
  ∀ v, v <+: left → v.count b.opening < v.count b.closing + depth

theorem open_reverse_iff : b.Open 1 s.reverse ↔ b.Paired s := by
  constructor
  · intro h v hv
    simpa [Nat.lt_succ_iff] using h v.reverse (List.reverse_prefix.mpr hv)
  · intro h v hv
    have hv' : v.reverse <:+ s := by simpa using List.reverse_suffix.mpr hv
    simpa [Nat.lt_succ_iff] using h v.reverse hv'

instance : DecidablePred b.Paired := fun s =>
  decidable_of_iff (∀ v ∈ s.tails, v.count b.opening ≤ v.count b.closing) (by simp [Paired, List.mem_tails])

theorem paired_cons_iff :
    b.Paired (x :: s) ↔ (x :: s).count b.opening ≤ (x :: s).count b.closing ∧ b.Paired s := by
  simp only [Paired, List.suffix_cons_iff, or_imp, forall_and, forall_eq]

theorem Paired.append (hs : b.Paired s) (ht : b.Paired t) : b.Paired (s ++ t) := by
  intro v hv
  rcases List.suffix_or_suffix_of_suffix hv (List.suffix_append s t) with hshort | ⟨w, rfl⟩
  · exact ht v hshort
  · have hw := hs w (List.suffix_append_self_iff.mp hv)
    have ht' := ht t List.suffix_rfl
    rw [List.count_append, List.count_append]
    omega

theorem open_nil_iff : b.Open depth [] ↔ 0 < depth := by
  simp [Open]

theorem depthLeft_add_count (hd : 0 < depth) :
    b.depthLeft depth x + (if x == b.opening then 1 else 0) = depth + if x == b.closing then 1 else 0 := by
  have hne := b.opening_ne_closing b
  unfold depthLeft
  split
  · rename_i hx
    simp [hx, hne.symm]
  · split
    · rename_i hx
      simp only [hx, beq_self_eq_true, if_pos, beq_iff_eq, if_neg hne]
      omega
    · rename_i hclosing hopening
      simp [hopening, hclosing]

theorem depthLeft_eq_zero_iff (hd : 0 < depth) : b.depthLeft depth x = 0 ↔ x = b.opening ∧ depth = 1 := by
  constructor
  · intro hzero
    have hx := eq_opening_of_depthLeft hd hzero
    rw [hx, depthLeft, if_neg (b.opening_ne_closing b), if_pos rfl] at hzero
    exact ⟨hx, by omega⟩
  · rintro ⟨rfl, rfl⟩
    rw [depthLeft, if_neg (b.opening_ne_closing b), if_pos rfl]

theorem open_cons_iff {left : List Char} (hd : 0 < depth) :
    b.Open depth (x :: left) ↔ b.Open (b.depthLeft depth x) left := by
  have hstep := depthLeft_add_count (b := b) (x := x) hd
  constructor
  · intro h v hv
    have hcount := h (x :: v) (List.cons_prefix_cons.mpr ⟨rfl, hv⟩)
    simp only [List.count_cons] at hcount
    omega
  · intro h v hv
    rcases List.prefix_cons_iff.mp hv with rfl | ⟨w, rfl, hw⟩
    · simpa using hd
    · have hcount := h w hw
      simp only [List.count_cons]
      omega

end Bracket

theorem Nested.balanced {s outside : List Char} (h : Nested s outside) (b : Bracket) : b.Balanced s := by
  induction h with
  | nil => exact ⟨fun v hv => by rw [List.suffix_nil.mp hv]; rfl, rfl⟩
  | @plain c s outside hc _ ih =>
    obtain ⟨hopening, hclosing⟩ := hc b
    have hcount : (c :: s).count b.opening = (c :: s).count b.closing := by
      rw [List.count_cons_of_ne hopening, List.count_cons_of_ne hclosing, ih.2]
    exact ⟨Bracket.paired_cons_iff.mpr ⟨hcount.le, ih.1⟩, hcount⟩
  | @group b' inside hidden s outside _ _ ihi ihs =>
    have hsame : (b'.opening == b.opening) = (b'.closing == b.closing) := by cases b <;> cases b' <;> rfl
    have hother : (b'.closing == b.opening) = false := by cases b <;> cases b' <;> rfl
    have hother' : (b'.opening == b.closing) = false := by cases b <;> cases b' <;> rfl
    have hclosing : b.Paired (b'.closing :: s) := by
      refine Bracket.paired_cons_iff.mpr ⟨?_, ihs.1⟩
      simp only [List.count_cons, hother, ihs.2, Bool.false_eq_true, if_false]
      omega
    have hcount : (b'.opening :: (inside ++ b'.closing :: s)).count b.opening =
        (b'.opening :: (inside ++ b'.closing :: s)).count b.closing := by
      simp only [List.count_cons, List.count_append, hsame, hother, hother', ihi.2, ihs.2]
      omega
    exact ⟨Bracket.paired_cons_iff.mpr ⟨hcount.le, ihi.1.append hclosing⟩, hcount⟩

namespace Cursor

open Signature.Bracket

variable {b : Bracket} {depth : Nat} {left right : List Char} {c : Cursor}

theorem seek_eq_none_iff (hd : 0 < depth) : seek b depth left right = none ↔ b.Open depth left := by
  induction left generalizing depth right with
  | nil => exact iff_of_true rfl (open_nil_iff.mpr hd)
  | cons x left ih =>
    rw [seek, open_cons_iff hd]
    split
    · rename_i hzero
      rw [hzero]
      exact iff_of_false (by simp) fun h => Nat.lt_irrefl 0 (h [] List.nil_prefix)
    · rename_i hpos
      exact ih (Nat.pos_of_ne_zero hpos)

theorem seek_eq_some_iff (hd : 0 < depth) : seek b depth left right = some c ↔
    ∃ inside rest, left = inside ++ b.opening :: rest ∧ c = ⟨b.opening :: rest, inside.reverse ++ right⟩ ∧
      b.Open depth inside ∧ inside.count b.opening + 1 = inside.count b.closing + depth := by
  induction left generalizing depth right with
  | nil => simp [seek]
  | cons x left ih =>
    rw [seek]
    split
    · -- The search stops at once, and nothing lies inside.
      rename_i hzero
      obtain ⟨rfl, rfl⟩ := (depthLeft_eq_zero_iff hd).mp hzero
      constructor
      · intro h
        cases h
        exact ⟨[], left, rfl, rfl, open_nil_iff.mpr hd, rfl⟩
      · rintro ⟨inside, rest, hleft, rfl, hopen, -⟩
        cases inside with
        | nil =>
          cases hleft
          rfl
        | cons y inside =>
          obtain ⟨rfl, -⟩ := List.cons.inj hleft
          rw [open_cons_iff hd, hzero] at hopen
          exact absurd (hopen [] List.nil_prefix) (Nat.lt_irrefl 0)
    · rename_i hpos
      have hstep := depthLeft_add_count (b := b) (x := x) hd
      rw [ih (Nat.pos_of_ne_zero hpos)]
      constructor
      · rintro ⟨inside, rest, rfl, rfl, hopen, hcount⟩
        refine ⟨x :: inside, rest, rfl, by simp, (open_cons_iff hd).mpr hopen, ?_⟩
        simp only [List.count_cons]
        omega
      · rintro ⟨inside, rest, hleft, rfl, hopen, hcount⟩
        cases inside with
        | nil =>
          have hdepth : depth = 1 := by simpa using hcount.symm
          exact absurd ((depthLeft_eq_zero_iff hd).mpr ⟨(List.cons.inj hleft).1, hdepth⟩) hpos
        | cons y inside =>
          obtain ⟨rfl, rfl⟩ := List.cons.inj hleft
          refine ⟨inside, rest, rfl, by simp, (open_cons_iff hd).mp hopen, ?_⟩
          simp only [List.count_cons] at hcount
          omega

/-- A search from a closing bracket fails exactly if it has to close off every opening one on its way. -/
theorem seek_reverse_eq_none_iff {s : List Char} : seek b 1 s.reverse right = none ↔ b.Paired s := by
  rw [seek_eq_none_iff Nat.one_pos, open_reverse_iff]

theorem seek_reverse_eq_some_iff {s : List Char} : seek b 1 s.reverse right = some c ↔
    ∃ before inside, s = before ++ b.opening :: inside ∧ c = ⟨b.opening :: before.reverse, inside ++ right⟩ ∧
      b.Balanced inside := by
  rw [seek_eq_some_iff Nat.one_pos]
  constructor
  · rintro ⟨inside, rest, hs, rfl, hopen, hcount⟩
    refine ⟨rest.reverse, inside.reverse, by simpa using congrArg List.reverse hs, by simp, ?_, ?_⟩
    · rw [← open_reverse_iff, List.reverse_reverse]
      exact hopen
    · simpa using hcount
  · rintro ⟨before, inside, rfl, rfl, hpaired, hcount⟩
    exact ⟨inside.reverse, before.reverse, by simp, by simp, open_reverse_iff.mpr hpaired, by simpa using hcount⟩

end Cursor

end TagTooltips.Signature
