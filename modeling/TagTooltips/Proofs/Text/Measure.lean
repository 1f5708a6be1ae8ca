import TagTooltips.Text.Measure

/-! Beginnings of a text by measure. Where every character counts for something, a cut that is not below
the measure of a beginning keeps all of it, and one that is not above it keeps nothing else. -/

namespace TagTooltips.Text

variable {size : Char → Nat} {n : Nat} {a b s : List Char}

theorem measure_append (a b : List Char) : measure size (a ++ b) = measure size a + measure size b := by
  induction a with
  | nil => exact (Nat.zero_add _).symm
  | cons c a ih => rw [List.cons_append, measure, measure, ih, Nat.add_assoc]

theorem covering_zero (s : List Char) : covering size 0 s = [] := by
  cases s with
  | nil => rfl
  | cons c s => exact if_pos rfl

theorem covering_prefix (n : Nat) (s : List Char) : covering size n s <+: s := by
  induction s generalizing n with
  | nil => exact List.prefix_rfl
  | cons c s ih =>
    rw [covering]
    split
    · exact List.nil_prefix
    · exact List.cons_prefix_cons.mpr ⟨rfl, ih _⟩

theorem covering_append_of_le (h : n ≤ measure size a) : covering size n (a ++ b) = covering size n a := by
  induction a generalizing n with
  | nil =>
    obtain rfl : n = 0 := Nat.le_zero.mp h
    exact covering_zero b
  | cons c a ih =>
    rw [List.cons_append, covering, covering]
    split
    · rfl
    · rw [measure] at h
      rw [ih (by omega)]

theorem covering_append_of_ge (hsize : ∀ c, 0 < size c) (h : measure size a ≤ n) :
    covering size n (a ++ b) = a ++ covering size (n - measure size a) b := by
  induction a generalizing n with
  | nil => rfl
  | cons c a ih =>
    have hc := hsize c
    rw [measure] at h
    rw [List.cons_append, covering, if_neg (by omega), ih (by omega), measure, Nat.sub_sub, List.cons_append]

theorem covering_measure (hsize : ∀ c, 0 < size c) (a b : List Char) :
    covering size (measure size a) (a ++ b) = a := by
  rw [covering_append_of_ge hsize (Nat.le_refl _), Nat.sub_self, covering_zero, List.append_nil]

theorem covering_of_measure_le (hsize : ∀ c, 0 < size c) (h : measure size s ≤ n) : covering size n s = s := by
  have hkeep := covering_append_of_ge (b := []) hsize h
  rwa [List.append_nil, covering, List.append_nil] at hkeep

theorem le_measure_covering (h : n ≤ measure size s) : n ≤ measure size (covering size n s) := by
  induction s generalizing n with
  | nil => exact h
  | cons c s ih =>
    rw [covering]
    split
    · rename_i hn
      rw [hn]
      exact Nat.zero_le _
    · rw [measure] at h ⊢
      have hrest := ih (n := n - size c) (by omega)
      omega

theorem covering_prefix_of_le (h : a <+: s) (hn : n ≤ measure size a) : covering size n s <+: a := by
  obtain ⟨b, rfl⟩ := h
  rw [covering_append_of_le hn]
  exact covering_prefix n a

/-- The number of characters that begin before an offset. -/
def begunBefore (size : Char → Nat) (n : Nat) (s : List Char) : Nat :=
  (List.range s.length).countP fun k => measure size (s.take k) < n

theorem length_covering (n : Nat) (s : List Char) : (covering size n s).length = begunBefore size n s := by
  induction s generalizing n with
  | nil => rfl
  | cons c s ih =>
    -- The first character begins at zero, and the others as far before what is left of the offset.
    have hshift (k : Nat) : measure size ((c :: s).take (k + 1)) < n ↔ measure size (s.take k) < n - size c := by
      rw [List.take_succ_cons, measure]
      omega
    rw [covering, begunBefore, List.length_cons, List.range_succ_eq_map, List.countP_cons, List.countP_map]
    simp only [Function.comp_def, Nat.succ_eq_add_one, hshift, List.take_zero, measure]
    split
    · rename_i hn
      simp [hn]
    · rename_i hn
      rw [List.length_cons, ih, begunBefore, if_pos (by simpa using Nat.pos_of_ne_zero hn)]

theorem exists_covering_eq_append (hsize : ∀ c, 0 < size c) (t : List Char) (hle : measure size a ≤ n)
    (hge : n ≤ measure size (a ++ b)) :
    ∃ b₁ b₂, b = b₁ ++ b₂ ∧ covering size n (a ++ b ++ t) = a ++ b₁ := by
  obtain ⟨b₂, hb⟩ : covering size (n - measure size a) b <+: b := covering_prefix _ b
  refine ⟨_, b₂, hb.symm, ?_⟩
  rw [covering_append_of_le hge, covering_append_of_ge hsize hle]

theorem utf16Size_pos (c : Char) : 0 < utf16Size c := by
  unfold utf16Size
  split <;> decide

end TagTooltips.Text
