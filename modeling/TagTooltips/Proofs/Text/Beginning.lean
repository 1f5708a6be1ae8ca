import TagTooltips.Proofs.Text.Bytes

/-! The beginning of a text that ends at a byte offset. An offset inside a character takes all of it, and one behind
the end takes the whole text. Offsets are machine words; the greatest of them has no successor and stands for its
own. -/

namespace TagTooltips.Text

variable {a b s p : List Char} {c : Char} {n index : Nat}

/-- A beginning of a text ends with the character that has the byte at an offset, or with the last character if the
offset lies behind them all. -/
def EndsAt (s : List Char) (index : Nat) (p : List Char) : Prop :=
  s = [] ∧ p = [] ∨ ∃ a c b, s = a ++ c :: b ∧ p = a ++ [c] ∧
    byteLength a ≤ min index (byteLength s - 1) ∧ min index (byteLength s - 1) < byteLength (a ++ [c])

theorem covering_inside (hle : byteLength a ≤ n) (hlt : n < byteLength (a ++ [c])) :
    covering Char.utf8Size (n + 1) (a ++ c :: b) = a ++ [c] := by
  have hkeep : covering Char.utf8Size (n + 1) (a ++ c :: b) =
      a ++ covering Char.utf8Size (n + 1 - byteLength a) (c :: b) :=
    covering_append_of_ge Char.utf8Size_pos (Nat.le_succ_of_le hle)
  have hlength : byteLength (a ++ [c]) = byteLength a + (c.utf8Size + 0) := byteLength_append a [c]
  have hrest : n + 1 - byteLength a - c.utf8Size = 0 := by omega
  rw [hkeep, covering, if_neg (by omega), hrest, covering_zero]

theorem exists_char_at (h : n < byteLength s) :
    ∃ a c b, s = a ++ c :: b ∧ byteLength a ≤ n ∧ n < byteLength (a ++ [c]) := by
  induction s generalizing n with
  | nil => exact absurd h (Nat.not_lt_zero n)
  | cons x s ih =>
    rw [byteLength_cons] at h
    by_cases hn : n < x.utf8Size
    · exact ⟨[], x, s, rfl, Nat.zero_le n, hn⟩
    · obtain ⟨a, c, b, rfl, hle, hlt⟩ := ih (n := n - x.utf8Size) (by omega)
      refine ⟨x :: a, c, b, rfl, ?_, ?_⟩
      · rw [byteLength_cons]
        omega
      · rw [List.cons_append, byteLength_cons]
        omega

theorem covering_min (s : List Char) (index : Nat) :
    covering Char.utf8Size (min index (byteLength s - 1) + 1) s = covering Char.utf8Size (index + 1) s := by
  rcases Nat.le_total index (byteLength s - 1) with hle | hge
  · rw [Nat.min_eq_left hle]
  · rw [Nat.min_eq_right hge, covering_of_byteLength_le (by omega), covering_of_byteLength_le (by omega)]

theorem endsAt_iff : EndsAt s index p ↔ p = covering Char.utf8Size (index + 1) s := by
  constructor
  · rintro (⟨rfl, rfl⟩ | ⟨a, c, b, rfl, rfl, hle, hlt⟩)
    · rfl
    · rw [← covering_min, covering_inside hle hlt]
  · rintro rfl
    by_cases hs : s = []
    · exact .inl ⟨hs, by rw [hs, covering]⟩
    · have hpos := byteLength_pos hs
      have hbyte : min index (byteLength s - 1) < byteLength s :=
        Nat.lt_of_le_of_lt (Nat.min_le_right _ _) (Nat.sub_one_lt (Nat.ne_of_gt hpos))
      obtain ⟨a, c, b, hsplit, hle, hlt⟩ := exists_char_at hbyte
      refine .inr ⟨a, c, b, hsplit, ?_, hle, hlt⟩
      rw [← covering_min]
      generalize min index (byteLength s - 1) = n at hle hlt ⊢
      rw [hsplit, covering_inside hle hlt]

theorem EndsAt.append (h : EndsAt s index p) (hs : s ≠ []) (rest : List Char) :
    EndsAt (p ++ rest) (min index (byteLength s - 1)) p := by
  obtain ⟨hnil, -⟩ | ⟨a, c, b, -, rfl, hle, hlt⟩ := h
  · exact absurd hnil hs
  · have hlength : byteLength (a ++ [c] ++ rest) = byteLength (a ++ [c]) + byteLength rest :=
      byteLength_append (a ++ [c]) rest
    refine .inr ⟨a, c, rest, by simp, rfl, ?_, ?_⟩ <;> omega

def nextWord (i : UInt64) : UInt64 := if i + 1 = 0 then i else i + 1

theorem toNat_nextWord (i : UInt64) : (nextWord i).toNat = min (i.toNat + 1) (UInt64.size - 1) := by
  have hlt := i.toNat_lt_size
  have hsize : UInt64.size = 2 ^ 64 := rfl
  have hsum : (i + 1).toNat = (i.toNat + 1) % UInt64.size := UInt64.toNat_add i 1
  have hzero : i + 1 = 0 ↔ (i + 1).toNat = 0 := UInt64.toNat_inj.symm
  rw [hsize] at hlt hsum ⊢
  unfold nextWord
  split
  · rename_i hi
    rw [hzero, hsum] at hi
    omega
  · rename_i hi
    rw [hzero, hsum] at hi
    omega

def charEndAtWord (s : List Char) (index : UInt64) : Checked Nat :=
  widen s (min (nextWord index).toNat (byteLength s))

theorem charEndAtWord_eq (hs : byteLength s < UInt64.size) (index : UInt64) :
    charEndAtWord s index = charEnd s index.toNat := by
  rw [charEndAtWord, charEnd, toNat_nextWord, Nat.min_assoc, Nat.min_eq_right (Nat.le_sub_one_of_lt hs)]

end TagTooltips.Text
