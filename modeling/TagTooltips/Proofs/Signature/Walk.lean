import TagTooltips.Proofs.Signature.Nesting
import TagTooltips.Signature.Segment

/-! How a cursor walks, one step at a time. A scan loses nothing of the text that it walks over. -/

namespace TagTooltips.Signature

namespace Bracket

variable {b : Bracket} {depth : Nat} {x : Char}

theorem opening_ne_closing (b b' : Bracket) : b.opening ≠ b'.closing := by
  cases b <;> cases b' <;> decide

theorem opening_ne_dot (b : Bracket) : b.opening ≠ '.' := by cases b <;> decide

theorem closing_injective : Function.Injective closing := by
  intro b b' h
  simpa using congrArg closed? h

theorem eq_opening_of_depthLeft (hd : 0 < depth) (h : b.depthLeft depth x = 0) : x = b.opening := by
  unfold depthLeft at h
  split at h
  · omega
  · split at h
    · assumption
    · omega

end Bracket

namespace Cursor

variable {b : Bracket} {order : List Bracket} {depth : Nat} {x : Char} {left right : List Char} {c d : Cursor}

theorem text_append (x : Char) (left right post : List Char) :
    text ⟨x :: left, right⟩ ++ post = left.reverse ++ x :: (right ++ post) := by
  rw [text, List.reverse_cons, List.append_assoc, List.append_assoc, List.singleton_append]

theorem exists_left_of_seek (hd : 0 < depth) (h : seek b depth left right = some c) :
    ∃ rest, c.left = b.opening :: rest := by
  induction left generalizing depth right with
  | nil => cases h
  | cons x left ih =>
    rw [seek] at h
    split at h
    · rename_i hx
      cases h
      exact ⟨left, by rw [Bracket.eq_opening_of_depthLeft hd hx]⟩
    · rename_i hx
      exact ih (Nat.pos_of_ne_zero hx) h

theorem text_of_seek (h : seek b depth left right = some c) : c.text = left.reverse ++ right := by
  induction left generalizing depth right with
  | nil => cases h
  | cons x left ih =>
    rw [List.reverse_cons, List.append_assoc, List.singleton_append]
    rw [seek] at h
    split at h
    · cases h
      simp [text]
    · exact ih h

theorem skip_of_ne (h : x ≠ b.closing) : skip b ⟨x :: left, right⟩ = some ⟨x :: left, right⟩ := by
  simp [skip, h]

@[simp] theorem skip_closing :
    skip b ⟨b.closing :: left, right⟩ = seek b 1 left (b.closing :: right) := by
  simp [skip]

theorem of_skip (hc : c.left ≠ []) (h : c.skip b = some d) : d.text = c.text ∧ d.left ≠ [] := by
  obtain ⟨left, right⟩ := c
  obtain ⟨x, left, rfl⟩ := List.exists_cons_of_ne_nil hc
  simp only [skip] at h
  split at h
  · obtain ⟨rest, hrest⟩ := exists_left_of_seek Nat.one_pos h
    refine ⟨?_, hrest ▸ List.cons_ne_nil _ _⟩
    rw [text_of_seek h, text, List.reverse_cons, List.append_assoc, List.singleton_append]
  · cases h
    exact ⟨rfl, hc⟩

theorem skipAll_cons (c : Cursor) :
    c.skipAll (b :: order) = (c.skip b).bind fun d => d.skipAll order := rfl

@[simp] theorem skipAll_nil : skipAll order ⟨[], right⟩ = some ⟨[], right⟩ := by
  induction order with
  | nil => rfl
  | cons b order ih => exact ih

theorem skipAll_of_ne (h : ∀ b ∈ order, x ≠ b.closing) :
    skipAll order ⟨x :: left, right⟩ = some ⟨x :: left, right⟩ := by
  induction order with
  | nil => rfl
  | cons b order ih =>
    rw [skipAll_cons, skip_of_ne (h b List.mem_cons_self)]
    exact ih fun b' hb => h b' (List.mem_cons_of_mem b hb)

theorem skipAll_closing (hb : b ∈ order) :
    skipAll order ⟨b.closing :: left, right⟩ = seek b 1 left (b.closing :: right) := by
  induction order with
  | nil => cases hb
  | cons b' order ih =>
    by_cases h : b = b'
    · subst h
      rw [skipAll_cons, skip_closing]
      cases hseek : seek b 1 left (b.closing :: right) with
      | none => rfl
      | some c =>
        -- The search ended on an opening bracket, on which no later family acts.
        obtain ⟨rest, hrest⟩ := exists_left_of_seek Nat.one_pos hseek
        obtain ⟨_, _⟩ := c
        subst hrest
        exact skipAll_of_ne fun b' _ => b.opening_ne_closing b'
    · rw [skipAll_cons, skip_of_ne fun heq => h (Bracket.closing_injective heq)]
      exact ih (List.mem_of_ne_of_mem h hb)

/-- Wherever a cursor stands, no more than one family acts, so it does not matter in which order they are tried. -/
theorem skipAll_of_mem (horder : ∀ b, b ∈ order) (c : Cursor) : c.skipAll order = c.skipAll Bracket.all := by
  obtain ⟨_ | ⟨x, left⟩, right⟩ := c
  · rw [skipAll_nil, skipAll_nil]
  · by_cases hx : ∃ b : Bracket, x = b.closing
    · obtain ⟨b, rfl⟩ := hx
      rw [skipAll_closing (horder b), skipAll_closing (Bracket.mem_all b)]
    · rw [skipAll_of_ne fun b _ hb => hx ⟨b, hb⟩, skipAll_of_ne fun b _ hb => hx ⟨b, hb⟩]

theorem of_skipAll (hc : c.left ≠ []) (h : c.skipAll order = some d) : d.text = c.text ∧ d.left ≠ [] := by
  induction order generalizing c with
  | nil =>
    cases h
    exact ⟨rfl, hc⟩
  | cons b order ih =>
    obtain ⟨e, he, hd⟩ := Option.bind_eq_some_iff.mp ((skipAll_cons c).symm.trans h)
    obtain ⟨htext, hleft⟩ := of_skip hc he
    exact htext ▸ ih hleft hd

end Cursor

open Cursor

variable {order : List Bracket} {x : Char} {left right : List Char} {c : Cursor}

theorem cutFrom_of_skipAll_nil (h : c.skipAll order = some ⟨[], right⟩) : cutFrom order c = .whole := by
  rw [cutFrom]
  split <;> simp_all

theorem cutFrom_nil : cutFrom order ⟨[], right⟩ = .whole := cutFrom_of_skipAll_nil skipAll_nil

theorem cutFrom_of_skipAll (h : c.skipAll order = some ⟨x :: left, right⟩) :
    cutFrom order c = if x = '.' then .dot left.reverse right else cutFrom order ⟨left, x :: right⟩ := by
  rw [cutFrom]
  split <;> simp_all

theorem cutFrom_of_skipAll_eq_none (h : c.skipAll order = none) : cutFrom order c = .unbalanced := by
  rw [cutFrom]
  split <;> simp_all

theorem cutFrom_of_mem (horder : ∀ b, b ∈ order) (c : Cursor) : cutFrom order c = cutFrom Bracket.all c := by
  fun_induction cutFrom order c with
  | case1 c hskip =>
    rw [skipAll_of_mem horder] at hskip
    rw [cutFrom_of_skipAll_eq_none hskip]
  | case2 c right hskip =>
    rw [skipAll_of_mem horder] at hskip
    rw [cutFrom_of_skipAll_nil hskip]
  | case3 c left right hskip =>
    rw [skipAll_of_mem horder] at hskip
    rw [cutFrom_of_skipAll hskip, if_pos rfl]
  | case4 c x left right hskip hdot ih =>
    rw [skipAll_of_mem horder] at hskip
    rw [cutFrom_of_skipAll hskip, if_neg hdot, ih]

end TagTooltips.Signature
