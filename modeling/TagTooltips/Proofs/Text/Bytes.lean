import Mathlib.Data.List.Basic
import TagTooltips.Proofs.Text.Measure
import TagTooltips.Text.Case

/-! Texts read by byte offsets. Every access is checked: it fails beyond the end of the text, inside
a character and below zero. An offset that is the length of a beginning of the text cuts it there, and
a byte of a character in ASCII is no part of any other character. -/

namespace TagTooltips.Text

inductive Fault
  | outOfRange
  | insideCharacter
  | underflow
  deriving DecidableEq, Repr

abbrev Checked := Except Fault

@[simp] theorem Checked.ok_bind {α β : Type} (a : α) (f : α → Checked β) : (Except.ok a >>= f) = f a := rfl

theorem Checked.bind_eq_ok_iff {α β : Type} {x : Checked α} {f : α → Checked β} {b : β} :
    (x >>= f) = .ok b ↔ ∃ a, x = .ok a ∧ f a = .ok b := by
  cases x with
  | ok a => exact ⟨fun h => ⟨a, rfl, h⟩, by rintro ⟨_, ⟨⟩, h⟩; exact h⟩
  | error fault => exact ⟨by rintro ⟨⟩, by rintro ⟨_, ⟨⟩, _⟩⟩

theorem Checked.mapM_of_ok {α β : Type} {f : α → Checked β} {g : α → β} {as : List α}
    (h : ∀ a ∈ as, f a = .ok (g a)) : as.mapM f = .ok (as.map g) := by
  induction as with
  | nil => rfl
  | cons a as ih =>
    rw [List.mapM_cons, h a List.mem_cons_self, ih fun a' ha => h a' (List.mem_cons_of_mem a ha)]
    rfl

def utf8 (s : List Char) : List UInt8 := s.flatMap String.utf8EncodeChar

def asciiByte (c : Char) : UInt8 := c.val.toUInt8

def byteAt (s : List Char) (i : Nat) : Checked UInt8 := ((utf8 s)[i]?).elim (.error .outOfRange) .ok

def splitAtByte (n : Nat) (s : List Char) : Checked (List Char × List Char) :=
  match splitAtByte? n s with
  | some parts => .ok parts
  | none => .error (if n ≤ byteLength s then .insideCharacter else .outOfRange)

def slice (start stop : Nat) (s : List Char) : Checked (List Char) := do
  let (upTo, _) ← splitAtByte stop s
  let (_, inner) ← splitAtByte start upTo
  return inner

def replaceBytes (start stop : Nat) (new s : List Char) : Checked (List Char) := do
  let (upTo, after) ← splitAtByte stop s
  let (before, _) ← splitAtByte start upTo
  return before ++ new ++ after

def minus? (a b : Nat) : Option Nat := if b ≤ a then some (a - b) else none

def minus (a b : Nat) : Checked Nat := (minus? a b).elim (.error .underflow) .ok

/-- The first offset from `n` on where the text can be cut. -/
def widen (s : List Char) (n : Nat) : Checked Nat :=
  if (splitAtByte? n s).isSome then .ok n
  else if n < byteLength s then widen s (n + 1)
  else .error .outOfRange
termination_by byteLength s - n

/-- The end of the character with the byte at an offset, and that of the text for all offsets beyond it. -/
def charEnd (s : List Char) (index : Nat) : Checked Nat := widen s (min (index + 1) (byteLength s))

def offsetOf? (pattern s : List Char) : Option Nat :=
  (indexOf? pattern s).map fun n => byteLength (s.take n)

section Measure

variable {a b s : List Char} {c : Char} {n : Nat}

theorem byteLength_cons (c : Char) (s : List Char) : byteLength (c :: s) = c.utf8Size + byteLength s := rfl

theorem byteLength_append (a b : List Char) : byteLength (a ++ b) = byteLength a + byteLength b :=
  measure_append a b

theorem byteLength_reverse (s : List Char) : byteLength s.reverse = byteLength s := by
  induction s with
  | nil => rfl
  | cons c s ih =>
    rw [List.reverse_cons, byteLength_append, ih, byteLength_cons]
    exact Nat.add_comm _ _

theorem byteLength_pos (h : s ≠ []) : 0 < byteLength s := by
  cases s with
  | nil => exact absurd rfl h
  | cons c s => exact Nat.add_pos_left c.utf8Size_pos _

theorem byteLength_lt_of_suffix (h : b <:+ s) (hne : b ≠ s) : byteLength b < byteLength s := by
  obtain ⟨a, rfl⟩ := h
  have ha : a ≠ [] := by
    rintro rfl
    exact hne rfl
  have := byteLength_pos ha
  rw [byteLength_append]
  omega

theorem utf8Size_of_ascii (hc : c.toNat < 0x80) : c.utf8Size = 1 := by
  rw [Char.utf8Size_eq_one_iff, UInt32.le_iff_toNat_le]
  exact Nat.le_of_lt_succ hc

theorem exists_eq_append_of_ascii (hs : ∀ c ∈ s, c.toNat < 0x80) (hn : n ≤ byteLength s) :
    ∃ a b, s = a ++ b ∧ byteLength a = n := by
  induction s generalizing n with
  | nil => exact ⟨[], [], rfl, (Nat.le_zero.mp hn).symm⟩
  | cons c s ih =>
    have hc : c.utf8Size = 1 := utf8Size_of_ascii (hs c List.mem_cons_self)
    cases n with
    | zero => exact ⟨[], c :: s, rfl, rfl⟩
    | succ n =>
      rw [byteLength_cons, hc] at hn
      obtain ⟨a, b, rfl, ha⟩ := ih (n := n) (fun c' hc' => hs c' (List.mem_cons_of_mem c hc')) (by omega)
      refine ⟨c :: a, b, rfl, ?_⟩
      rw [byteLength_cons, hc, ha, Nat.add_comm]

theorem length_utf8 (s : List Char) : (utf8 s).length = byteLength s := by
  induction s with
  | nil => rfl
  | cons c s ih =>
    rw [utf8, List.flatMap_cons, List.length_append, String.length_utf8EncodeChar, byteLength_cons, ← ih,
      utf8]

theorem covering_of_byteLength_le (h : byteLength s ≤ n) : covering Char.utf8Size n s = s :=
  covering_of_measure_le Char.utf8Size_pos h

theorem covering_byteLength (a b : List Char) : covering Char.utf8Size (byteLength a) (a ++ b) = a :=
  covering_measure Char.utf8Size_pos a b

theorem covering_succ (h : splitAtByte? n s = none) :
    covering Char.utf8Size (n + 1) s = covering Char.utf8Size n s := by
  induction s generalizing n with
  | nil => rfl
  | cons c s ih =>
    have hn : n ≠ 0 := by
      rintro rfl
      rw [splitAtByte?, if_pos rfl] at h
      cases h
    rw [splitAtByte?, if_neg hn] at h
    rw [covering, covering, if_neg (Nat.succ_ne_zero n), if_neg hn]
    split at h
    · rw [Nat.sub_eq_zero_of_le (by omega), Nat.sub_eq_zero_of_le (by omega)]
    · rw [Nat.sub_add_comm (by omega), ih (Option.map_eq_none_iff.mp h)]

end Measure

section Split

variable {a b s t : List Char} {n start stop index : Nat}

theorem splitAtByte?_byteLength (a b : List Char) : splitAtByte? (byteLength a) (a ++ b) = some (a, b) := by
  induction a with
  | nil => cases b <;> rfl
  | cons c a ih =>
    have := c.utf8Size_pos
    rw [List.cons_append, splitAtByte?, byteLength_cons, if_neg (by omega), if_neg (by omega),
      Nat.add_sub_cancel_left, ih]
    rfl

theorem betweenBytes?_append (a b t : List Char) :
    betweenBytes? (byteLength a) (byteLength (a ++ b)) (a ++ b ++ t) = some b := by
  have hle : byteLength a ≤ byteLength (a ++ b) := by
    rw [byteLength_append]
    exact Nat.le_add_right _ _
  rw [betweenBytes?, if_pos hle, splitAtByte?_byteLength]
  simp only [Option.bind_eq_bind, Option.bind_some, splitAtByte?_byteLength]

theorem eq_append_of_splitAtByte? (h : splitAtByte? n s = some (a, b)) : s = a ++ b ∧ n = byteLength a := by
  induction s generalizing n a with
  | nil =>
    rw [splitAtByte?, Option.ite_none_right_eq_some] at h
    obtain ⟨rfl, h⟩ := h
    cases h
    exact ⟨rfl, rfl⟩
  | cons c s ih =>
    rw [splitAtByte?] at h
    split at h
    · cases h
      exact ⟨rfl, by assumption⟩
    · rw [Option.ite_none_left_eq_some] at h
      obtain ⟨hn, h⟩ := h
      obtain ⟨⟨a', b'⟩, hrest, hpair⟩ := Option.map_eq_some_iff.mp h
      cases hpair
      obtain ⟨rfl, hlen⟩ := ih hrest
      refine ⟨rfl, ?_⟩
      rw [byteLength_cons]
      omega

theorem betweenBytes?_eq_some_iff : betweenBytes? start stop s = some b ↔
    ∃ a t, s = a ++ b ++ t ∧ start = byteLength a ∧ stop = byteLength (a ++ b) := by
  constructor
  · intro h
    rw [betweenBytes?, Option.ite_none_right_eq_some] at h
    obtain ⟨⟨upTo, t⟩, hstop, h⟩ := Option.bind_eq_some_iff.mp h.2
    obtain ⟨⟨a, inner⟩, hstart, h⟩ := Option.bind_eq_some_iff.mp h
    cases h
    obtain ⟨rfl, rfl⟩ := eq_append_of_splitAtByte? hstop
    obtain ⟨rfl, rfl⟩ := eq_append_of_splitAtByte? hstart
    exact ⟨a, t, rfl, rfl, rfl⟩
  · rintro ⟨a, t, rfl, rfl, rfl⟩
    exact betweenBytes?_append a b t

theorem splitAtByte_eq_ok_iff : splitAtByte n s = .ok (a, b) ↔ s = a ++ b ∧ n = byteLength a := by
  rw [splitAtByte]
  constructor
  · intro h
    split at h
    · cases h
      exact eq_append_of_splitAtByte? (by assumption)
    · cases h
  · rintro ⟨rfl, rfl⟩
    rw [splitAtByte?_byteLength]

theorem splitAtByte_byteLength (a b : List Char) : splitAtByte (byteLength a) (a ++ b) = .ok (a, b) :=
  splitAtByte_eq_ok_iff.mpr ⟨rfl, rfl⟩

theorem slice_eq_ok_iff : slice start stop s = .ok b ↔
    ∃ a t, s = a ++ b ++ t ∧ start = byteLength a ∧ stop = byteLength (a ++ b) := by
  constructor
  · intro h
    obtain ⟨⟨upTo, t⟩, hstop, h⟩ := Checked.bind_eq_ok_iff.mp h
    obtain ⟨⟨a, inner⟩, hstart, h⟩ := Checked.bind_eq_ok_iff.mp h
    cases h
    obtain ⟨rfl, rfl⟩ := splitAtByte_eq_ok_iff.mp hstop
    obtain ⟨rfl, rfl⟩ := splitAtByte_eq_ok_iff.mp hstart
    exact ⟨a, t, rfl, rfl, rfl⟩
  · rintro ⟨a, t, rfl, rfl, rfl⟩
    simp only [slice, splitAtByte_byteLength, Checked.ok_bind]
    rfl

example : slice 0 1 ['é'] = .error .insideCharacter := rfl

theorem slice_append (a b t : List Char) :
    slice (byteLength a) (byteLength (a ++ b)) (a ++ b ++ t) = .ok b :=
  slice_eq_ok_iff.mpr ⟨a, t, rfl, rfl, rfl⟩

theorem replaceBytes_append (a b t new : List Char) :
    replaceBytes (byteLength a) (byteLength (a ++ b)) new (a ++ b ++ t) = .ok (a ++ new ++ t) := by
  simp only [replaceBytes, splitAtByte_byteLength, Checked.ok_bind]
  rfl

theorem minus_of_le {a b : Nat} (h : b ≤ a) : minus a b = .ok (a - b) := by
  rw [minus, minus?, if_pos h]
  rfl

theorem add_of_minus {a b n : Nat} (h : minus a b = .ok n) : n + b = a := by
  rw [minus, minus?] at h
  split at h
  · cases h
    omega
  · cases h

theorem widen_of_le (h : n ≤ byteLength s) : widen s n = .ok (byteLength (covering Char.utf8Size n s)) := by
  fun_induction widen s n with
  | case1 n hsplit =>
    obtain ⟨⟨a, b⟩, hsplit⟩ := Option.isSome_iff_exists.mp hsplit
    obtain ⟨rfl, rfl⟩ := eq_append_of_splitAtByte? hsplit
    rw [covering_byteLength]
  | case2 n hsplit hlt ih =>
    rw [ih hlt, covering_succ (by simpa using hsplit)]
  | case3 n hsplit hge =>
    -- The end of the text is never inside a character.
    obtain rfl : n = byteLength s := by omega
    have hend := splitAtByte?_byteLength s []
    rw [List.append_nil] at hend
    simp [hend] at hsplit

theorem charEnd_eq (s : List Char) (index : Nat) :
    charEnd s index = .ok (byteLength (covering Char.utf8Size (index + 1) s)) := by
  rw [charEnd, widen_of_le (Nat.min_le_right _ _)]
  rcases Nat.le_total (index + 1) (byteLength s) with hle | hge
  · rw [Nat.min_eq_left hle]
  · rw [Nat.min_eq_right hge, covering_of_byteLength_le hge, covering_of_byteLength_le (Nat.le_refl _)]

end Split

section Find

variable {s pattern : List Char} {m n : Nat}

theorem utf8Size_toLower (c : Char) : c.toLower.utf8Size = c.utf8Size := by
  by_cases hcapital : c.val ≥ 'A'.val ∧ c.val ≤ 'Z'.val
  · have hlower : c.toLower.val = c.val + ('a'.val - 'A'.val) := congrArg Char.val (dif_pos hcapital)
    have hgap : ('a'.val - 'A'.val).toNat = 32 := rfl
    have hle : c.val.toNat ≤ 90 := UInt32.le_iff_toNat_le.mp hcapital.2
    have hsize : c.utf8Size = 1 := by
      rw [Char.utf8Size_eq_one_iff, UInt32.le_iff_toNat_le]
      exact Nat.le_trans hle (by decide)
    have hsmall : c.toLower.val.toNat ≤ 127 := by
      rw [hlower, UInt32.toNat_add]
      omega
    rw [hsize, Char.utf8Size_eq_one_iff, UInt32.le_iff_toNat_le]
    exact hsmall
  · exact congrArg Char.utf8Size (dif_neg hcapital)

theorem byteLength_foldCase (s : List Char) : byteLength (foldCase s) = byteLength s := by
  induction s with
  | nil => rfl
  | cons c s ih =>
    rw [foldCase, List.map_cons, byteLength_cons, byteLength_cons, utf8Size_toLower, ← ih, foldCase]

theorem byteLength_take_foldCase (n : Nat) (s : List Char) :
    byteLength ((foldCase s).take n) = byteLength (s.take n) := by
  rw [foldCase, ← List.map_take]
  exact byteLength_foldCase _

theorem take_eq_append (h : m ≤ n) : s.take n = s.take m ++ (s.drop m).take (n - m) := by
  rw [← List.take_add, Nat.add_sub_cancel' h]

theorem byteLength_take_lt_iff (hm : m ≤ s.length) (hn : n ≤ s.length) :
    byteLength (s.take m) < byteLength (s.take n) ↔ m < n := by
  rcases Nat.lt_or_ge m n with hlt | hge
  · have hne : (s.drop m).take (n - m) ≠ [] := by
      refine List.ne_nil_of_length_pos ?_
      rw [List.length_take, List.length_drop]
      omega
    have := byteLength_pos hne
    rw [take_eq_append (Nat.le_of_lt hlt), byteLength_append]
    exact iff_of_true (by omega) hlt
  · rw [take_eq_append hge, byteLength_append]
    exact iff_of_false (by omega) (Nat.not_lt_of_le hge)

theorem slice_take (h : m ≤ n) :
    slice (byteLength (s.take m)) (byteLength (s.take n)) s = .ok ((s.take n).drop m) := by
  have hslice := slice_append (s.take m) ((s.drop m).take (n - m)) (s.drop n)
  rwa [← take_eq_append h, List.take_append_drop, ← List.drop_take] at hslice

theorem prefix_of_indexOf? (h : indexOf? pattern s = some n) : pattern <+: s.drop n := by
  induction s generalizing n with
  | nil =>
    rw [indexOf?, Option.ite_none_right_eq_some] at h
    rw [List.isEmpty_iff.mp h.1]
    exact List.nil_prefix
  | cons c s ih =>
    rw [indexOf?] at h
    split at h
    · cases h
      exact List.isPrefixOf_iff_prefix.mp (by assumption)
    · obtain ⟨k, hk, rfl⟩ := Option.map_eq_some_iff.mp h
      exact ih hk

theorem length_le_of_indexOf? (hpattern : pattern ≠ []) (h : indexOf? pattern s = some n) :
    n + pattern.length ≤ s.length := by
  have hlength := (prefix_of_indexOf? h).length_le
  have hpos := List.length_pos_of_ne_nil hpattern
  rw [List.length_drop] at hlength
  omega

end Find

section Bytes

variable {c x : Char} {b : UInt8} {k : Nat}

theorem le_of_mem_utf8EncodeChar (hc : c.utf8Size ≠ 1) (hb : b ∈ String.utf8EncodeChar c) :
    0x80 ≤ b.toNat := by
  have hv : 0x7f < c.val.toNat := by
    rw [ne_eq, Char.utf8Size_eq_one_iff, UInt32.le_iff_toNat_le] at hc
    exact Nat.lt_of_not_le hc
  unfold String.utf8EncodeChar at hb
  dsimp only at hb
  rw [if_neg (by omega)] at hb
  split at hb
  · simp only [List.mem_cons, List.not_mem_nil, or_false] at hb
    rcases hb with rfl | rfl <;> rw [UInt8.toNat_ofNat'] <;> omega
  · split at hb
    · simp only [List.mem_cons, List.not_mem_nil, or_false] at hb
      rcases hb with rfl | rfl | rfl <;> rw [UInt8.toNat_ofNat'] <;> omega
    · simp only [List.mem_cons, List.not_mem_nil, or_false] at hb
      rcases hb with rfl | rfl | rfl | rfl <;> rw [UInt8.toNat_ofNat'] <;> omega

theorem toNat_asciiByte (hx : x.utf8Size = 1) : (asciiByte x).toNat = x.val.toNat ∧ x.val.toNat < 0x80 := by
  rw [Char.utf8Size_eq_one_iff, UInt32.le_iff_toNat_le] at hx
  have hlt : x.val.toNat < 0x80 := Nat.lt_succ_of_le hx
  rw [asciiByte, UInt32.toNat_toUInt8]
  exact ⟨Nat.mod_eq_of_lt (by omega), hlt⟩

theorem eq_asciiByte_iff (hx : x.utf8Size = 1) (hb : b ∈ String.utf8EncodeChar c) :
    b = asciiByte x ↔ c = x := by
  obtain ⟨hvalue, hlt⟩ := toNat_asciiByte hx
  by_cases hc : c.utf8Size = 1
  · obtain rfl : b = asciiByte c := by
      rwa [String.utf8EncodeChar_eq_singleton hc, List.mem_singleton] at hb
    refine ⟨fun h => ?_, congrArg asciiByte⟩
    have hsame := congrArg UInt8.toNat h
    rw [(toNat_asciiByte hc).1, hvalue] at hsame
    exact Char.ext (UInt32.toNat_inj.mp hsame)
  · have hle := le_of_mem_utf8EncodeChar hc hb
    refine ⟨?_, ?_⟩
    · rintro rfl
      omega
    · rintro rfl
      exact absurd hx hc

theorem exists_byteAt (a t : List Char) (hk : k < c.utf8Size) :
    ∃ b, byteAt (a ++ c :: t) (byteLength a + k) = .ok b ∧
      ∀ x : Char, x.utf8Size = 1 → (b = asciiByte x ↔ c = x) := by
  have hlen : k < (String.utf8EncodeChar c).length := by rwa [String.length_utf8EncodeChar]
  have hbytes : utf8 (a ++ c :: t) = utf8 a ++ (String.utf8EncodeChar c ++ utf8 t) := by
    simp only [utf8, List.flatMap_append, List.flatMap_cons]
  refine ⟨(String.utf8EncodeChar c)[k], ?_, fun x hx => eq_asciiByte_iff hx (List.getElem_mem hlen)⟩
  rw [byteAt, hbytes, ← length_utf8, List.getElem?_append_right (Nat.le_add_right _ _),
    Nat.add_sub_cancel_left, List.getElem?_append_left hlen, List.getElem?_eq_getElem hlen]
  rfl

end Bytes

end TagTooltips.Text
