import Mathlib.Data.List.Count
import Mathlib.Order.Bounds.Basic
import TagTooltips.Proofs.Signature.Bytes

/-! The partner of a closing bracket in any bytes, be they a text or not. A walk to the left keeps the number of
groups that are still open; it stops at the nearest place from which on as many brackets of the family open as
close. -/

namespace TagTooltips.Signature

open Text

namespace Bytes

def readByte (bytes : List UInt8) (i : Nat) : Checked UInt8 := (bytes[i]?).elim (.error .outOfRange) .ok

/-- Walk left from before an offset until `depth` open groups are closed off. -/
def walk (opening closing : UInt8) (bytes : List UInt8) : Nat → Nat → Checked (Option Nat)
  | 0, i => .ok (some i)
  | _ + 1, 0 => .ok none
  | depth + 1, i + 1 => do
    let x ← readByte bytes i
    if x = closing then walk opening closing bytes (depth + 2) i
    else if x = opening then do
      let depth ← minus (depth + 1) 1
      walk opening closing bytes depth i
    else walk opening closing bytes (depth + 1) i

def partner (opening closing : UInt8) (bytes : List UInt8) (i : Nat) : Checked (Option Nat) := do
  let x ← readByte bytes i
  if x = closing then walk opening closing bytes 1 i else return some i

def depthLeft (opening closing : UInt8) (depth : Nat) (x : UInt8) : Nat :=
  if x = closing then depth + 1 else if x = opening then depth - 1 else depth

variable {opening closing x : UInt8} {bytes : List UInt8} {depth i j k : Nat} {b : Bracket} {s : List Char}

theorem readByte_of_getElem? (hx : bytes[i]? = some x) : readByte bytes i = .ok x := by
  rw [readByte, hx, Option.elim_some]

theorem walk_succ (hx : bytes[i]? = some x) : walk opening closing bytes (depth + 1) (i + 1) =
    walk opening closing bytes (depthLeft opening closing (depth + 1) x) i := by
  rw [walk, readByte_of_getElem? hx, Checked.ok_bind, depthLeft]
  split
  · rfl
  · split
    · rw [minus_of_le (Nat.le_add_left 1 depth), Checked.ok_bind]
    · rfl

theorem partner_of_closing (hi : bytes[i]? = some closing) :
    partner opening closing bytes i = walk opening closing bytes 1 i := by
  rw [partner, readByte_of_getElem? hi, Checked.ok_bind, if_pos rfl]

theorem extract_self : bytes.extract i i = [] := by rw [List.extract_eq_take_drop, Nat.sub_self, List.take_zero]

theorem extract_succ (hx : bytes[i]? = some x) (hk : k ≤ i) :
    bytes.extract k (i + 1) = bytes.extract k i ++ [x] := by
  have hlast : (bytes.drop k)[i - k]? = some x := by rw [List.getElem?_drop, Nat.add_sub_cancel' hk, hx]
  rw [List.extract_eq_take_drop, List.extract_eq_take_drop, Nat.sub_add_comm hk, List.take_add_one, hlast,
    Option.toList_some]

/-- Between two offsets not all of `depth` groups are closed off. -/
def Pending (opening closing : UInt8) (bytes : List UInt8) (depth k i : Nat) : Prop :=
  (bytes.extract k i).count opening < (bytes.extract k i).count closing + depth

/-- Between two offsets `depth` groups are closed off, and none besides. -/
def Settled (opening closing : UInt8) (bytes : List UInt8) (depth k i : Nat) : Prop :=
  (bytes.extract k i).count opening = (bytes.extract k i).count closing + depth

/-- What a walk has found: the nearest offset at which `depth` groups are settled, and `none` if they are pending
at every one. -/
def Finds (opening closing : UInt8) (bytes : List UInt8) (depth i : Nat) : Option Nat → Prop
  | none => ∀ k ≤ i, Pending opening closing bytes depth k i
  | some j => j < i ∧ bytes[j]? = some opening ∧ Settled opening closing bytes depth j i ∧
      ∀ k, j < k → k ≤ i → Pending opening closing bytes depth k i

theorem pending_self (hd : 0 < depth) : Pending opening closing bytes depth i i := by
  rw [Pending, extract_self]
  simpa using hd

section

variable (hne : opening ≠ closing)
include hne

theorem depthLeft_eq_zero_iff (hd : 0 < depth) :
    depthLeft opening closing depth x = 0 ↔ x = opening ∧ depth = 1 := by
  unfold depthLeft
  split
  · rename_i hx
    simp [hx, hne.symm]
  · split
    · rename_i hx
      simp only [hx, true_and]
      omega
    · rename_i hx
      simp only [hx, false_and, iff_false]
      omega

theorem exists_count_succ (hd : 0 < depth) (hx : bytes[i]? = some x) (hk : k ≤ i) :
    ∃ n, (bytes.extract k (i + 1)).count opening = (bytes.extract k i).count opening + n ∧
      (bytes.extract k (i + 1)).count closing + depth =
        (bytes.extract k i).count closing + depthLeft opening closing depth x + n := by
  rw [extract_succ hx hk, List.count_append, List.count_append, List.count_singleton, List.count_singleton,
    depthLeft]
  refine ⟨_, rfl, ?_⟩
  by_cases hclosing : x = closing
  · simp only [hclosing, beq_self_eq_true, if_true, beq_iff_eq, if_neg hne.symm]
    omega
  · by_cases hopening : x = opening
    · simp only [hopening, beq_self_eq_true, if_true, beq_iff_eq, if_neg hne]
      omega
    · simp only [hclosing, hopening, beq_iff_eq, if_false]
      omega

theorem pending_succ_iff (hd : 0 < depth) (hx : bytes[i]? = some x) (hk : k ≤ i) :
    Pending opening closing bytes depth k (i + 1) ↔
      Pending opening closing bytes (depthLeft opening closing depth x) k i := by
  obtain ⟨n, hopening, hclosing⟩ := exists_count_succ hne hd hx hk
  rw [Pending, Pending]
  omega

theorem settled_succ_iff (hd : 0 < depth) (hx : bytes[i]? = some x) (hk : k ≤ i) :
    Settled opening closing bytes depth k (i + 1) ↔
      Settled opening closing bytes (depthLeft opening closing depth x) k i := by
  obtain ⟨n, hopening, hclosing⟩ := exists_count_succ hne hd hx hk
  rw [Settled, Settled]
  omega

theorem Finds.succ {found : Option Nat} (hd : 0 < depth) (hx : bytes[i]? = some x)
    (h : Finds opening closing bytes (depthLeft opening closing depth x) i found) :
    Finds opening closing bytes depth (i + 1) found := by
  have hpending {k : Nat} (hk : k ≤ i + 1)
      (hbefore : k ≤ i → Pending opening closing bytes (depthLeft opening closing depth x) k i) :
      Pending opening closing bytes depth k (i + 1) := by
    rcases Nat.le_succ_iff.mp hk with hk | rfl
    · exact (pending_succ_iff hne hd hx hk).mpr (hbefore hk)
    · exact pending_self hd
  cases found with
  | none => exact fun k hk => hpending hk (h k)
  | some j =>
    obtain ⟨hj, hopening, hsettled, hnearest⟩ := h
    exact ⟨Nat.lt_succ_of_lt hj, hopening, (settled_succ_iff hne hd hx hj.le).mpr hsettled,
      fun k hjk hk => hpending hk (hnearest k hjk)⟩

theorem exists_walk (hd : 0 < depth) (hi : i ≤ bytes.length) :
    ∃ found, walk opening closing bytes depth i = .ok found ∧ Finds opening closing bytes depth i found := by
  induction i generalizing depth with
  | zero =>
    refine ⟨none, ?_, fun k hk => ?_⟩
    · cases depth with
      | zero => exact absurd hd (Nat.lt_irrefl 0)
      | succ depth => rw [walk]
    · rw [Nat.le_zero.mp hk]
      exact pending_self hd
  | succ i ih =>
    have hx : bytes[i]? = some bytes[i] := List.getElem?_eq_getElem hi
    obtain ⟨depth, rfl⟩ := Nat.exists_eq_succ_of_ne_zero hd.ne'
    rw [Nat.succ_eq_add_one, walk_succ hx]
    by_cases hzero : depthLeft opening closing (depth + 1) bytes[i] = 0
    · -- The walk stops on this byte, which opens the last group.
      obtain ⟨hopening, -⟩ := (depthLeft_eq_zero_iff hne hd).mp hzero
      have hsettled : Settled opening closing bytes (depth + 1) i (i + 1) := by
        rw [settled_succ_iff hne hd hx le_rfl, hzero, Settled, extract_self]
        rfl
      refine ⟨some i, by rw [hzero, walk], Nat.lt_succ_self i, hopening ▸ hx, hsettled, fun k hik hk => ?_⟩
      rw [Nat.le_antisymm hk hik]
      exact pending_self hd
    · obtain ⟨found, hwalk, hfinds⟩ := ih (Nat.pos_of_ne_zero hzero) (Nat.le_of_succ_le hi)
      exact ⟨found, hwalk, hfinds.succ hne hd hx⟩

theorem exists_partner (hi : bytes[i]? = some closing) :
    ∃ found, partner opening closing bytes i = .ok found ∧ Finds opening closing bytes 1 i found := by
  obtain ⟨hlt, -⟩ := List.getElem?_eq_some_iff.mp hi
  rw [partner_of_closing hi]
  exact exists_walk hne Nat.one_pos hlt.le

theorem count_extract_closing (hi : bytes[i]? = some closing) (hk : k ≤ i) :
    (bytes.extract k (i + 1)).count opening = (bytes.extract k i).count opening ∧
      (bytes.extract k (i + 1)).count closing = (bytes.extract k i).count closing + 1 := by
  rw [extract_succ hi hk, List.count_append, List.count_append, List.count_singleton_self,
    List.count_singleton, beq_false_of_ne hne.symm]
  exact ⟨rfl, rfl⟩

theorem partner_eq_some_iff (hi : bytes[i]? = some closing) : partner opening closing bytes i = .ok (some j) ↔
    IsGreatest {k | k ≤ i ∧
      (bytes.extract k (i + 1)).count opening = (bytes.extract k (i + 1)).count closing} j := by
  obtain ⟨found, hpartner, hfinds⟩ := exists_partner hne hi
  rw [hpartner]
  cases found with
  | none =>
    refine iff_of_false (by simp) ?_
    rintro ⟨⟨hj, hsame⟩, -⟩
    have hpending : (bytes.extract j i).count opening < _ := hfinds j hj
    obtain ⟨hopening, hclosing⟩ := count_extract_closing hne hi hj
    omega
  | some k =>
    obtain ⟨hk, -, hsettled, hnearest⟩ := hfinds
    have hgreatest : IsGreatest {k | k ≤ i ∧
        (bytes.extract k (i + 1)).count opening = (bytes.extract k (i + 1)).count closing} k := by
      obtain ⟨hopening, hclosing⟩ := count_extract_closing hne hi hk.le
      refine ⟨⟨hk.le, by rw [hopening, hclosing, hsettled]⟩, ?_⟩
      rintro l ⟨hl, hsame⟩
      by_contra hkl
      have hpending : (bytes.extract l i).count opening < _ := hnearest l (Nat.lt_of_not_le hkl) hl
      obtain ⟨hopening, hclosing⟩ := count_extract_closing hne hi hl
      omega
    constructor
    · rintro ⟨⟩
      exact hgreatest
    · intro hj
      rw [hgreatest.unique hj]

theorem partner_eq_none_iff (hi : bytes[i]? = some closing) : partner opening closing bytes i = .ok none ↔
    ∀ k ≤ i, (bytes.extract k (i + 1)).count opening < (bytes.extract k (i + 1)).count closing := by
  obtain ⟨found, hpartner, hfinds⟩ := exists_partner hne hi
  rw [hpartner]
  cases found with
  | none =>
    refine iff_of_true rfl fun k hk => ?_
    have hpending : (bytes.extract k i).count opening < _ := hfinds k hk
    obtain ⟨hopening, hclosing⟩ := count_extract_closing hne hi hk
    omega
  | some k =>
    obtain ⟨hk, -, hsettled, -⟩ := hfinds
    refine iff_of_false (by simp) fun hall => ?_
    obtain ⟨hopening, hclosing⟩ := count_extract_closing hne hi hk.le
    have hfewer := hall k hk.le
    rw [hopening, hclosing, hsettled] at hfewer
    exact Nat.lt_irrefl _ hfewer

theorem of_partner_eq_some (hi : bytes[i]? = some closing) (h : partner opening closing bytes i = .ok (some j)) :
    j < i ∧ bytes[j]? = some opening := by
  obtain ⟨found, hpartner, hfinds⟩ := exists_partner hne hi
  obtain rfl : found = some j := Except.ok.inj (hpartner.symm.trans h)
  exact ⟨hfinds.1, hfinds.2.1⟩

end

theorem asciiByte_opening_ne_closing (b : Bracket) : asciiByte b.opening ≠ asciiByte b.closing := by
  cases b <;> decide

theorem seek_eq_walk (b : Bracket) (s : List Char) (depth i : Nat) :
    seek b s depth i = walk (asciiByte b.opening) (asciiByte b.closing) (utf8 s) depth i := by
  induction i generalizing depth with
  | zero => cases depth <;> rfl
  | succ i ih =>
    cases depth with
    | zero => rfl
    | succ depth =>
      simp only [seek, walk, ih]
      rfl

theorem skip_eq_partner (b : Bracket) (s : List Char) (i : Nat) :
    skip b s i = partner (asciiByte b.opening) (asciiByte b.closing) (utf8 s) i := by
  simp only [skip, partner, seek_eq_walk]
  rfl

end Bytes

open Bytes

/-- From a closing bracket at any place of any bytes, the search for its partner ends. It stops on an opening
bracket, at the greatest offset from which on as many brackets of the family open as close up to that place;
and it finds nothing exactly if more close than open from every offset on. On a text it is a step of the cursor.
Since it stops where no family acts, no scan depends on the order in which the families are tried. -/
theorem partner_isGreatest :
    (∀ (b : Bracket) (bytes : List UInt8) (i : Nat), bytes[i]? = some (asciiByte b.closing) →
      let search := partner (asciiByte b.opening) (asciiByte b.closing) bytes i
      let opened (k : Nat) := (bytes.extract k (i + 1)).count (asciiByte b.opening)
      let closed (k : Nat) := (bytes.extract k (i + 1)).count (asciiByte b.closing)
      (∃ found, search = .ok found) ∧
      (∀ j, search = .ok (some j) ↔ IsGreatest {k | k ≤ i ∧ opened k = closed k} j) ∧
      (∀ j, search = .ok (some j) → j < i ∧ bytes[j]? = some (asciiByte b.opening)) ∧
      (search = .ok none ↔ ∀ k ≤ i, opened k < closed k)) ∧
    (∀ (b : Bracket) (c : Cursor) (post : List Char), c.left ≠ [] →
      partner (asciiByte b.opening) (asciiByte b.closing) (utf8 (c.text ++ post)) c.offset =
        .ok ((c.skip b).map Cursor.offset)) ∧
    ∀ order : List Bracket, (∀ b, b ∈ order) →
      (∀ c, cutFrom order c = cutFrom Bracket.all c) ∧
      ∀ s index, shortNameTrying order s index = .ok (Signature.shortNameUpTo s index).value := by
  refine ⟨fun b bytes i hi => ?_, fun b c post hc => ?_, fun order horder => ?_⟩
  · have hne := asciiByte_opening_ne_closing b
    obtain ⟨found, hfound, -⟩ := exists_partner hne hi
    exact ⟨⟨found, hfound⟩, fun j => partner_eq_some_iff hne hi, fun j => of_partner_eq_some hne hi,
      partner_eq_none_iff hne hi⟩
  · rw [← skip_eq_partner]
    exact skip_eq b post hc
  · exact ⟨cutFrom_of_mem horder, shortNameTrying_eq horder⟩

theorem partner_isGreatest_no_text :
    let bytes : List UInt8 := [0xff, 0x28, 0xc3, 0x29, 0x29]
    let opened (k i : Nat) := (bytes.extract k (i + 1)).count (asciiByte '(')
    let closed (k i : Nat) := (bytes.extract k (i + 1)).count (asciiByte ')')
    let c : Cursor := ⟨['>', 'é', '<'], []⟩
    let order : List Bracket := [.brace, .round, .angle]
    (bytes[3]? = some (asciiByte ')') ∧ partner (asciiByte '(') (asciiByte ')') bytes 3 = .ok (some 1) ∧
      IsGreatest {k | k ≤ 3 ∧ opened k 3 = closed k 3} 1) ∧
    (bytes[4]? = some (asciiByte ')') ∧ (∀ k ≤ 4, opened k 4 < closed k 4) ∧
      partner (asciiByte '(') (asciiByte ')') bytes 4 = .ok none) ∧
    (c.left ≠ [] ∧ partner (asciiByte '<') (asciiByte '>') (utf8 "<é>.".toList) 3 = .ok (some 0)) ∧
    ((∀ b, b ∈ order) ∧ cutFrom order c = cutFrom Bracket.all c ∧
      shortNameTrying order "A.<é>.".toList 5 = .ok (Signature.shortNameUpTo "A.<é>.".toList 5).value) := by
  intro bytes opened closed c order
  obtain ⟨hbytes, hcursor, horders⟩ := partner_isGreatest
  have hclosed : bytes[3]? = some (asciiByte ')') := by decide
  have hlone : bytes[4]? = some (asciiByte ')') := by decide
  have hfound : partner (asciiByte '(') (asciiByte ')') bytes 3 = .ok (some 1) := rfl
  have hfewer : ∀ k ≤ 4, opened k 4 < closed k 4 := by decide
  have hc : c.left ≠ [] := by decide
  have horder : ∀ b, b ∈ order := by
    intro b
    cases b <;> decide
  exact ⟨⟨hclosed, hfound, ((hbytes .round bytes 3 hclosed).2.1 1).mp hfound⟩,
    ⟨hlone, hfewer, (hbytes .round bytes 4 hlone).2.2.2.mpr hfewer⟩,
    ⟨hc, hcursor .angle c ['.'] hc⟩,
    ⟨horder, (horders order horder).1 c, (horders order horder).2 _ 5⟩⟩

end TagTooltips.Signature
